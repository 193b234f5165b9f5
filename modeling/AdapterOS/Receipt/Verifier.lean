import AdapterOS.Core.Hex
import AdapterOS.Library.Ranking
import AdapterOS.Receipt.Digest

/-! The offline verifier: a bundle is replayed and every disagreement is a reason to reject it. -/
namespace AdapterOS.Receipt

open Library

inductive ReasonCode where
  | contextMismatch
  | traceTamper
  | outputMismatch
  | policyMismatch
  | backendMismatch
  | signatureInvalid
  | backendAttestationMismatch
  | schemaVersionUnsupported
  | seedDigestMismatch
  | seedModeViolation
  | seedDigestMissing
  | expectedDigestInvalid
  | payloadParseError
  | nonCanonicalPayload
  | receiptDigestMismatch
  deriving DecidableEq, Repr

section Bundles

structure ReceiptContext where
  tenantNamespace : String
  stackHashHex : String
  promptTokens : List UInt32
  policyMaskDigestHex : Option String := none
  contextDigestHex : Option String := none
  tokenizerHashB3Hex : Option String := none
  tokenizerVersion : Option String := none
  tokenizerNormalization : Option String := none

structure ReceiptToken where
  tokenIndex : UInt32
  adapterIds : List String
  gatesQ15 : List Int16
  policyMaskDigestHex : Option String := none
  backendId : Option String := none
  kernelVersionId : Option String := none
  decisionHashHex : Option String := none

structure ReceiptDigests where
  runHeadHashHex : String
  outputDigestHex : String
  receiptDigestHex : String
  signatureB64 : Option String := none
  publicKeyHex : Option String := none
  logicalPromptTokens : UInt32 := 0
  prefixCachedTokenCount : UInt32 := 0
  billedInputTokens : UInt32 := 0
  logicalOutputTokens : UInt32 := 0
  billedOutputTokens : UInt32 := 0
  schemaVersion : UInt8 := 1
  rootSeedDigestHex : Option String := none
  seedMode : Option String := none
  hasManifestBinding : Option Bool := none
  stopReasonCode : Option String := none
  stopReasonTokenIndex : Option UInt32 := none
  stopPolicyDigestB3Hex : Option String := none
  tenantKvQuotaBytes : UInt64 := 0
  tenantKvBytesUsed : UInt64 := 0
  kvEvictions : UInt32 := 0
  kvResidencyPolicyId : Option String := none
  kvQuotaEnforced : Bool := false
  prefixKvKeyB3Hex : Option String := none
  prefixCacheHit : Bool := false
  prefixKvBytes : UInt64 := 0
  modelCacheIdentityV2DigestB3Hex : Option String := none
  equipmentProfileDigestB3Hex : Option String := none
  processorId : Option String := none
  mlxVersion : Option String := none
  aneVersion : Option String := none
  citationsMerkleRootB3Hex : Option String := none
  citationCount : UInt32 := 0
  previousReceiptDigestHex : Option String := none
  sessionSequence : UInt64 := 0
  tokenizerHashB3Hex : Option String := none
  tokenizerVersion : Option String := none
  tokenizerNormalization : Option String := none
  modelBuildHashB3Hex : Option String := none
  adapterBuildHashB3Hex : Option String := none
  decodeAlgo : Option String := none
  temperatureQ15 : Option Int16 := none
  topPQ15 : Option Int16 := none
  topK : Option UInt32 := none
  seedDigestB3Hex : Option String := none
  samplingBackend : Option String := none
  threadCount : Option UInt32 := none
  reductionStrategy : Option String := none
  stopEosQ15 : Option Int16 := none
  stopWindowDigestB3Hex : Option String := none
  cacheScope : Option String := none
  cachedPrefixDigestB3Hex : Option String := none
  cachedPrefixLen : Option UInt32 := none
  cacheKeyB3Hex : Option String := none
  retrievalMerkleRootB3Hex : Option String := none
  retrievalOrderDigestB3Hex : Option String := none
  toolCallInputsDigestB3Hex : Option String := none
  toolCallOutputsDigestB3Hex : Option String := none
  disclosureLevel : Option String := none

structure ReceiptBundle where
  traceId : String
  tenantId : String
  contextDigestHex : Option String := none
  context : ReceiptContext
  tokens : List ReceiptToken
  outputTokens : List UInt32
  receipt : ReceiptDigests
  expectedBackend : Option String := none
  expectedKernelVersion : Option String := none
  backendUsed : Option String := none
  backendAttestationB3Hex : Option String := none

structure VerifyOptions where
  expectedSeed : Option B3Hash := none
  requireSeedDigest : Bool := false
  expectedSeedMode : Option String := none

structure DigestComparison where
  computed : String
  expected : String
  agree : Bool
  deriving DecidableEq

structure ReceiptVerificationReport where
  traceId : String
  tenantId : Option String
  source : String
  pass : Bool
  reasons : List ReasonCode
  mismatchedToken : Option UInt32
  contextDigest : DigestComparison
  runHeadHash : DigestComparison
  outputDigest : DigestComparison
  receiptDigest : DigestComparison
  signatureChecked : Bool
  signatureValid : Option Bool
  deriving DecidableEq

end Bundles

/-- What the verifier takes from other libraries. -/
structure VerifierLib where
  hash : List UInt8 → B3Hash
  toLowercase : String → String
  decodeBase64 : String → Except String (List UInt8)
  publicKeyFromBytes : B3Hash → Except String Unit
  /-- Whether the key accepts the 64 signature bytes for the message. -/
  verify : B3Hash → List UInt8 → List UInt8 → Bool

def digitLib : VerifierLib where
  hash := digitHash
  toLowercase := id
  decodeBase64 := fun _ => .ok []
  publicKeyFromBytes := fun _ => .ok ()
  verify := fun _ _ _ => true

section Reasons

def pushReason (reasons : List ReasonCode) (code : ReasonCode) : List ReasonCode :=
  if code ∈ reasons then reasons else reasons ++ [code]

def pushReasonIf (reasons : List ReasonCode) (failed : Bool) (code : ReasonCode) :
    List ReasonCode :=
  if failed then pushReason reasons code else reasons

end Reasons

section Decoding

def decodeHex32 (label text : String) : Except String B3Hash :=
  match decodeHex text with
  | none => .error ("Failed to decode " ++ label ++ " hex (" ++ text ++ ")")
  | some bytes =>
    if bytes.length = 32 then .ok (.ofBytes bytes)
    else .error (label ++ " must be 32 bytes, got " ++ toString bytes.length)

def parseDigest (context text : String) : Except String B3Hash :=
  match B3Hash.fromHex text with
  | none => .error context
  | some digest => .ok digest

def boundDigest (text : Option String) : Option B3Hash := text.bind B3Hash.fromHex

end Decoding

section Digests

variable (hash : List UInt8 → B3Hash)

/-- The historical framing: no allowed mask and no policy overrides. -/
def bundleDecisionMessage (contextDigest : B3Hash) (tokenIndex : UInt32)
    (adapterBlob gatesBlob : List UInt8) (policyMaskDigest : Option B3Hash)
    (backendId kernelVersionId : Option String) : List UInt8 :=
  B3Hash.asBytes contextDigest ++ le32 tokenIndex ++ lengthPrefixed adapterBlob ++
    lengthPrefixed gatesBlob ++ attestationBytes policyMaskDigest ++ stringBytes backendId ++
    stringBytes kernelVersionId

def hashDecision (contextDigest : B3Hash) (tokenIndex : UInt32)
    (adapterBlob gatesBlob : List UInt8) (policyMaskDigest : Option B3Hash)
    (backendId kernelVersionId : Option String) : B3Hash :=
  hash (bundleDecisionMessage contextDigest tokenIndex adapterBlob gatesBlob policyMaskDigest
    backendId kernelVersionId)

def updateHead (prev : B3Hash) (tokenIndex : UInt32) (decisionHash : B3Hash) : B3Hash :=
  hash (B3Hash.asBytes prev ++ B3Hash.asBytes decisionHash ++ le32 tokenIndex)

/-- The version and normalization of the tokenizer count only next to its hash. -/
def contextDigestBytes (tenantNamespace : String) (stackHash : List UInt8)
    (tokenizerHashB3 : Option (List UInt8)) (tokenizerVersion tokenizerNormalization :
    Option String) (promptTokens : List UInt32) : List UInt8 :=
  utf8 tenantNamespace ++ stackHash ++
    (match tokenizerHashB3 with
    | none => []
    | some tokenizerHash =>
      tokenizerHash ++ ((tokenizerVersion.map fun v => lengthPrefixed (utf8 v)).getD []) ++
        ((tokenizerNormalization.map fun n => lengthPrefixed (utf8 n)).getD [])) ++
    leBytes 4 promptTokens.length ++ promptTokens.flatMap le32

/-- A tokenizer hash that is present and cannot be decoded counts as empty. -/
def computeContextDigest (ctx : ReceiptContext) : Except String B3Hash :=
  match decodeHex ctx.stackHashHex with
  | none => .error "Failed to decode stack_hash_hex"
  | some stackBytes =>
    .ok (hash (contextDigestBytes ctx.tenantNamespace stackBytes
      (ctx.tokenizerHashB3Hex.map fun text => (decodeHex text).getD []) ctx.tokenizerVersion
      ctx.tokenizerNormalization ctx.promptTokens))

end Digests

namespace ReceiptBundle

variable (bundle : ReceiptBundle)

section DigestInput

variable (input : ReceiptDigestInput)

def bindBackend : ReceiptDigestInput :=
  input.withBackend bundle.backendUsed (boundDigest bundle.backendAttestationB3Hex)

def bindSeed : ReceiptDigestInput :=
  input.withSeedLineage (boundDigest bundle.receipt.rootSeedDigestHex) bundle.receipt.seedMode
    bundle.receipt.hasManifestBinding

def bindProduction : ReceiptDigestInput :=
  let r := bundle.receipt
  (((input.withStopController r.stopReasonCode r.stopReasonTokenIndex
    (boundDigest r.stopPolicyDigestB3Hex)).withKvQuota r.tenantKvQuotaBytes r.tenantKvBytesUsed
    r.kvEvictions r.kvResidencyPolicyId r.kvQuotaEnforced).withPrefixCache
    (boundDigest r.prefixKvKeyB3Hex) r.prefixCacheHit r.prefixKvBytes).withModelCacheIdentity
    (boundDigest r.modelCacheIdentityV2DigestB3Hex)

def bindEquipment : ReceiptDigestInput :=
  let r := bundle.receipt
  (input.withEquipmentProfile (boundDigest r.equipmentProfileDigestB3Hex) r.processorId
    r.mlxVersion r.aneVersion).withCitations (boundDigest r.citationsMerkleRootB3Hex)
    r.citationCount

def bindLineage : ReceiptDigestInput :=
  input.withCrossRunLineage (boundDigest bundle.receipt.previousReceiptDigestHex)
    bundle.receipt.sessionSequence

def bindEnvelope : ReceiptDigestInput :=
  let r := bundle.receipt
  (((((((input.withTokenizerIdentity (boundDigest r.tokenizerHashB3Hex) r.tokenizerVersion
    r.tokenizerNormalization).withBuildProvenance (boundDigest r.modelBuildHashB3Hex)
    (boundDigest r.adapterBuildHashB3Hex)).withDecoderConfig r.decodeAlgo r.temperatureQ15
    r.topPQ15 r.topK (boundDigest r.seedDigestB3Hex) r.samplingBackend).withConcurrencyDeterminism
    r.threadCount r.reductionStrategy).withStopControllerInputs r.stopEosQ15
    (boundDigest r.stopWindowDigestB3Hex)).withCacheProof r.cacheScope
    (boundDigest r.cachedPrefixDigestB3Hex) r.cachedPrefixLen
    (boundDigest r.cacheKeyB3Hex)).withRetrievalToolBinding
    (boundDigest r.retrievalMerkleRootB3Hex) (boundDigest r.retrievalOrderDigestB3Hex)
    (boundDigest r.toolCallInputsDigestB3Hex)
    (boundDigest r.toolCallOutputsDigestB3Hex)).withDisclosureLevel r.disclosureLevel

/-- What every version binds. -/
def coreInput (contextDigest runHead outputDigest : B3Hash) : ReceiptDigestInput :=
  let r := bundle.receipt
  .new contextDigest runHead outputDigest r.logicalPromptTokens r.prefixCachedTokenCount
    r.billedInputTokens r.logicalOutputTokens r.billedOutputTokens

/-- The fields that the bundle's version binds. -/
def digestInput (contextDigest runHead outputDigest : B3Hash) : ReceiptDigestInput :=
  let version := bundle.receipt.schemaVersion.toNat
  let input := bundle.coreInput contextDigest runHead outputDigest
  let input := if 2 ≤ version then bundle.bindBackend input else input
  let input := if 3 ≤ version then bundle.bindSeed input else input
  let input := if 4 ≤ version then bundle.bindProduction input else input
  let input := if 5 ≤ version then bundle.bindEquipment input else input
  let input := if 6 ≤ version then bundle.bindLineage input else input
  if 7 ≤ version then bundle.bindEnvelope input else input

/-- An unsupported version gets the zero digest. -/
def computeReceiptDigestFromBundle (hash : List UInt8 → B3Hash)
    (contextDigest runHead outputDigest : B3Hash) : B3Hash :=
  (computeReceiptDigest hash (bundle.digestInput contextDigest runHead outputDigest)
    bundle.receipt.schemaVersion.toNat).getD 0

end DigestInput

section Checks

def expectedContextHex (computed : B3Hash) : String :=
  (bundle.contextDigestHex.or bundle.context.contextDigestHex).getD (B3Hash.toHex computed)

/-- The token counts of the receipt against the bundle and against each other. -/
def accountingReasons (reasons : List ReasonCode) : List ReasonCode :=
  let r := bundle.receipt
  let reasons := pushReasonIf reasons
    (r.logicalPromptTokens ≠ .ofNat bundle.context.promptTokens.length) .contextMismatch
  -- The subtraction saturates, which that of natural numbers does as well.
  let reasons := pushReasonIf reasons
    (r.logicalPromptTokens.toNat - r.prefixCachedTokenCount.toNat ≠ r.billedInputTokens.toNat)
    .traceTamper
  let reasons := pushReasonIf reasons
    (r.logicalOutputTokens ≠ .ofNat bundle.outputTokens.length) .traceTamper
  pushReasonIf reasons (r.billedOutputTokens ≠ r.logicalOutputTokens) .traceTamper

/-- Some token differs from what all tokens should have; a missing text differs. -/
def textMismatch (toLowercase : String → String) (text : ReceiptToken → Option String) :
    Option String → Bool
  | none => false
  | some expected => bundle.tokens.any fun t =>
    ((text t).map fun s => decide (toLowercase s ≠ toLowercase expected)).getD true

def backendReasons (toLowercase : String → String) (reasons : List ReasonCode) :
    List ReasonCode :=
  let reasons := pushReasonIf reasons
    (bundle.textMismatch toLowercase ReceiptToken.backendId bundle.expectedBackend)
    .backendMismatch
  pushReasonIf reasons
    (bundle.textMismatch toLowercase ReceiptToken.kernelVersionId bundle.expectedKernelVersion)
    .backendMismatch

def policyReasons (reasons : List ReasonCode) : Except String (List ReasonCode) :=
  match bundle.context.policyMaskDigestHex with
  | none => .ok reasons
  | some text => do
    let expectedPolicy ← decodeHex32 "policy_mask_digest_hex" text
    return pushReasonIf reasons (bundle.tokens.any fun t =>
      ((boundDigest t.policyMaskDigestHex).map fun d => decide (d ≠ expectedPolicy)).getD true)
      .policyMismatch

def verifySeedBinding (hash : List UInt8 → B3Hash) (expectedSeed : Option B3Hash) :
    Option ReasonCode :=
  match expectedSeed, bundle.receipt.rootSeedDigestHex with
  | some expected, some claimedDigest =>
    if B3Hash.toHex (hash (B3Hash.asBytes expected)) ≠ claimedDigest then some .seedDigestMismatch
    else none
  | _, _ => none

/-- A missing seed mode is a violation from version 3 on. -/
def seedModeViolated (toLowercase : String → String) (expectedSeedMode : Option String) : Bool :=
  match expectedSeedMode, bundle.receipt.seedMode with
  | none, _ => false
  | some expected, some actual => toLowercase actual ≠ toLowercase expected
  | some _, none => 3 ≤ bundle.receipt.schemaVersion.toNat

def seedReasons (lib : VerifierLib) (options : VerifyOptions) (reasons : List ReasonCode) :
    List ReasonCode :=
  let reasons := match bundle.verifySeedBinding lib.hash options.expectedSeed with
    | none => reasons
    | some reason => pushReason reasons reason
  let reasons := pushReasonIf reasons
    (options.requireSeedDigest && bundle.receipt.rootSeedDigestHex.isNone) .seedDigestMissing
  pushReasonIf reasons (bundle.seedModeViolated lib.toLowercase options.expectedSeedMode)
    .seedModeViolation

end Checks

end ReceiptBundle

section Replay

variable (hash : List UInt8 → B3Hash)

/-- The state of the verifier's loop over the tokens. -/
structure Replay where
  runHead : B3Hash := 0
  mismatchedToken : Option UInt32 := none

/-- A token without its own hash has nothing that could differ. -/
def checkDecisionHash (token : ReceiptToken) (decisionHash : B3Hash)
    (mismatchedToken : Option UInt32) : Except String (Option UInt32) :=
  match token.decisionHashHex with
  | none => .ok mismatchedToken
  | some text => do
    let expectedHash ← parseDigest "Invalid decision_hash_hex" text
    return if expectedHash ≠ decisionHash ∧ mismatchedToken = none then some token.tokenIndex
      else mismatchedToken

def tokenPolicyDigest (token : ReceiptToken) : Except String (Option B3Hash) :=
  match token.policyMaskDigestHex with
  | none => .ok none
  | some text => (decodeHex32 "policy_mask_digest_hex" text).map some

def replayToken (contextDigest : B3Hash) (state : Replay) (token : ReceiptToken) :
    Except String Replay := do
  let policyDigest ← tokenPolicyDigest token
  let decisionHash := hashDecision hash contextDigest token.tokenIndex
    (encodeAdapterIds token.adapterIds) (encodeGatesQ15 token.gatesQ15) policyDigest
    token.backendId token.kernelVersionId
  let mismatchedToken ← checkDecisionHash token decisionHash state.mismatchedToken
  return ⟨updateHead hash state.runHead token.tokenIndex decisionHash, mismatchedToken⟩

def replayTokens (contextDigest : B3Hash) : Replay → List ReceiptToken → Except String Replay
  | state, [] => .ok state
  | state, token :: tokens => do
    let state ← replayToken hash contextDigest state token
    replayTokens contextDigest state tokens

end Replay

section Verify

variable (lib : VerifierLib)

/-- Whether a signature was checked and with which outcome, after the reasons so far. -/
def verifySignature (receipt : ReceiptDigests) (receiptDigest : B3Hash)
    (reasons : List ReasonCode) : Except String (List ReasonCode × Bool × Option Bool) :=
  match receipt.signatureB64, receipt.publicKeyHex with
  | none, _ => .ok (reasons, false, none)
  | some _, none => .ok (pushReason reasons .signatureInvalid, true, some false)
  | some signature, some pubkeyHex =>
    match lib.decodeBase64 signature with
    | .error e => .error ("Invalid base64 signature: " ++ e)
    | .ok sigBytes =>
      if sigBytes.length ≠ 64 then .ok (pushReason reasons .signatureInvalid, true, some false)
      else do
        let pubBytes ← decodeHex32 "public_key" pubkeyHex
        match lib.publicKeyFromBytes pubBytes with
        | .error e => throw ("Invalid public key: " ++ e)
        | .ok () =>
          let verified := lib.verify pubBytes (B3Hash.asBytes receiptDigest) sigBytes
          return (pushReasonIf reasons (!verified) .signatureInvalid, true, some verified)

def verifyBundleInner (bundle : ReceiptBundle) (options : VerifyOptions) :
    Except String ReceiptVerificationReport := do
  let computedContext ← computeContextDigest lib.hash bundle.context
  let expectedContextHex := bundle.expectedContextHex computedContext
  let contextExpected ← parseDigest "Invalid expected context digest hex" expectedContextHex
  let reasons := pushReasonIf [] (contextExpected ≠ computedContext) .contextMismatch
  let reasons := bundle.accountingReasons reasons
  let reasons := bundle.backendReasons lib.toLowercase reasons
  let reasons ← bundle.policyReasons reasons
  let tokensSorted := sortBy (fun t => t.tokenIndex.toNat) bundle.tokens
  let replay ← replayTokens lib.hash computedContext {} tokensSorted
  let expectedRunHead ← parseDigest
    ("Invalid run_head_hash_hex (" ++ bundle.receipt.runHeadHashHex ++ ")")
    bundle.receipt.runHeadHashHex
  let reasons := pushReasonIf reasons (expectedRunHead ≠ replay.runHead) .traceTamper
  -- A broken chain names its last token, unless one was named before.
  let lastToken := (tokensSorted.getLast?.map ReceiptToken.tokenIndex).getD 0
  let mismatchedToken :=
    if expectedRunHead ≠ replay.runHead then some (replay.mismatchedToken.getD lastToken)
    else replay.mismatchedToken
  let outputDigest := computeOutputDigest lib.hash bundle.outputTokens
  let expectedOutput ← parseDigest "Invalid output_digest_hex" bundle.receipt.outputDigestHex
  let reasons := pushReasonIf reasons (expectedOutput ≠ outputDigest) .outputMismatch
  let receiptDigest := bundle.computeReceiptDigestFromBundle lib.hash computedContext
    replay.runHead outputDigest
  let expectedReceipt ← parseDigest
    ("Invalid receipt_digest_hex (" ++ bundle.receipt.receiptDigestHex ++ ")")
    bundle.receipt.receiptDigestHex
  let reasons := pushReasonIf reasons (expectedReceipt ≠ receiptDigest) .traceTamper
  let reasons := bundle.seedReasons lib options reasons
  let (reasons, signatureChecked, signatureValid) ←
    verifySignature lib bundle.receipt expectedReceipt reasons
  return {
    traceId := bundle.traceId
    tenantId := some bundle.tenantId
    source := "bundle"
    pass := reasons.isEmpty
    reasons
    mismatchedToken
    contextDigest :=
      ⟨B3Hash.toHex computedContext, expectedContextHex, computedContext = contextExpected⟩
    runHeadHash := ⟨B3Hash.toHex replay.runHead, bundle.receipt.runHeadHashHex,
      replay.runHead = expectedRunHead⟩
    outputDigest :=
      ⟨B3Hash.toHex outputDigest, bundle.receipt.outputDigestHex, outputDigest = expectedOutput⟩
    receiptDigest := ⟨B3Hash.toHex receiptDigest, bundle.receipt.receiptDigestHex,
      receiptDigest = expectedReceipt⟩
    signatureChecked
    signatureValid }

end Verify

end AdapterOS.Receipt
