import AdapterOS.Core.Basic

/-! Receipt digests: what each schema version hashes, and the decision chain of a run. -/
namespace AdapterOS.Receipt

open Library

def receiptSchemaCurrent : Nat := 8

/-- Everything a receipt may bind; what is absent is bound as a sentinel. -/
structure ReceiptDigestInput where
  contextDigest : B3Hash
  runHeadHash : B3Hash
  outputDigest : B3Hash
  logicalPromptTokens : UInt32
  prefixCachedTokenCount : UInt32
  billedInputTokens : UInt32
  logicalOutputTokens : UInt32
  billedOutputTokens : UInt32
  backendUsed : Option String := none
  backendAttestationB3 : Option B3Hash := none
  rootSeedDigest : Option B3Hash := none
  seedMode : Option String := none
  hasManifestBinding : Option Bool := none
  stopReasonCode : Option String := none
  stopReasonTokenIndex : Option UInt32 := none
  stopPolicyDigestB3 : Option B3Hash := none
  tenantKvQuotaBytes : UInt64 := 0
  tenantKvBytesUsed : UInt64 := 0
  kvEvictions : UInt32 := 0
  kvResidencyPolicyId : Option String := none
  kvQuotaEnforced : Bool := false
  prefixKvKeyB3 : Option B3Hash := none
  prefixCacheHit : Bool := false
  prefixKvBytes : UInt64 := 0
  modelCacheIdentityV2DigestB3 : Option B3Hash := none
  equipmentProfileDigestB3 : Option B3Hash := none
  processorId : Option String := none
  mlxVersion : Option String := none
  aneVersion : Option String := none
  citationsMerkleRootB3 : Option B3Hash := none
  citationCount : UInt32 := 0
  previousReceiptDigest : Option B3Hash := none
  sessionSequence : UInt64 := 0
  tokenizerHashB3 : Option B3Hash := none
  tokenizerVersion : Option String := none
  tokenizerNormalization : Option String := none
  modelBuildHashB3 : Option B3Hash := none
  adapterBuildHashB3 : Option B3Hash := none
  decodeAlgo : Option String := none
  temperatureQ15 : Option Int16 := none
  topPQ15 : Option Int16 := none
  topK : Option UInt32 := none
  seedDigestB3 : Option B3Hash := none
  samplingBackend : Option String := none
  threadCount : Option UInt32 := none
  reductionStrategy : Option String := none
  stopEosQ15 : Option Int16 := none
  stopWindowDigestB3 : Option B3Hash := none
  cacheScope : Option String := none
  cachedPrefixDigestB3 : Option B3Hash := none
  cachedPrefixLen : Option UInt32 := none
  cacheKeyB3 : Option B3Hash := none
  retrievalMerkleRootB3 : Option B3Hash := none
  retrievalOrderDigestB3 : Option B3Hash := none
  toolCallInputsDigestB3 : Option B3Hash := none
  toolCallOutputsDigestB3 : Option B3Hash := none
  disclosureLevel : Option String := none
  adapterVersionBindingsDigestB3 : Option B3Hash := none

section Sentinels

def digestBytes (d : Option B3Hash) : List UInt8 := B3Hash.asBytes (d.getD 0)

def stringBytes (s : Option String) : List UInt8 := lengthPrefixed (utf8 (s.getD ""))

def wordBytes (n : Option UInt32) : List UInt8 := le32 (n.getD 0xFFFFFFFF)

def q15Bytes (q : Option Int16) : List UInt8 := le16 (q.getD Int16.minValue)

def attestationBytes (d : Option B3Hash) : List UInt8 :=
  lengthPrefixed ((d.map B3Hash.asBytes).getD [])

end Sentinels

namespace ReceiptDigestInput

variable (input : ReceiptDigestInput)

section Builders

def new (contextDigest runHeadHash outputDigest : B3Hash) (logicalPromptTokens
    prefixCachedTokenCount billedInputTokens logicalOutputTokens billedOutputTokens : UInt32) :
    ReceiptDigestInput :=
  { contextDigest, runHeadHash, outputDigest, logicalPromptTokens, prefixCachedTokenCount
    billedInputTokens, logicalOutputTokens, billedOutputTokens }

def withStopController (stopReasonCode : Option String) (stopReasonTokenIndex : Option UInt32)
    (stopPolicyDigestB3 : Option B3Hash) : ReceiptDigestInput :=
  { input with stopReasonCode, stopReasonTokenIndex, stopPolicyDigestB3 }

def withKvQuota (tenantKvQuotaBytes tenantKvBytesUsed : UInt64) (kvEvictions : UInt32)
    (kvResidencyPolicyId : Option String) (kvQuotaEnforced : Bool) : ReceiptDigestInput :=
  { input with
    tenantKvQuotaBytes, tenantKvBytesUsed, kvEvictions, kvResidencyPolicyId, kvQuotaEnforced }

def withPrefixCache (prefixKvKeyB3 : Option B3Hash) (prefixCacheHit : Bool)
    (prefixKvBytes : UInt64) : ReceiptDigestInput :=
  { input with prefixKvKeyB3, prefixCacheHit, prefixKvBytes }

def withModelCacheIdentity (modelCacheIdentityV2DigestB3 : Option B3Hash) : ReceiptDigestInput :=
  { input with modelCacheIdentityV2DigestB3 }

def withTokenizerIdentity (tokenizerHashB3 : Option B3Hash)
    (tokenizerVersion tokenizerNormalization : Option String) : ReceiptDigestInput :=
  { input with tokenizerHashB3, tokenizerVersion, tokenizerNormalization }

def withBuildProvenance (modelBuildHashB3 adapterBuildHashB3 : Option B3Hash) :
    ReceiptDigestInput :=
  { input with modelBuildHashB3, adapterBuildHashB3 }

def withDecoderConfig (decodeAlgo : Option String) (temperatureQ15 topPQ15 : Option Int16)
    (topK : Option UInt32) (seedDigestB3 : Option B3Hash) (samplingBackend : Option String) :
    ReceiptDigestInput :=
  { input with decodeAlgo, temperatureQ15, topPQ15, topK, seedDigestB3, samplingBackend }

def withConcurrencyDeterminism (threadCount : Option UInt32) (reductionStrategy : Option String) :
    ReceiptDigestInput :=
  { input with threadCount, reductionStrategy }

def withStopControllerInputs (stopEosQ15 : Option Int16) (stopWindowDigestB3 : Option B3Hash) :
    ReceiptDigestInput :=
  { input with stopEosQ15, stopWindowDigestB3 }

def withCacheProof (cacheScope : Option String) (cachedPrefixDigestB3 : Option B3Hash)
    (cachedPrefixLen : Option UInt32) (cacheKeyB3 : Option B3Hash) : ReceiptDigestInput :=
  { input with cacheScope, cachedPrefixDigestB3, cachedPrefixLen, cacheKeyB3 }

def withRetrievalToolBinding (retrievalMerkleRootB3 retrievalOrderDigestB3 toolCallInputsDigestB3
    toolCallOutputsDigestB3 : Option B3Hash) : ReceiptDigestInput :=
  { input with
    retrievalMerkleRootB3, retrievalOrderDigestB3, toolCallInputsDigestB3, toolCallOutputsDigestB3 }

def withDisclosureLevel (disclosureLevel : Option String) : ReceiptDigestInput :=
  { input with disclosureLevel }

def withEquipmentProfile (equipmentProfileDigestB3 : Option B3Hash)
    (processorId mlxVersion aneVersion : Option String) : ReceiptDigestInput :=
  { input with equipmentProfileDigestB3, processorId, mlxVersion, aneVersion }

def withCitations (citationsMerkleRootB3 : Option B3Hash) (citationCount : UInt32) :
    ReceiptDigestInput :=
  { input with citationsMerkleRootB3, citationCount }

def withBackend (backendUsed : Option String) (backendAttestationB3 : Option B3Hash) :
    ReceiptDigestInput :=
  { input with backendUsed, backendAttestationB3 }

def withSeedLineage (rootSeedDigest : Option B3Hash) (seedMode : Option String)
    (hasManifestBinding : Option Bool) : ReceiptDigestInput :=
  { input with rootSeedDigest, seedMode, hasManifestBinding }

def withCrossRunLineage (previousReceiptDigest : Option B3Hash) (sessionSequence : UInt64) :
    ReceiptDigestInput :=
  { input with previousReceiptDigest, sessionSequence }

end Builders

section Segments

def coreBytes : List UInt8 :=
  B3Hash.asBytes input.contextDigest ++ B3Hash.asBytes input.runHeadHash ++
    B3Hash.asBytes input.outputDigest ++ le32 input.logicalPromptTokens ++
    le32 input.prefixCachedTokenCount ++ le32 input.billedInputTokens ++
    le32 input.logicalOutputTokens ++ le32 input.billedOutputTokens

def backendBytes : List UInt8 :=
  stringBytes input.backendUsed ++ attestationBytes input.backendAttestationB3

def seedBytes : List UInt8 :=
  digestBytes input.rootSeedDigest ++ lengthPrefixed (utf8 (input.seedMode.getD "unknown")) ++
    flagByte (input.hasManifestBinding.getD false)

def stopBytes : List UInt8 :=
  stringBytes input.stopReasonCode ++ wordBytes input.stopReasonTokenIndex ++
    digestBytes input.stopPolicyDigestB3

def kvBytes : List UInt8 :=
  le64 input.tenantKvQuotaBytes ++ le64 input.tenantKvBytesUsed ++ le32 input.kvEvictions ++
    stringBytes input.kvResidencyPolicyId ++ flagByte input.kvQuotaEnforced

def prefixCacheBytes : List UInt8 :=
  digestBytes input.prefixKvKeyB3 ++ flagByte input.prefixCacheHit ++ le64 input.prefixKvBytes

def modelCacheBytes : List UInt8 := digestBytes input.modelCacheIdentityV2DigestB3

def equipmentBytes : List UInt8 :=
  digestBytes input.equipmentProfileDigestB3 ++ stringBytes input.processorId ++
    stringBytes input.mlxVersion ++ stringBytes input.aneVersion

def citationBytes : List UInt8 :=
  digestBytes input.citationsMerkleRootB3 ++ le32 input.citationCount

def lineageBytes : List UInt8 :=
  digestBytes input.previousReceiptDigest ++ le64 input.sessionSequence

def tokenizerBytes : List UInt8 :=
  digestBytes input.tokenizerHashB3 ++ stringBytes input.tokenizerVersion ++
    stringBytes input.tokenizerNormalization

def buildBytes : List UInt8 :=
  digestBytes input.modelBuildHashB3 ++ digestBytes input.adapterBuildHashB3

def decoderBytes : List UInt8 :=
  stringBytes input.decodeAlgo ++ q15Bytes input.temperatureQ15 ++ q15Bytes input.topPQ15 ++
    wordBytes input.topK ++ digestBytes input.seedDigestB3 ++ stringBytes input.samplingBackend

def concurrencyBytes : List UInt8 :=
  wordBytes input.threadCount ++ stringBytes input.reductionStrategy

def stopInputBytes : List UInt8 :=
  q15Bytes input.stopEosQ15 ++ digestBytes input.stopWindowDigestB3

def cacheProofBytes : List UInt8 :=
  stringBytes input.cacheScope ++ digestBytes input.cachedPrefixDigestB3 ++
    wordBytes input.cachedPrefixLen ++ digestBytes input.cacheKeyB3

def retrievalBytes : List UInt8 :=
  digestBytes input.retrievalMerkleRootB3 ++ digestBytes input.retrievalOrderDigestB3 ++
    digestBytes input.toolCallInputsDigestB3 ++ digestBytes input.toolCallOutputsDigestB3

def disclosureBytes : List UInt8 := stringBytes input.disclosureLevel

end Segments

section Messages

def productionBytes : List UInt8 :=
  input.stopBytes ++ input.kvBytes ++ input.prefixCacheBytes ++ input.modelCacheBytes

def boundBytes : List UInt8 :=
  input.coreBytes ++ input.backendBytes ++ input.productionBytes ++ input.equipmentBytes ++
    input.citationBytes

def envelopeBytes : List UInt8 :=
  input.tokenizerBytes ++ input.buildBytes ++ input.decoderBytes ++ input.concurrencyBytes ++
    input.stopInputBytes ++ input.cacheProofBytes ++ input.retrievalBytes ++ input.disclosureBytes

def v1Message : List UInt8 := input.coreBytes

def v2Message : List UInt8 := input.coreBytes ++ [2] ++ input.backendBytes

def v3Message : List UInt8 := input.coreBytes ++ [3] ++ input.backendBytes ++ input.seedBytes

def v4Message : List UInt8 := input.coreBytes ++ input.productionBytes

def v5Message : List UInt8 := [5] ++ input.boundBytes

def v6Message : List UInt8 := [6] ++ input.boundBytes ++ input.lineageBytes

def v7Message : List UInt8 := [7] ++ input.boundBytes ++ input.lineageBytes ++ input.envelopeBytes

def v8Message (v7Digest : B3Hash) : List UInt8 :=
  [8] ++ B3Hash.asBytes v7Digest ++ digestBytes input.adapterVersionBindingsDigestB3

end Messages

end ReceiptDigestInput

section Compute

variable (hash : List UInt8 → B3Hash) (input : ReceiptDigestInput)

def computeV1Digest : B3Hash := hash input.v1Message

def computeV2Digest : B3Hash := hash input.v2Message

def computeV3Digest : B3Hash := hash input.v3Message

def computeV4Digest : B3Hash := hash input.v4Message

def computeV5Digest : B3Hash := hash input.v5Message

def computeV6Digest : B3Hash := hash input.v6Message

def computeV7Digest : B3Hash := hash input.v7Message

def computeV8Digest : B3Hash := hash (input.v8Message (computeV7Digest hash input))

def computeReceiptDigest : Nat → Option B3Hash
  | 1 => some (computeV1Digest hash input)
  | 2 => some (computeV2Digest hash input)
  | 3 => some (computeV3Digest hash input)
  | 4 => some (computeV4Digest hash input)
  | 5 => some (computeV5Digest hash input)
  | 6 => some (computeV6Digest hash input)
  | 7 => some (computeV7Digest hash input)
  | 8 => some (computeV8Digest hash input)
  | _ => none

inductive ReceiptDigestError where
  | missingBackendId
  | emptyBackendId
  deriving DecidableEq

def validateBackendIdForV5 : Option String → Except ReceiptDigestError Unit
  | none => .error .missingBackendId
  | some "" => .error .emptyBackendId
  | some _ => .ok ()

def computeV5DigestChecked (backendId : String) : Except ReceiptDigestError B3Hash :=
  if backendId.isEmpty then .error .emptyBackendId
  else .ok (computeV5Digest hash { input with backendUsed := some backendId })

end Compute

section Chain

variable (hash : List UInt8 → B3Hash)

def outputMessage (outputTokens : List UInt32) : List UInt8 :=
  leBytes 4 outputTokens.length ++ outputTokens.flatMap le32

def computeOutputDigest (outputTokens : List UInt32) : B3Hash := hash (outputMessage outputTokens)

/-- The decision of one token, framed for hashing. -/
def decisionMessage (contextDigest : B3Hash) (tokenIndex : UInt32)
    (adapterIdsBlob gatesBlob : List UInt8) (policyMaskDigest : Option B3Hash)
    (allowedMaskBlob : Option (List UInt8)) (policyOverridesJson : Option String)
    (backendId kernelVersionId : Option String) : List UInt8 :=
  B3Hash.asBytes contextDigest ++ le32 tokenIndex ++ lengthPrefixed adapterIdsBlob ++
    lengthPrefixed gatesBlob ++ attestationBytes policyMaskDigest ++
    lengthPrefixed (allowedMaskBlob.getD []) ++ stringBytes policyOverridesJson ++
    stringBytes backendId ++ stringBytes kernelVersionId

def hashTokenDecision (contextDigest : B3Hash) (tokenIndex : UInt32)
    (adapterIdsBlob gatesBlob : List UInt8) (policyMaskDigest : Option B3Hash)
    (allowedMaskBlob : Option (List UInt8)) (policyOverridesJson : Option String)
    (backendId kernelVersionId : Option String) : B3Hash :=
  hash (decisionMessage contextDigest tokenIndex adapterIdsBlob gatesBlob policyMaskDigest
    allowedMaskBlob policyOverridesJson backendId kernelVersionId)

def headMessage (prev : B3Hash) (tokenIndex : UInt32) (decisionHash : B3Hash) : List UInt8 :=
  B3Hash.asBytes prev ++ B3Hash.asBytes decisionHash ++ le32 tokenIndex

def updateRunHead (prev : B3Hash) (tokenIndex : UInt32) (decisionHash : B3Hash) : B3Hash :=
  hash (headMessage prev tokenIndex decisionHash)

def encodeAdapterIds (ids : List String) : List UInt8 :=
  leBytes 4 ids.length ++ ids.flatMap fun id => lengthPrefixed (utf8 id)

def encodeGatesQ15 (gates : List Int16) : List UInt8 :=
  leBytes 4 gates.length ++ gates.flatMap le16

def encodeAllowedMask (mask : List Bool) : List UInt8 :=
  leBytes 4 mask.length ++ mask.flatMap flagByte

end Chain

end AdapterOS.Receipt
