import AdapterOS.Receipt.Crypto
import AdapterOS.Receipt.Verifier

/-! The trace sink: decisions are chained in memory, their rows reach the database in batches, and
the stored rows give the receipt again. -/
namespace AdapterOS.Receipt

open Library

section Records

structure PolicyOverrideFlags where
  allowList : Bool := false
  denyList : Bool := false
  trustState : Bool := false
  deriving DecidableEq

structure TraceTokenInput where
  tokenIndex : UInt32
  adapterIds : List String := []
  gatesQ15 : List Int16 := []
  policyMaskDigestB3 : Option B3Hash := none
  allowedMask : Option (List Bool) := none
  policyOverridesApplied : Option PolicyOverrideFlags := none
  backendId : Option String := none
  kernelVersionId : Option String := none

/-- A row as it waits in the buffer. -/
structure TraceTokenRow where
  tokenIndex : UInt32
  adapterIdsBlob : List UInt8
  gatesBlob : List UInt8
  decisionHash : B3Hash
  policyMaskDigest : Option B3Hash
  allowedMaskBlob : Option (List UInt8)
  policyOverridesApplied : Option PolicyOverrideFlags
  backendId : Option String
  kernelVersionId : Option String

/-- A row of the token table. -/
structure TokenColumns where
  tokenIndex : UInt32
  selectedAdapterIds : List UInt8
  gatesQ15 : List UInt8
  decisionHash : B3Hash
  policyMaskDigest : Option B3Hash
  allowedMask : Option (List UInt8)
  policyOverridesJson : Option String
  backendId : Option String
  kernelVersionId : Option String

/-- What a receipt binds and the receipt table keeps as it is. -/
structure PlainFields where
  logicalPromptTokens : UInt32 := 0
  prefixCachedTokenCount : UInt32 := 0
  billedInputTokens : UInt32 := 0
  logicalOutputTokens : UInt32 := 0
  billedOutputTokens : UInt32 := 0
  stopReasonCode : Option String := none
  stopReasonTokenIndex : Option UInt32 := none
  stopPolicyDigestB3 : Option B3Hash := none
  kvEvictions : UInt32 := 0
  kvResidencyPolicyId : Option String := none
  kvQuotaEnforced : Bool := false
  prefixCacheHit : Bool := false
  modelCacheIdentityV2DigestB3 : Option B3Hash := none
  tokenizerHashB3 : Option B3Hash := none
  tokenizerVersion : Option String := none
  tokenizerNormalization : Option String := none
  modelBuildHashB3 : Option B3Hash := none
  adapterBuildHashB3 : Option B3Hash := none
  decodeAlgo : Option String := none
  temperatureQ15 : Option Int16 := none
  topPQ15 : Option Int16 := none
  topK : Option UInt32 := none
  seedDigestB3 : Option B3Hash := none
  samplingBackend : Option String := none
  threadCount : Option UInt32 := none
  reductionStrategy : Option String := none
  stopEosQ15 : Option Int16 := none
  stopWindowDigestB3 : Option B3Hash := none
  cacheScope : Option String := none
  cachedPrefixDigestB3 : Option B3Hash := none
  cachedPrefixLen : Option UInt32 := none
  cacheKeyB3 : Option B3Hash := none
  retrievalMerkleRootB3 : Option B3Hash := none
  retrievalOrderDigestB3 : Option B3Hash := none
  toolCallInputsDigestB3 : Option B3Hash := none
  toolCallOutputsDigestB3 : Option B3Hash := none
  disclosureLevel : Option String := none
  deriving DecidableEq

/-- What a receipt binds. -/
structure ReceiptFields extends PlainFields where
  tenantKvQuotaBytes : UInt64 := 0
  tenantKvBytesUsed : UInt64 := 0
  prefixKvKeyB3 : Option B3Hash := none
  prefixKvBytes : UInt64 := 0
  equipmentProfile : Option EquipmentProfile := none
  deriving DecidableEq

structure CacheAttestation where
  schemaVersion : UInt8
  cacheKeyHash : B3Hash
  tokenCount : UInt32
  workerId : String
  timestampTick : UInt64
  signature : List UInt8

structure TraceFinalization extends ReceiptFields where
  outputTokens : List UInt32
  cacheAttestation : Option CacheAttestation := none
  workerPublicKey : Option B3Hash := none

structure TraceReceipt extends ReceiptFields where
  runHeadHash : B3Hash
  outputDigest : B3Hash
  receiptDigest : B3Hash
  deriving DecidableEq

/-- A row of the receipt table: wide counts as signed words, the cache key as text, the equipment
profile in columns of its own. -/
structure ReceiptRow extends PlainFields where
  runHeadHash : B3Hash
  outputDigest : B3Hash
  receiptDigest : B3Hash
  tenantKvQuotaBytes : Int64
  tenantKvBytesUsed : Int64
  prefixKvKeyB3 : Option String
  prefixKvBytes : Int64
  equipmentProfileDigestB3 : Option B3Hash
  processorId : Option String
  mlxVersion : Option String
  aneVersion : Option String

/-- The rows of one trace. The index of a token is its key. -/
structure TraceDb where
  contextDigest : B3Hash
  tokens : List TokenColumns := []
  receipt : Option ReceiptRow := none

structure SqlTraceSink where
  contextDigest : B3Hash
  buffer : List TraceTokenRow
  flushEvery : Nat
  runHeadHash : B3Hash

structure TraceReceiptVerification where
  agree : Bool
  mismatchedToken : Option UInt32
  contextDigest : B3Hash
  stored : Option TraceReceipt
  recomputed : TraceReceipt
  deriving DecidableEq

end Records

section Json

def jsonBool (b : Bool) : String := if b then "true" else "false"

def overridesJson (o : PolicyOverrideFlags) : String :=
  "\x7b\"allow_list\":" ++ jsonBool o.allowList ++ ",\"deny_list\":" ++ jsonBool o.denyList ++
    ",\"trust_state\":" ++ jsonBool o.trustState ++ "\x7d"

end Json

/-- What the sink takes from other libraries; the JSON reader reads what the writer wrote. -/
structure TraceLib extends VerifierLib where
  signatureError : String
  decodeOverrides : String → Except String PolicyOverrideFlags
  decodeOverrides_json : ∀ o, decodeOverrides (overridesJson o) = .ok o

def allOverrides : List PolicyOverrideFlags :=
  [false, true].flatMap fun allow => [false, true].flatMap fun deny =>
    [false, true].map fun trust => ⟨allow, deny, trust⟩

/-- The library of the small examples, with a reader of canonical texts. -/
def digitTraceLib : TraceLib where
  toVerifierLib := digitLib
  signatureError := "signature error"
  decodeOverrides := fun text =>
    match allOverrides.find? fun o => overridesJson o = text with
    | some o => .ok o
    | none => .error "expected an object"
  decodeOverrides_json := by
    rintro ⟨allow, deny, trust⟩
    cases allow <;> cases deny <;> cases trust <;> decide +kernel

section Faults

/-- Where a write transaction fails; after its begin it is rolled back. -/
inductive TxStage where
  | beginTx
  | insert
  | commit
  deriving DecidableEq

structure TxFault where
  stage : TxStage
  message : String
  deriving DecidableEq

def TxFault.error (fault : TxFault) : AosError :=
  match fault.stage with
  | .beginTx => .database ("Failed to begin inference trace token transaction: " ++ fault.message)
  | .insert => .database ("Failed to insert trace token: " ++ fault.message)
  | .commit => .database ("Failed to commit trace tokens: " ++ fault.message)

def duplicateKey : TxFault :=
  ⟨.insert, "UNIQUE constraint failed: inference_trace_tokens.trace_id, " ++
    "inference_trace_tokens.token_index"⟩

end Faults

section Tokens

variable (hash : List UInt8 → B3Hash)

/-- The decision hash of a token as the sink chains it. -/
def TraceTokenInput.decisionHash (contextDigest : B3Hash) (token : TraceTokenInput) : B3Hash :=
  hashTokenDecision hash contextDigest token.tokenIndex (encodeAdapterIds token.adapterIds)
    (encodeGatesQ15 token.gatesQ15) token.policyMaskDigestB3
    (token.allowedMask.map encodeAllowedMask) (token.policyOverridesApplied.map overridesJson)
    token.backendId token.kernelVersionId

def TraceTokenInput.row (contextDigest : B3Hash) (token : TraceTokenInput) : TraceTokenRow where
  tokenIndex := token.tokenIndex
  adapterIdsBlob := encodeAdapterIds token.adapterIds
  gatesBlob := encodeGatesQ15 token.gatesQ15
  decisionHash := token.decisionHash hash contextDigest
  policyMaskDigest := token.policyMaskDigestB3
  allowedMaskBlob := token.allowedMask.map encodeAllowedMask
  policyOverridesApplied := token.policyOverridesApplied
  backendId := token.backendId
  kernelVersionId := token.kernelVersionId

def TraceTokenRow.columns (row : TraceTokenRow) : TokenColumns where
  tokenIndex := row.tokenIndex
  selectedAdapterIds := row.adapterIdsBlob
  gatesQ15 := row.gatesBlob
  decisionHash := row.decisionHash
  policyMaskDigest := row.policyMaskDigest
  allowedMask := row.allowedMaskBlob
  policyOverridesJson := row.policyOverridesApplied.map overridesJson
  backendId := row.backendId
  kernelVersionId := row.kernelVersionId

end Tokens

section Sink

namespace SqlTraceSink

def new (contextDigest : B3Hash) (flushEvery : Nat) : SqlTraceSink :=
  ⟨contextDigest, [], max flushEvery 1, 0⟩

end SqlTraceSink

/-- The inserts of one transaction, which a taken key stops. -/
def insertTokens (tokens : List TokenColumns) : List TokenColumns → Option (List TokenColumns)
  | [] => some tokens
  | row :: rows =>
    if tokens.any fun t => t.tokenIndex = row.tokenIndex then none
    else insertTokens (tokens ++ [row]) rows

/-- The buffer is drained by the loop over its rows, inside the open transaction: what fails later
is rolled back in the database only. -/
def insertBuffer (fault : Option TxFault) (sink : SqlTraceSink) (db : TraceDb) :
    Except AosError Unit × SqlTraceSink × TraceDb :=
  if sink.buffer.isEmpty then (.ok (), sink, db)
  else
    match fault, insertTokens db.tokens (sink.buffer.map TraceTokenRow.columns) with
    | some ⟨.beginTx, message⟩, _ => (.error (TxFault.error ⟨.beginTx, message⟩), sink, db)
    | some ⟨.insert, message⟩, _ =>
      (.error (TxFault.error ⟨.insert, message⟩), { sink with buffer := [] }, db)
    | _, none => (.error duplicateKey.error, { sink with buffer := [] }, db)
    | some ⟨.commit, message⟩, some _ =>
      (.error (TxFault.error ⟨.commit, message⟩), { sink with buffer := [] }, db)
    | none, some tokens => (.ok (), { sink with buffer := [] }, { db with tokens })

/-- The run head has advanced before the row is stored. -/
def recordToken (hash : List UInt8 → B3Hash) (token : TraceTokenInput) (fault : Option TxFault)
    (sink : SqlTraceSink) (db : TraceDb) : Except AosError Unit × SqlTraceSink × TraceDb :=
  let row := token.row hash sink.contextDigest
  let sink := { sink with
    runHeadHash := updateRunHead hash sink.runHeadHash token.tokenIndex row.decisionHash
    buffer := sink.buffer ++ [row] }
  if sink.flushEvery ≤ sink.buffer.length then insertBuffer fault sink db else (.ok (), sink, db)

end Sink

section Fields

/-- The builder chain that the sink and the recomputation share. -/
def ReceiptFields.digestInput (fields : ReceiptFields)
    (contextDigest runHeadHash outputDigest : B3Hash) : ReceiptDigestInput :=
  let f := fields
  let profile := f.equipmentProfile
  ((((((((((((ReceiptDigestInput.new contextDigest runHeadHash outputDigest f.logicalPromptTokens
    f.prefixCachedTokenCount f.billedInputTokens f.logicalOutputTokens
    f.billedOutputTokens).withStopController f.stopReasonCode f.stopReasonTokenIndex
    f.stopPolicyDigestB3).withKvQuota f.tenantKvQuotaBytes f.tenantKvBytesUsed f.kvEvictions
    f.kvResidencyPolicyId f.kvQuotaEnforced).withPrefixCache f.prefixKvKeyB3 f.prefixCacheHit
    f.prefixKvBytes).withModelCacheIdentity f.modelCacheIdentityV2DigestB3).withEquipmentProfile
    (profile.map EquipmentProfile.digest) (profile.map EquipmentProfile.processorId)
    (profile.map EquipmentProfile.engineVersion)
    (profile.bind EquipmentProfile.aneVersion)).withTokenizerIdentity f.tokenizerHashB3
    f.tokenizerVersion f.tokenizerNormalization).withBuildProvenance f.modelBuildHashB3
    f.adapterBuildHashB3).withDecoderConfig f.decodeAlgo f.temperatureQ15 f.topPQ15 f.topK
    f.seedDigestB3 f.samplingBackend).withConcurrencyDeterminism f.threadCount
    f.reductionStrategy).withStopControllerInputs f.stopEosQ15
    f.stopWindowDigestB3).withCacheProof f.cacheScope f.cachedPrefixDigestB3 f.cachedPrefixLen
    f.cacheKeyB3).withRetrievalToolBinding f.retrievalMerkleRootB3 f.retrievalOrderDigestB3
    f.toolCallInputsDigestB3 f.toolCallOutputsDigestB3 |>.withDisclosureLevel f.disclosureLevel

def countOfColumn (column : Int64) : UInt64 := if column < 0 then 0 else column.toUInt64

/-- The columns of a receipt. -/
def TraceReceipt.toRow (receipt : TraceReceipt) : ReceiptRow where
  toPlainFields := receipt.toPlainFields
  runHeadHash := receipt.runHeadHash
  outputDigest := receipt.outputDigest
  receiptDigest := receipt.receiptDigest
  tenantKvQuotaBytes := receipt.tenantKvQuotaBytes.toInt64
  tenantKvBytesUsed := receipt.tenantKvBytesUsed.toInt64
  prefixKvKeyB3 := receipt.prefixKvKeyB3.map B3Hash.toHex
  prefixKvBytes := receipt.prefixKvBytes.toInt64
  equipmentProfileDigestB3 := receipt.equipmentProfile.map EquipmentProfile.digest
  processorId := receipt.equipmentProfile.map EquipmentProfile.processorId
  mlxVersion := receipt.equipmentProfile.map EquipmentProfile.engineVersion
  aneVersion := receipt.equipmentProfile.bind EquipmentProfile.aneVersion

/-- The receipt that its columns are read as. -/
def ReceiptRow.stored (row : ReceiptRow) : TraceReceipt where
  toPlainFields := row.toPlainFields
  tenantKvQuotaBytes := countOfColumn row.tenantKvQuotaBytes
  tenantKvBytesUsed := countOfColumn row.tenantKvBytesUsed
  prefixKvKeyB3 := row.prefixKvKeyB3.bind B3Hash.fromHex
  prefixKvBytes := countOfColumn row.prefixKvBytes
  equipmentProfile := row.equipmentProfileDigestB3.map fun digest =>
    ⟨row.processorId.getD "", row.mlxVersion.getD "", row.aneVersion, digest⟩
  runHeadHash := row.runHeadHash
  outputDigest := row.outputDigest
  receiptDigest := row.receiptDigest

end Fields

section Finalize

variable (lib : TraceLib)

namespace CacheAttestation

def schemaVersionCurrent : UInt8 := 1

def canonicalBytes (a : CacheAttestation) : List UInt8 :=
  [a.schemaVersion] ++ B3Hash.asBytes a.cacheKeyHash ++ le32 a.tokenCount ++
    lengthPrefixed (utf8 a.workerId) ++ le64 a.timestampTick

def verify (a : CacheAttestation) (publicKey : B3Hash) : Except AosError Unit :=
  if a.schemaVersion ≠ schemaVersionCurrent then
    .error (.crypto ("Unsupported cache attestation schema version: " ++
      toString a.schemaVersion.toNat ++ " (expected " ++ toString schemaVersionCurrent.toNat ++ ")"))
  else
    match lib.publicKeyFromBytes publicKey with
    | .error e => .error (.crypto ("Invalid public key: " ++ e))
    | .ok () =>
      if lib.verify publicKey a.canonicalBytes a.signature then .ok ()
      else .error (.crypto ("Cache attestation signature verification failed: " ++
        lib.signatureError))

end CacheAttestation

/-- Cache credits need a signed attestation of the same count and key. -/
def checkCacheCredits (f : TraceFinalization) : Except AosError Unit :=
  if f.prefixCachedTokenCount = 0 then .ok ()
  else
    match f.cacheAttestation, f.workerPublicKey with
    | none, _ => .error (.validation ("cache_attestation required when " ++
        "prefix_cached_token_count > 0 (P0-1: billing fraud prevention)"))
    | some _, none =>
      .error (.validation "worker_public_key required for cache attestation verification")
    | some attestation, some publicKey =>
      match attestation.verify lib publicKey with
      | .error e => .error (.validation ("cache attestation verification failed: " ++ e.display ++
          " (P0-1: potential billing fraud)"))
      | .ok () =>
        if attestation.tokenCount ≠ f.prefixCachedTokenCount then
          .error (.validation ("cache attestation token_count (" ++
            toString attestation.tokenCount.toNat ++
            ") does not match prefix_cached_token_count (" ++
            toString f.prefixCachedTokenCount.toNat ++ ") (P0-1: billing mismatch)"))
        else if f.prefixKvKeyB3.any fun key => attestation.cacheKeyHash ≠ key then
          .error (.validation ("cache attestation cache_key_hash does not match prefix_kv_key_b3 " ++
            "(P0-1: cache key mismatch)"))
        else .ok ()

def checkFinalization (f : TraceFinalization) : Except AosError Unit :=
  -- The subtraction saturates, which that of natural numbers does as well.
  if f.logicalPromptTokens.toNat - f.prefixCachedTokenCount.toNat ≠ f.billedInputTokens.toNat then
    .error (.validation ("billed_input_tokens must equal logical_prompt_tokens - " ++
      "prefix_cached_token_count"))
  else if f.billedOutputTokens ≠ f.logicalOutputTokens then
    .error (.validation "billed_output_tokens must equal logical_output_tokens (v1)")
  else checkCacheCredits lib f

/-- The receipt over the given run head, of the current schema. -/
def receiptOf (hash : List UInt8 → B3Hash) (fields : ReceiptFields)
    (contextDigest runHeadHash outputDigest : B3Hash) : Except AosError TraceReceipt :=
  match computeReceiptDigest hash (fields.digestInput contextDigest runHeadHash outputDigest)
      receiptSchemaCurrent with
  | none => .error (.internal "receipt schema unsupported")
  | some receiptDigest => .ok { fields with runHeadHash, outputDigest, receiptDigest }

/-- What follows the last flush; the receipt replaces an earlier one. -/
def storeReceipt (f : TraceFinalization) (receiptFault : Option String) (sink : SqlTraceSink)
    (db : TraceDb) : Except AosError TraceReceipt × TraceDb :=
  match checkFinalization lib f with
  | .error e => (.error e, db)
  | .ok () =>
    match receiptOf lib.hash f.toReceiptFields sink.contextDigest sink.runHeadHash
        (computeOutputDigest lib.hash f.outputTokens), receiptFault with
    | .error e, _ => (.error e, db)
    | .ok _, some message =>
      (.error (.database ("Failed to insert trace receipt: " ++ message)), db)
    | .ok receipt, none => (.ok receipt, { db with receipt := some receipt.toRow })

def finalize (f : TraceFinalization) (fault : Option TxFault) (receiptFault : Option String)
    (sink : SqlTraceSink) (db : TraceDb) :
    Except AosError TraceReceipt × SqlTraceSink × TraceDb :=
  match insertBuffer fault sink db with
  | (.error e, sink, db) => (.error e, sink, db)
  | (.ok (), sink, db) =>
    let (result, db) := storeReceipt lib f receiptFault sink db
    (result, sink, db)

end Finalize

section Recompute

variable (lib : TraceLib)

def decodeAllowedMask (bytes : List UInt8) : Except AosError (List Bool) :=
  let count := ofLeBytes (bytes.take 4)
  if bytes.length < 4 then .error (.invalidHash "allowed_mask blob missing length")
  else if bytes.length < 4 + count then .error (.invalidHash "allowed_mask blob truncated (data)")
  else .ok (((bytes.drop 4).take count).map fun b => b == 1)

def storedMask : Option (List UInt8) → Except AosError (Option (List Bool))
  | none | some [] => .ok none
  | some bytes => (decodeAllowedMask bytes).map some

def storedOverrides : Option String → Except AosError (Option PolicyOverrideFlags)
  | none => .ok none
  | some json =>
    match lib.decodeOverrides json with
    | .error e => .error (.invalidHash ("policy_overrides decode error: " ++ e))
    | .ok flags => .ok (some flags)

def recomputedDecision (contextDigest : B3Hash) (row : TokenColumns) : Except AosError B3Hash := do
  let allowedMask ← storedMask row.allowedMask
  let overrides ← storedOverrides lib row.policyOverridesJson
  return hashTokenDecision lib.hash contextDigest row.tokenIndex row.selectedAdapterIds
    row.gatesQ15 row.policyMaskDigest (allowedMask.map encodeAllowedMask)
    (overrides.map overridesJson) row.backendId row.kernelVersionId

def recomputeTokens (contextDigest : B3Hash) : Replay → List TokenColumns → Except AosError Replay
  | state, [] => .ok state
  | state, row :: rows => do
    let recomputed ← recomputedDecision lib contextDigest row
    let mismatchedToken :=
      if state.mismatchedToken = none ∧ recomputed ≠ row.decisionHash then some row.tokenIndex
      else state.mismatchedToken
    recomputeTokens contextDigest
      ⟨updateRunHead lib.hash state.runHead row.tokenIndex recomputed, mismatchedToken⟩ rows

/-- Without a stored receipt only the number of tokens is known. -/
def recomputedFields (stored : Option TraceReceipt) (tokenCount : Nat) : ReceiptFields :=
  match stored with
  | some receipt => receipt.toReceiptFields
  | none => { logicalOutputTokens := .ofNat tokenCount, billedOutputTokens := .ofNat tokenCount }

def billingMismatch (f : ReceiptFields) : Bool :=
  f.billedInputTokens.toNat ≠ f.logicalPromptTokens.toNat - f.prefixCachedTokenCount.toNat ||
    f.billedOutputTokens ≠ f.logicalOutputTokens

def recomputeReceipt (db : TraceDb) : Except AosError TraceReceiptVerification := do
  let tokens := sortBy (fun row => row.tokenIndex.toNat) db.tokens
  let replay ← recomputeTokens lib db.contextDigest {} tokens
  let stored := db.receipt.map ReceiptRow.stored
  let outputDigest := (stored.map TraceReceipt.outputDigest).getD 0
  let fields := recomputedFields stored tokens.length
  let recomputed ← receiptOf lib.hash fields db.contextDigest replay.runHead outputDigest
  return {
    agree := stored.any fun receipt => receipt.receiptDigest = recomputed.receiptDigest &&
      replay.mismatchedToken.isNone && !billingMismatch fields
    mismatchedToken := replay.mismatchedToken
    contextDigest := db.contextDigest
    stored
    recomputed }

end Recompute

end AdapterOS.Receipt
