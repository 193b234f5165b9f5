import AdapterOS.Core.Hex

/-! Evidence envelopes: a root and a link for a telemetry bundle, a policy decision or an inference
receipt, and the bytes that are signed. -/
namespace AdapterOS.Evidence

open Library

def evidenceEnvelopeSchemaVersion : UInt8 := 6

inductive EvidenceScope where
  | telemetry
  | policy
  | inference
  deriving DecidableEq, Repr

def EvidenceScope.asStr : EvidenceScope → String
  | .telemetry => "telemetry"
  | .policy => "policy"
  | .inference => "inference"

def EvidenceScope.tag : EvidenceScope → UInt8
  | .telemetry => 0
  | .policy => 1
  | .inference => 2

structure PinnedDegradationEvidence where
  pinnedTotalCount : UInt32 := 0
  unavailablePinnedCount : UInt32 := 0
  unavailablePinnedSetDigestB3 : Option B3Hash := none
  pinnedFallbackMode : Option String := none
  deriving DecidableEq

/-- What an envelope says of a telemetry bundle. -/
structure BundleMetadataRef where
  bundleHash : B3Hash
  merkleRoot : B3Hash
  eventCount : UInt32
  cpid : Option String
  sequenceNo : Option UInt64
  pinnedDegradationEvidence : Option PinnedDegradationEvidence := none
  deriving DecidableEq

/-- What an envelope says of a policy decision. -/
structure PolicyAuditRef where
  decisionId : String
  entryHash : B3Hash
  chainSequence : Int64
  policyPackId : String
  hook : String
  decision : String
  deriving DecidableEq

/-- What an envelope says of an inference receipt. -/
structure InferenceReceiptRef where
  traceId : String := ""
  runHeadHash : B3Hash := 0
  outputDigest : B3Hash := 0
  receiptDigest : B3Hash := 0
  logicalPromptTokens : UInt32 := 0
  prefixCachedTokenCount : UInt32 := 0
  billedInputTokens : UInt32 := 0
  logicalOutputTokens : UInt32 := 0
  billedOutputTokens : UInt32 := 0
  stopReasonCode : Option String := none
  stopReasonTokenIndex : Option UInt32 := none
  stopPolicyDigestB3 : Option B3Hash := none
  tenantKvQuotaBytes : UInt64 := 0
  tenantKvBytesUsed : UInt64 := 0
  kvEvictions : UInt32 := 0
  kvResidencyPolicyId : Option String := none
  kvQuotaEnforced : Bool := false
  prefixKvKeyB3 : Option B3Hash := none
  prefixCacheHit : Bool := false
  prefixKvBytes : UInt64 := 0
  modelCacheIdentityV2DigestB3 : Option B3Hash := none
  backendUsed : String := ""
  backendAttestationB3 : Option B3Hash := none
  seedLineageHash : Option B3Hash := none
  adapterTrainingLineageDigest : Option B3Hash := none
  previousReceiptDigest : Option B3Hash := none
  sessionSequence : UInt64 := 0
  tokenizerHashB3 : Option B3Hash := none
  tokenizerVersion : Option String := none
  tokenizerNormalization : Option String := none
  modelBuildHashB3 : Option B3Hash := none
  adapterBuildHashB3 : Option B3Hash := none
  decodeAlgo : Option String := none
  temperatureQ15 : Option Int16 := none
  topPQ15 : Option Int16 := none
  topK : Option UInt32 := none
  seedDigestB3 : Option B3Hash := none
  samplingBackend : Option String := none
  threadCount : Option UInt32 := none
  reductionStrategy : Option String := none
  stopEosQ15 : Option Int16 := none
  stopWindowDigestB3 : Option B3Hash := none
  cacheScope : Option String := none
  cachedPrefixDigestB3 : Option B3Hash := none
  cachedPrefixLen : Option UInt32 := none
  cacheKeyB3 : Option B3Hash := none
  retrievalMerkleRootB3 : Option B3Hash := none
  retrievalOrderDigestB3 : Option B3Hash := none
  toolCallInputsDigestB3 : Option B3Hash := none
  toolCallOutputsDigestB3 : Option B3Hash := none
  disclosureLevel : Option String := none
  receiptSigningKid : Option String := none
  receiptSignedAt : Option String := none
  deriving DecidableEq

structure EvidenceEnvelope where
  schemaVersion : UInt8
  tenantId : String
  scope : EvidenceScope
  previousRoot : Option B3Hash
  root : B3Hash
  signature : String := ""
  publicKey : String := ""
  keyId : String := ""
  attestationRef : Option String := none
  createdAt : String
  signedAtUs : UInt64 := 0
  bundleMetadataRef : Option BundleMetadataRef := none
  policyAuditRef : Option PolicyAuditRef := none
  inferenceReceiptRef : Option InferenceReceiptRef := none
  deriving DecidableEq

namespace EvidenceEnvelope

section Constructors

variable (hash : List UInt8 → B3Hash) (tenantId : String) (previousRoot : Option B3Hash)
  (createdAt : String)

def computeTelemetryRoot (r : BundleMetadataRef) : B3Hash :=
  hash (B3Hash.asBytes r.bundleHash ++ B3Hash.asBytes r.merkleRoot)

def newTelemetry (r : BundleMetadataRef) : EvidenceEnvelope :=
  { schemaVersion := evidenceEnvelopeSchemaVersion, tenantId, scope := .telemetry, previousRoot
    root := computeTelemetryRoot hash r, createdAt, bundleMetadataRef := some r }

def newPolicy (r : PolicyAuditRef) : EvidenceEnvelope :=
  { schemaVersion := evidenceEnvelopeSchemaVersion, tenantId, scope := .policy, previousRoot
    root := r.entryHash, createdAt, policyAuditRef := some r }

def newInference (r : InferenceReceiptRef) : EvidenceEnvelope :=
  { schemaVersion := evidenceEnvelopeSchemaVersion, tenantId, scope := .inference, previousRoot
    root := r.receiptDigest, createdAt, inferenceReceiptRef := some r }

end Constructors

variable (e : EvidenceEnvelope)

def isSigned : Bool := e.signature ≠ "" ∧ e.publicKey ≠ ""

def payloadCount : Nat :=
  ([e.bundleMetadataRef.isSome, e.policyAuditRef.isSome, e.inferenceReceiptRef.isSome].filter
    id).length

def validate : Except AosError Unit :=
  if e.schemaVersion ≠ evidenceEnvelopeSchemaVersion then
    .error (.validation ("Unsupported schema version: expected " ++
      toString evidenceEnvelopeSchemaVersion ++ ", got " ++ toString e.schemaVersion))
  else if e.tenantId = "" then .error (.validation "tenant_id is required")
  else if e.payloadCount ≠ 1 then
    .error (.validation ("Exactly one payload ref must be populated, found " ++
      toString e.payloadCount))
  else
    match e.scope with
    | .telemetry =>
      if e.bundleMetadataRef.isNone then
        .error (.validation "Telemetry scope requires bundle_metadata_ref")
      else .ok ()
    | .policy =>
      if e.policyAuditRef.isNone then
        .error (.validation "Policy scope requires policy_audit_ref")
      else .ok ()
    | .inference =>
      if e.inferenceReceiptRef.isNone then
        .error (.validation "Inference scope requires inference_receipt_ref")
      else .ok ()

/-- The payload that the scope asks for is there, and no other. -/
def PayloadFits : Prop :=
  match e.scope with
  | .telemetry =>
    e.bundleMetadataRef.isSome ∧ e.policyAuditRef = none ∧ e.inferenceReceiptRef = none
  | .policy =>
    e.bundleMetadataRef = none ∧ e.policyAuditRef.isSome ∧ e.inferenceReceiptRef = none
  | .inference =>
    e.bundleMetadataRef = none ∧ e.policyAuditRef = none ∧ e.inferenceReceiptRef.isSome

theorem validate_eq_ok : e.validate = .ok () ↔
    e.schemaVersion = evidenceEnvelopeSchemaVersion ∧ e.tenantId ≠ "" ∧ e.PayloadFits := by
  unfold validate
  by_cases hversion : e.schemaVersion = evidenceEnvelopeSchemaVersion
  · rw [if_neg (not_not.mpr hversion)]
    by_cases htenant : e.tenantId = ""
    · simp [htenant]
    · rw [if_neg htenant]
      cases hscope : e.scope <;> cases hb : e.bundleMetadataRef <;> cases hp : e.policyAuditRef <;>
        cases hi : e.inferenceReceiptRef <;>
        simp [payloadCount, PayloadFits, hscope, hb, hp, hi, hversion, htenant]
  · rw [if_pos hversion]
    simp [hversion]

end EvidenceEnvelope

section Encoding

def encodeStr (value : String) : List UInt8 := bePrefixed (utf8 value)

def digestBytes (d : Option B3Hash) : List UInt8 := B3Hash.asBytes (d.getD 0)

def textBytes (s : Option String) : List UInt8 := encodeStr (s.getD "")

def wordBytes (n : Option UInt32) : List UInt8 := be32 (n.getD 0xFFFFFFFF)

def q15Bytes (q : Option Int16) : List UInt8 := be16 (q.getD Int16.minValue)

def markedBytes (d : Option B3Hash) : List UInt8 := marked (d.map B3Hash.asBytes)

def PinnedDegradationEvidence.bytes (ev : PinnedDegradationEvidence) : List UInt8 :=
  be32 ev.pinnedTotalCount ++ (be32 ev.unavailablePinnedCount ++
    (digestBytes ev.unavailablePinnedSetDigestB3 ++ textBytes ev.pinnedFallbackMode))

def BundleMetadataRef.bytes (r : BundleMetadataRef) : List UInt8 :=
  B3Hash.asBytes r.bundleHash ++ (B3Hash.asBytes r.merkleRoot ++ (be32 r.eventCount ++
    (textBytes r.cpid ++ (be64 (r.sequenceNo.getD 0) ++
      (r.pinnedDegradationEvidence.getD {}).bytes))))

def PolicyAuditRef.bytes (r : PolicyAuditRef) : List UInt8 :=
  encodeStr r.decisionId ++ (B3Hash.asBytes r.entryHash ++ (be64 r.chainSequence.toUInt64 ++
    (encodeStr r.policyPackId ++ (encodeStr r.hook ++ encodeStr r.decision))))

namespace InferenceReceiptRef

variable (r : InferenceReceiptRef)

def identityBytes : List UInt8 :=
  encodeStr r.traceId ++ (B3Hash.asBytes r.runHeadHash ++ (B3Hash.asBytes r.outputDigest ++
    B3Hash.asBytes r.receiptDigest))

def tokenBytes : List UInt8 :=
  be32 r.logicalPromptTokens ++ (be32 r.prefixCachedTokenCount ++ (be32 r.billedInputTokens ++
    (be32 r.logicalOutputTokens ++ be32 r.billedOutputTokens)))

def stopBytes : List UInt8 :=
  textBytes r.stopReasonCode ++ (wordBytes r.stopReasonTokenIndex ++
    digestBytes r.stopPolicyDigestB3)

def modelBytes : List UInt8 :=
  digestBytes r.modelCacheIdentityV2DigestB3 ++ (encodeStr r.backendUsed ++
    markedBytes r.backendAttestationB3)

def lineageBytes : List UInt8 :=
  markedBytes r.seedLineageHash ++ (markedBytes r.adapterTrainingLineageDigest ++
    (markedBytes r.previousReceiptDigest ++ be64 r.sessionSequence))

def tokenizerBytes : List UInt8 :=
  digestBytes r.tokenizerHashB3 ++ (textBytes r.tokenizerVersion ++
    (textBytes r.tokenizerNormalization ++ (digestBytes r.modelBuildHashB3 ++
      digestBytes r.adapterBuildHashB3)))

def decoderBytes : List UInt8 :=
  textBytes r.decodeAlgo ++ (q15Bytes r.temperatureQ15 ++ (q15Bytes r.topPQ15 ++
    (wordBytes r.topK ++ (digestBytes r.seedDigestB3 ++ textBytes r.samplingBackend))))

def concurrencyBytes : List UInt8 :=
  wordBytes r.threadCount ++ (textBytes r.reductionStrategy ++ (q15Bytes r.stopEosQ15 ++
    digestBytes r.stopWindowDigestB3))

def cacheBytes : List UInt8 :=
  textBytes r.cacheScope ++ (digestBytes r.cachedPrefixDigestB3 ++ (wordBytes r.cachedPrefixLen ++
    digestBytes r.cacheKeyB3))

def bindingBytes : List UInt8 :=
  digestBytes r.retrievalMerkleRootB3 ++ (digestBytes r.retrievalOrderDigestB3 ++
    (digestBytes r.toolCallInputsDigestB3 ++ digestBytes r.toolCallOutputsDigestB3))

def disclosureBytes : List UInt8 :=
  textBytes r.disclosureLevel ++ (textBytes r.receiptSigningKid ++ textBytes r.receiptSignedAt)

def bytes : List UInt8 :=
  r.identityBytes ++ (r.tokenBytes ++ (r.stopBytes ++ (r.modelBytes ++ (r.lineageBytes ++
    (r.tokenizerBytes ++ (r.decoderBytes ++ (r.concurrencyBytes ++ (r.cacheBytes ++
      (r.bindingBytes ++ r.disclosureBytes)))))))))

end InferenceReceiptRef

namespace EvidenceEnvelope

variable (e : EvidenceEnvelope)

def encodeScopePayload : List UInt8 :=
  match e.scope with
  | .telemetry => (e.bundleMetadataRef.map BundleMetadataRef.bytes).getD []
  | .policy => (e.policyAuditRef.map PolicyAuditRef.bytes).getD []
  | .inference => (e.inferenceReceiptRef.map InferenceReceiptRef.bytes).getD []

/-- The signed bytes. -/
def toCanonicalBytes : List UInt8 :=
  [e.schemaVersion] ++ (encodeStr e.tenantId ++ ([e.scope.tag] ++ (digestBytes e.previousRoot ++
    (B3Hash.asBytes e.root ++ (encodeStr e.createdAt ++ (be64 e.signedAtUs ++
      (textBytes e.attestationRef ++ e.encodeScopePayload)))))))

end EvidenceEnvelope

end Encoding

end AdapterOS.Evidence
