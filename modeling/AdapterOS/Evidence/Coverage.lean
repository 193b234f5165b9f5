import AdapterOS.Evidence.Envelope

/-! What a signature covers: envelopes with the same canonical bytes agree, up to the sentinels for
absent values, on every field that is encoded. The key-value cache fields of a receipt are not. -/
namespace AdapterOS.Evidence

open Library

section Pieces

variable {s t : String}

theorem reads_encodeStr (hs : (utf8 s).length < 2 ^ 32) (ht : (utf8 t).length < 2 ^ 32) :
    Reads (encodeStr s) (encodeStr t) (s = t) :=
  (reads_bePrefixed hs ht).congr utf8_inj

theorem reads_digestBytes (a b : Option B3Hash) :
    Reads (digestBytes a) (digestBytes b) (a.getD 0 = b.getD 0) :=
  B3Hash.reads_asBytes _ _

theorem reads_wordBytes (m n : Option UInt32) :
    Reads (wordBytes m) (wordBytes n) (m.getD 0xFFFFFFFF = n.getD 0xFFFFFFFF) :=
  reads_be32 _ _

theorem reads_q15Bytes (p q : Option Int16) :
    Reads (q15Bytes p) (q15Bytes q) (p.getD Int16.minValue = q.getD Int16.minValue) :=
  reads_be16 _ _

theorem reads_markedBytes (a b : Option B3Hash) :
    Reads (markedBytes a) (markedBytes b) (a = b) := by
  have hlen : ∀ u v, a.map B3Hash.asBytes = some u → b.map B3Hash.asBytes = some v →
      u.length = v.length := by
    intro u v hu hv
    obtain ⟨d, -, rfl⟩ := Option.map_eq_some_iff.mp hu
    obtain ⟨d', -, rfl⟩ := Option.map_eq_some_iff.mp hv
    simp
  refine (reads_marked hlen).congr ?_
  grind [Function.Injective, B3Hash.asBytes_inj, Option.map_injective]

theorem reads_byte (a b : UInt8) : Reads [a] [b] (a = b) := reads_of_length rfl (by simp)

end Pieces

def Short (texts : List String) : Prop := ∀ s ∈ texts, (utf8 s).length < 2 ^ 32

instance (texts : List String) : Decidable (Short texts) :=
  inferInstanceAs (Decidable (∀ s ∈ texts, (utf8 s).length < 2 ^ 32))

theorem reads_text {α : Type*} {texts : α → List String} {x y : α} (hx : Short (texts x))
    (hy : Short (texts y)) (f : α → String) (hf : ∀ z, f z ∈ texts z) :
    Reads (encodeStr (f x)) (encodeStr (f y)) (f x = f y) :=
  reads_encodeStr (hx _ (hf x)) (hy _ (hf y))

namespace PinnedDegradationEvidence

variable {x y : PinnedDegradationEvidence}

def texts (x : PinnedDegradationEvidence) : List String := [x.pinnedFallbackMode.getD ""]

def withSentinels (x : PinnedDegradationEvidence) : PinnedDegradationEvidence :=
  { x with
    unavailablePinnedSetDigestB3 := some (x.unavailablePinnedSetDigestB3.getD 0)
    pinnedFallbackMode := some (x.pinnedFallbackMode.getD "") }

theorem reads_bytes (hx : Short x.texts) (hy : Short y.texts) :
    Reads x.bytes y.bytes (x.withSentinels = y.withSentinels) := by
  have hmode := reads_text hx hy (·.pinnedFallbackMode.getD "") (by simp [texts])
  refine ((reads_be32 _ _).append ((reads_be32 _ _).append
    ((reads_digestBytes _ _).append hmode))).congr ?_
  simp [withSentinels]

end PinnedDegradationEvidence

namespace BundleMetadataRef

variable {x y : BundleMetadataRef}

def texts (x : BundleMetadataRef) : List String :=
  x.cpid.getD "" :: (x.pinnedDegradationEvidence.getD {}).texts

def withSentinels (x : BundleMetadataRef) : BundleMetadataRef :=
  { x with
    cpid := some (x.cpid.getD "")
    sequenceNo := some (x.sequenceNo.getD 0)
    pinnedDegradationEvidence := some (x.pinnedDegradationEvidence.getD {}).withSentinels }

theorem reads_bytes (hx : Short x.texts) (hy : Short y.texts) :
    Reads x.bytes y.bytes (x.withSentinels = y.withSentinels) := by
  have hcpid := reads_text hx hy (·.cpid.getD "") (by simp [texts])
  have hpinned := PinnedDegradationEvidence.reads_bytes
    (fun s hs => hx s (List.mem_cons_of_mem _ hs)) (fun s hs => hy s (List.mem_cons_of_mem _ hs))
  refine ((B3Hash.reads_asBytes _ _).append ((B3Hash.reads_asBytes _ _).append
    ((reads_be32 _ _).append (hcpid.append ((reads_be64 _ _).append hpinned))))).congr ?_
  simp [withSentinels]

end BundleMetadataRef

namespace PolicyAuditRef

variable {x y : PolicyAuditRef}

def texts (x : PolicyAuditRef) : List String := [x.decisionId, x.policyPackId, x.hook, x.decision]

theorem reads_bytes (hx : Short x.texts) (hy : Short y.texts) : Reads x.bytes y.bytes (x = y) := by
  have htext := reads_text hx hy
  have hsequence : ∀ m n : Int64, m.toUInt64 = n.toUInt64 ↔ m = n := by
    rintro ⟨m⟩ ⟨n⟩
    simp
  refine ((htext (·.decisionId) (by simp [texts])).append ((B3Hash.reads_asBytes _ _).append
    ((reads_be64 _ _).append ((htext (·.policyPackId) (by simp [texts])).append
      ((htext (·.hook) (by simp [texts])).append
        (htext (·.decision) (by simp [texts]))))))).congr ?_
  cases x
  cases y
  simp [hsequence]

end PolicyAuditRef

namespace InferenceReceiptRef

variable {x y : InferenceReceiptRef}

def texts (x : InferenceReceiptRef) : List String :=
  [x.traceId, x.stopReasonCode.getD "", x.backendUsed, x.tokenizerVersion.getD "",
    x.tokenizerNormalization.getD "", x.decodeAlgo.getD "", x.samplingBackend.getD "",
    x.reductionStrategy.getD "", x.cacheScope.getD "", x.disclosureLevel.getD "",
    x.receiptSigningKid.getD "", x.receiptSignedAt.getD ""]

/-- Absent values replaced by what stands for them, where something does. -/
def withSentinels (x : InferenceReceiptRef) : InferenceReceiptRef :=
  { x with
    stopReasonCode := some (x.stopReasonCode.getD "")
    stopReasonTokenIndex := some (x.stopReasonTokenIndex.getD 0xFFFFFFFF)
    stopPolicyDigestB3 := some (x.stopPolicyDigestB3.getD 0)
    modelCacheIdentityV2DigestB3 := some (x.modelCacheIdentityV2DigestB3.getD 0)
    tokenizerHashB3 := some (x.tokenizerHashB3.getD 0)
    tokenizerVersion := some (x.tokenizerVersion.getD "")
    tokenizerNormalization := some (x.tokenizerNormalization.getD "")
    modelBuildHashB3 := some (x.modelBuildHashB3.getD 0)
    adapterBuildHashB3 := some (x.adapterBuildHashB3.getD 0)
    decodeAlgo := some (x.decodeAlgo.getD "")
    temperatureQ15 := some (x.temperatureQ15.getD Int16.minValue)
    topPQ15 := some (x.topPQ15.getD Int16.minValue)
    topK := some (x.topK.getD 0xFFFFFFFF)
    seedDigestB3 := some (x.seedDigestB3.getD 0)
    samplingBackend := some (x.samplingBackend.getD "")
    threadCount := some (x.threadCount.getD 0xFFFFFFFF)
    reductionStrategy := some (x.reductionStrategy.getD "")
    stopEosQ15 := some (x.stopEosQ15.getD Int16.minValue)
    stopWindowDigestB3 := some (x.stopWindowDigestB3.getD 0)
    cacheScope := some (x.cacheScope.getD "")
    cachedPrefixDigestB3 := some (x.cachedPrefixDigestB3.getD 0)
    cachedPrefixLen := some (x.cachedPrefixLen.getD 0xFFFFFFFF)
    cacheKeyB3 := some (x.cacheKeyB3.getD 0)
    retrievalMerkleRootB3 := some (x.retrievalMerkleRootB3.getD 0)
    retrievalOrderDigestB3 := some (x.retrievalOrderDigestB3.getD 0)
    toolCallInputsDigestB3 := some (x.toolCallInputsDigestB3.getD 0)
    toolCallOutputsDigestB3 := some (x.toolCallOutputsDigestB3.getD 0)
    disclosureLevel := some (x.disclosureLevel.getD "")
    receiptSigningKid := some (x.receiptSigningKid.getD "")
    receiptSignedAt := some (x.receiptSignedAt.getD "") }

/-- The fields of the key-value quota and of the prefix cache, which no byte depends on. -/
structure KvFields where
  tenantKvQuotaBytes : UInt64
  tenantKvBytesUsed : UInt64
  kvEvictions : UInt32
  kvResidencyPolicyId : Option String
  kvQuotaEnforced : Bool
  prefixKvKeyB3 : Option B3Hash
  prefixCacheHit : Bool
  prefixKvBytes : UInt64
  deriving DecidableEq

def kvFields (x : InferenceReceiptRef) : KvFields :=
  ⟨x.tenantKvQuotaBytes, x.tenantKvBytesUsed, x.kvEvictions, x.kvResidencyPolicyId,
    x.kvQuotaEnforced, x.prefixKvKeyB3, x.prefixCacheHit, x.prefixKvBytes⟩

/-- The receipt without them. -/
def withoutKv (x : InferenceReceiptRef) : InferenceReceiptRef :=
  { x with
    tenantKvQuotaBytes := 0, tenantKvBytesUsed := 0, kvEvictions := 0, kvResidencyPolicyId := none
    kvQuotaEnforced := false, prefixKvKeyB3 := none, prefixCacheHit := false, prefixKvBytes := 0 }

theorem eq_iff_withoutKv : x = y ↔ x.withoutKv = y.withoutKv ∧ x.kvFields = y.kvFields := by
  refine ⟨fun h => h ▸ ⟨rfl, rfl⟩, ?_⟩
  rintro ⟨hrest, hkv⟩
  cases x
  cases y
  simp only [withoutKv, mk.injEq] at hrest
  simp only [kvFields, KvFields.mk.injEq] at hkv
  simp [hrest, hkv]

theorem kvFields_withSentinels (x : InferenceReceiptRef) : x.withSentinels.kvFields = x.kvFields :=
  rfl

theorem reads_bytes (hx : Short x.texts) (hy : Short y.texts) :
    Reads x.bytes y.bytes (x.withSentinels.withoutKv = y.withSentinels.withoutKv) := by
  have htext := reads_text hx hy
  have hdigest := reads_digestBytes
  have hword := reads_wordBytes
  have hq15 := reads_q15Bytes
  have hmarked := reads_markedBytes
  have hidentity := (htext (·.traceId) (by simp [texts])).append
    ((B3Hash.reads_asBytes x.runHeadHash y.runHeadHash).append
      ((B3Hash.reads_asBytes x.outputDigest y.outputDigest).append
        (B3Hash.reads_asBytes x.receiptDigest y.receiptDigest)))
  have htokens := (reads_be32 x.logicalPromptTokens y.logicalPromptTokens).append
    ((reads_be32 x.prefixCachedTokenCount y.prefixCachedTokenCount).append
      ((reads_be32 x.billedInputTokens y.billedInputTokens).append
        ((reads_be32 x.logicalOutputTokens y.logicalOutputTokens).append
          (reads_be32 x.billedOutputTokens y.billedOutputTokens))))
  have hstop := (htext (·.stopReasonCode.getD "") (by simp [texts])).append
    ((hword x.stopReasonTokenIndex y.stopReasonTokenIndex).append
      (hdigest x.stopPolicyDigestB3 y.stopPolicyDigestB3))
  have hmodel := (hdigest x.modelCacheIdentityV2DigestB3 y.modelCacheIdentityV2DigestB3).append
    ((htext (·.backendUsed) (by simp [texts])).append
      (hmarked x.backendAttestationB3 y.backendAttestationB3))
  have hlineage := (hmarked x.seedLineageHash y.seedLineageHash).append
    ((hmarked x.adapterTrainingLineageDigest y.adapterTrainingLineageDigest).append
      ((hmarked x.previousReceiptDigest y.previousReceiptDigest).append
        (reads_be64 x.sessionSequence y.sessionSequence)))
  have htokenizer := (hdigest x.tokenizerHashB3 y.tokenizerHashB3).append
    ((htext (·.tokenizerVersion.getD "") (by simp [texts])).append
      ((htext (·.tokenizerNormalization.getD "") (by simp [texts])).append
        ((hdigest x.modelBuildHashB3 y.modelBuildHashB3).append
          (hdigest x.adapterBuildHashB3 y.adapterBuildHashB3))))
  have hdecoder := (htext (·.decodeAlgo.getD "") (by simp [texts])).append
    ((hq15 x.temperatureQ15 y.temperatureQ15).append ((hq15 x.topPQ15 y.topPQ15).append
      ((hword x.topK y.topK).append ((hdigest x.seedDigestB3 y.seedDigestB3).append
        (htext (·.samplingBackend.getD "") (by simp [texts]))))))
  have hconcurrency := (hword x.threadCount y.threadCount).append
    ((htext (·.reductionStrategy.getD "") (by simp [texts])).append
      ((hq15 x.stopEosQ15 y.stopEosQ15).append (hdigest x.stopWindowDigestB3 y.stopWindowDigestB3)))
  have hcache := (htext (·.cacheScope.getD "") (by simp [texts])).append
    ((hdigest x.cachedPrefixDigestB3 y.cachedPrefixDigestB3).append
      ((hword x.cachedPrefixLen y.cachedPrefixLen).append (hdigest x.cacheKeyB3 y.cacheKeyB3)))
  have hbinding := (hdigest x.retrievalMerkleRootB3 y.retrievalMerkleRootB3).append
    ((hdigest x.retrievalOrderDigestB3 y.retrievalOrderDigestB3).append
      ((hdigest x.toolCallInputsDigestB3 y.toolCallInputsDigestB3).append
        (hdigest x.toolCallOutputsDigestB3 y.toolCallOutputsDigestB3)))
  have hdisclosure := (htext (·.disclosureLevel.getD "") (by simp [texts])).append
    ((htext (·.receiptSigningKid.getD "") (by simp [texts])).append
      (htext (·.receiptSignedAt.getD "") (by simp [texts])))
  refine (hidentity.append (htokens.append (hstop.append (hmodel.append (hlineage.append
    (htokenizer.append (hdecoder.append (hconcurrency.append (hcache.append
      (hbinding.append hdisclosure)))))))))).congr ?_
  simp only [withSentinels, withoutKv, mk.injEq, Option.some.injEq, and_assoc, true_and]

end InferenceReceiptRef

namespace EvidenceEnvelope

variable {a b : EvidenceEnvelope}

def texts (e : EvidenceEnvelope) : List String :=
  [e.tenantId, e.createdAt, e.attestationRef.getD ""] ++
    ((e.bundleMetadataRef.map BundleMetadataRef.texts).getD [] ++
      ((e.policyAuditRef.map PolicyAuditRef.texts).getD [] ++
        (e.inferenceReceiptRef.map InferenceReceiptRef.texts).getD []))

/-- An envelope without its signature, and with absent values replaced by what stands for them. -/
def withSentinels (e : EvidenceEnvelope) : EvidenceEnvelope :=
  { e with
    signature := "", publicKey := "", keyId := ""
    previousRoot := some (e.previousRoot.getD 0)
    attestationRef := some (e.attestationRef.getD "")
    bundleMetadataRef := e.bundleMetadataRef.map BundleMetadataRef.withSentinels
    inferenceReceiptRef := e.inferenceReceiptRef.map InferenceReceiptRef.withSentinels }

/-- The bytes before the payload. -/
def headerBytes (e : EvidenceEnvelope) : List UInt8 :=
  [e.schemaVersion] ++ (encodeStr e.tenantId ++ ([e.scope.tag] ++ (digestBytes e.previousRoot ++
    (B3Hash.asBytes e.root ++ (encodeStr e.createdAt ++ (be64 e.signedAtUs ++
      textBytes e.attestationRef))))))

theorem toCanonicalBytes_eq (e : EvidenceEnvelope) :
    e.toCanonicalBytes = e.headerBytes ++ e.encodeScopePayload := by
  simp only [toCanonicalBytes, headerBytes, List.append_assoc]

/-- The fields outside the payload are the same. -/
structure SameHeader (a b : EvidenceEnvelope) : Prop where
  schemaVersion : a.schemaVersion = b.schemaVersion
  tenantId : a.tenantId = b.tenantId
  scope : a.scope = b.scope
  previousRoot : a.previousRoot.getD 0 = b.previousRoot.getD 0
  root : a.root = b.root
  createdAt : a.createdAt = b.createdAt
  signedAtUs : a.signedAtUs = b.signedAtUs
  attestationRef : a.attestationRef.getD "" = b.attestationRef.getD ""

theorem tag_inj {s t : EvidenceScope} : s.tag = t.tag ↔ s = t := by
  cases s <;> cases t <;> decide

theorem reads_headerBytes (ha : Short a.texts) (hb : Short b.texts) :
    Reads a.headerBytes b.headerBytes (SameHeader a b) := by
  have htext := reads_text ha hb
  refine ((reads_byte _ _).append ((htext (·.tenantId) (by simp [texts])).append
    (((reads_byte _ _).congr tag_inj).append ((reads_digestBytes _ _).append
      ((B3Hash.reads_asBytes _ _).append ((htext (·.createdAt) (by simp [texts])).append
        ((reads_be64 _ _).append
          (htext (·.attestationRef.getD "") (by simp [texts]))))))))).congr ?_
  constructor
  · rintro ⟨h₁, h₂, h₃, h₄, h₅, h₆, h₇, h₈⟩
    exact ⟨h₁, h₂, h₃, h₄, h₅, h₆, h₇, h₈⟩
  · rintro ⟨h₁, h₂, h₃, h₄, h₅, h₆, h₇, h₈⟩
    exact ⟨h₁, h₂, h₃, h₄, h₅, h₆, h₇, h₈⟩

/-- What the payloads have in common if their bytes are the same. -/
structure SamePayload (a b : EvidenceEnvelope) : Prop where
  bundle : a.bundleMetadataRef.map BundleMetadataRef.withSentinels =
    b.bundleMetadataRef.map BundleMetadataRef.withSentinels
  policy : a.policyAuditRef = b.policyAuditRef
  inference : a.inferenceReceiptRef.map (fun r => r.withSentinels.withoutKv) =
    b.inferenceReceiptRef.map fun r => r.withSentinels.withoutKv

theorem map_eq_of_bytes {α β : Type*} {x y : Option α} {bytes : α → List UInt8} {f : α → β}
    (hx : x.isSome = true) (hy : y.isSome = true)
    (hreads : ∀ u ∈ x, ∀ v ∈ y, Reads (bytes u) (bytes v) (f u = f v))
    (h : (x.map bytes).getD [] = (y.map bytes).getD []) : x.map f = y.map f := by
  obtain ⟨u, rfl⟩ := Option.isSome_iff_exists.mp hx
  obtain ⟨v, rfl⟩ := Option.isSome_iff_exists.mp hy
  rw [Option.map_some, Option.map_some, (hreads u rfl v rfl).eq_iff.mp h]

theorem samePayload_of_bytes (hscope : a.scope = b.scope) (ha : a.PayloadFits)
    (hb : b.PayloadFits) (hsa : Short a.texts) (hsb : Short b.texts)
    (h : a.encodeScopePayload = b.encodeScopePayload) : SamePayload a b := by
  unfold PayloadFits at ha hb
  unfold encodeScopePayload at h
  rw [hscope] at ha h
  cases hs : b.scope with
  | telemetry =>
    simp only [hs] at ha hb h
    obtain ⟨hra, hpa, hia⟩ := ha
    obtain ⟨hrb, hpb, hib⟩ := hb
    refine ⟨map_eq_of_bytes hra hrb ?_ h, hpa.trans hpb.symm, by rw [hia, hib]⟩
    intro x hx y hy
    rw [Option.mem_def] at hx hy
    exact BundleMetadataRef.reads_bytes (fun s hm => hsa s (by simp [texts, hx, hm]))
      fun s hm => hsb s (by simp [texts, hy, hm])
  | policy =>
    simp only [hs] at ha hb h
    obtain ⟨hra, hpa, hia⟩ := ha
    obtain ⟨hrb, hpb, hib⟩ := hb
    have hsame : a.policyAuditRef.map id = b.policyAuditRef.map id := by
      refine map_eq_of_bytes hpa hpb ?_ h
      intro x hx y hy
      rw [Option.mem_def] at hx hy
      exact PolicyAuditRef.reads_bytes (fun s hm => hsa s (by simp [texts, hx, hm]))
        fun s hm => hsb s (by simp [texts, hy, hm])
    refine ⟨by rw [hra, hrb], ?_, by rw [hia, hib]⟩
    rwa [Option.map_id, id, id] at hsame
  | inference =>
    simp only [hs] at ha hb h
    obtain ⟨hra, hpa, hia⟩ := ha
    obtain ⟨hrb, hpb, hib⟩ := hb
    refine ⟨by rw [hra, hrb], hpa.trans hpb.symm, map_eq_of_bytes hia hib ?_ h⟩
    intro x hx y hy
    rw [Option.mem_def] at hx hy
    exact InferenceReceiptRef.reads_bytes (fun s hm => hsa s (by simp [texts, hx, hm]))
      fun s hm => hsb s (by simp [texts, hy, hm])

theorem withSentinels_inference_iff {x y : Option InferenceReceiptRef}
    (h : x.map (fun r => r.withSentinels.withoutKv) = y.map fun r => r.withSentinels.withoutKv) :
    x.map InferenceReceiptRef.withSentinels = y.map InferenceReceiptRef.withSentinels ↔
      x.map InferenceReceiptRef.kvFields = y.map InferenceReceiptRef.kvFields := by
  cases x with
  | none =>
    cases y with
    | none => simp
    | some y => simp at h
  | some x =>
    cases y with
    | none => simp at h
    | some y =>
      grind [InferenceReceiptRef.eq_iff_withoutKv, InferenceReceiptRef.kvFields_withSentinels]

/-- Valid envelopes with the same signed bytes agree, up to sentinels, exactly if the key-value
fields of their receipts do. -/
theorem agree_iff_kvFields (ha : a.validate = .ok ()) (hb : b.validate = .ok ())
    (hsa : Short a.texts) (hsb : Short b.texts) (h : a.toCanonicalBytes = b.toCanonicalBytes) :
    a.withSentinels = b.withSentinels ↔ a.inferenceReceiptRef.map InferenceReceiptRef.kvFields =
        b.inferenceReceiptRef.map InferenceReceiptRef.kvFields := by
  obtain ⟨-, -, hfa⟩ := (validate_eq_ok a).mp ha
  obtain ⟨-, -, hfb⟩ := (validate_eq_ok b).mp hb
  rw [toCanonicalBytes_eq, toCanonicalBytes_eq] at h
  have hheader := reads_headerBytes hsa hsb
  obtain ⟨hbytes, hpayload⟩ := hheader.split _ _ h
  have hsame := hheader.eq_iff.mp hbytes
  have hparts := samePayload_of_bytes hsame.scope hfa hfb hsa hsb hpayload
  obtain ⟨⟩ := hparts
  obtain ⟨⟩ := hsame
  grind [withSentinels_inference_iff, withSentinels]

def sampleReceipt (kvEvictions : UInt32) : EvidenceEnvelope :=
  newInference "t" none "0" { traceId := "r", kvEvictions := kvEvictions }

set_option maxRecDepth 4000

/-- An absent stop reason is signed like an empty one, and nothing else differs. -/
theorem agree_emptyReason : (newInference "t" none "0" { stopReasonCode := none }).withSentinels =
      (newInference "t" none "0" { stopReasonCode := some "" }).withSentinels := by
  refine (agree_iff_kvFields ?_ ?_ ?_ ?_ ?_).mpr ?_
  · decide
  · decide
  · decide
  · decide
  · decide
  · decide

/-- The number of evictions is changed under the same signature. -/
theorem evictions_unsigned :
    (sampleReceipt 0).validate = .ok () ∧ (sampleReceipt 7).validate = .ok () ∧
      Short (sampleReceipt 0).texts ∧ Short (sampleReceipt 7).texts ∧
      (sampleReceipt 0).toCanonicalBytes = (sampleReceipt 7).toCanonicalBytes ∧
      (sampleReceipt 0).withSentinels ≠ (sampleReceipt 7).withSentinels := by
  decide

end EvidenceEnvelope

end AdapterOS.Evidence
