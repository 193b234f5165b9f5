import AdapterOS.Receipt.Digest
import Mathlib.Tactic.IntervalCases

/-! What a receipt digest binds: two inputs have the same digest at a version exactly if they agree
on the fields of that version, up to sentinels. -/
namespace AdapterOS.Receipt

open Library

section Sentinels

variable {s t : Option String}

theorem reads_digestBytes (a b : Option B3Hash) :
    Reads (digestBytes a) (digestBytes b) (a.getD 0 = b.getD 0) :=
  B3Hash.reads_asBytes _ _

theorem reads_wordBytes (m n : Option UInt32) :
    Reads (wordBytes m) (wordBytes n) (m.getD 0xFFFFFFFF = n.getD 0xFFFFFFFF) :=
  reads_le32 _ _

theorem reads_q15Bytes (p q : Option Int16) :
    Reads (q15Bytes p) (q15Bytes q) (p.getD Int16.minValue = q.getD Int16.minValue) :=
  reads_le16 _ _

theorem reads_stringBytes (hs : (utf8 (s.getD "")).length < 2 ^ 32)
    (ht : (utf8 (t.getD "")).length < 2 ^ 32) :
    Reads (stringBytes s) (stringBytes t) (s.getD "" = t.getD "") :=
  (reads_lengthPrefixed hs ht).congr utf8_inj

theorem asBytes_ne_nil (d : B3Hash) : B3Hash.asBytes d ≠ [] := by
  apply List.ne_nil_of_length_pos
  simp

theorem reads_attestationBytes (a b : Option B3Hash) :
    Reads (attestationBytes a) (attestationBytes b) (a = b) := by
  have hshort : ∀ d : Option B3Hash, ((d.map B3Hash.asBytes).getD []).length < 2 ^ 32 := by
    intro d
    cases d <;> simp
  refine (reads_lengthPrefixed (hshort a) (hshort b)).congr ?_
  cases a <;> cases b <;> simp [asBytes_ne_nil, (asBytes_ne_nil _).symm]

end Sentinels

namespace ReceiptDigestInput

variable {x y : ReceiptDigestInput}

/-- The texts of an input as they are hashed. -/
def texts (x : ReceiptDigestInput) : List String :=
  [x.backendUsed.getD "", x.seedMode.getD "unknown", x.stopReasonCode.getD "",
    x.kvResidencyPolicyId.getD "", x.processorId.getD "", x.mlxVersion.getD "",
    x.aneVersion.getD "", x.tokenizerVersion.getD "", x.tokenizerNormalization.getD "",
    x.decodeAlgo.getD "", x.samplingBackend.getD "", x.reductionStrategy.getD "",
    x.cacheScope.getD "", x.disclosureLevel.getD ""]

def Short (x : ReceiptDigestInput) : Prop := ∀ s ∈ x.texts, (utf8 s).length < 2 ^ 32

instance Short.decidable (x : ReceiptDigestInput) : Decidable x.Short :=
  inferInstanceAs (Decidable (∀ s ∈ x.texts, (utf8 s).length < 2 ^ 32))

section Agreement

/-- Agreement on the digests and the five billing counters. -/
def SameCore (x y : ReceiptDigestInput) : Prop :=
  x.contextDigest = y.contextDigest ∧ x.runHeadHash = y.runHeadHash ∧
    x.outputDigest = y.outputDigest ∧ x.logicalPromptTokens = y.logicalPromptTokens ∧
    x.prefixCachedTokenCount = y.prefixCachedTokenCount ∧
    x.billedInputTokens = y.billedInputTokens ∧ x.logicalOutputTokens = y.logicalOutputTokens ∧
    x.billedOutputTokens = y.billedOutputTokens

def SameBackend (x y : ReceiptDigestInput) : Prop :=
  x.backendUsed.getD "" = y.backendUsed.getD "" ∧
    x.backendAttestationB3 = y.backendAttestationB3

def SameSeed (x y : ReceiptDigestInput) : Prop :=
  x.rootSeedDigest.getD 0 = y.rootSeedDigest.getD 0 ∧
    x.seedMode.getD "unknown" = y.seedMode.getD "unknown" ∧
    x.hasManifestBinding.getD false = y.hasManifestBinding.getD false

def SameStop (x y : ReceiptDigestInput) : Prop :=
  x.stopReasonCode.getD "" = y.stopReasonCode.getD "" ∧
    x.stopReasonTokenIndex.getD 0xFFFFFFFF = y.stopReasonTokenIndex.getD 0xFFFFFFFF ∧
    x.stopPolicyDigestB3.getD 0 = y.stopPolicyDigestB3.getD 0

def SameKv (x y : ReceiptDigestInput) : Prop :=
  x.tenantKvQuotaBytes = y.tenantKvQuotaBytes ∧ x.tenantKvBytesUsed = y.tenantKvBytesUsed ∧
    x.kvEvictions = y.kvEvictions ∧
    x.kvResidencyPolicyId.getD "" = y.kvResidencyPolicyId.getD "" ∧
    x.kvQuotaEnforced = y.kvQuotaEnforced

def SamePrefixCache (x y : ReceiptDigestInput) : Prop :=
  x.prefixKvKeyB3.getD 0 = y.prefixKvKeyB3.getD 0 ∧ x.prefixCacheHit = y.prefixCacheHit ∧
    x.prefixKvBytes = y.prefixKvBytes

def SameProduction (x y : ReceiptDigestInput) : Prop :=
  SameStop x y ∧ SameKv x y ∧ SamePrefixCache x y ∧
    x.modelCacheIdentityV2DigestB3.getD 0 = y.modelCacheIdentityV2DigestB3.getD 0

def SameEquipment (x y : ReceiptDigestInput) : Prop :=
  x.equipmentProfileDigestB3.getD 0 = y.equipmentProfileDigestB3.getD 0 ∧
    x.processorId.getD "" = y.processorId.getD "" ∧ x.mlxVersion.getD "" = y.mlxVersion.getD "" ∧
    x.aneVersion.getD "" = y.aneVersion.getD ""

def SameCitations (x y : ReceiptDigestInput) : Prop :=
  x.citationsMerkleRootB3.getD 0 = y.citationsMerkleRootB3.getD 0 ∧
    x.citationCount = y.citationCount

def SameLineage (x y : ReceiptDigestInput) : Prop :=
  x.previousReceiptDigest.getD 0 = y.previousReceiptDigest.getD 0 ∧
    x.sessionSequence = y.sessionSequence

def SameTokenizer (x y : ReceiptDigestInput) : Prop :=
  x.tokenizerHashB3.getD 0 = y.tokenizerHashB3.getD 0 ∧
    x.tokenizerVersion.getD "" = y.tokenizerVersion.getD "" ∧
    x.tokenizerNormalization.getD "" = y.tokenizerNormalization.getD ""

def SameBuild (x y : ReceiptDigestInput) : Prop :=
  x.modelBuildHashB3.getD 0 = y.modelBuildHashB3.getD 0 ∧
    x.adapterBuildHashB3.getD 0 = y.adapterBuildHashB3.getD 0

def SameDecoder (x y : ReceiptDigestInput) : Prop :=
  x.decodeAlgo.getD "" = y.decodeAlgo.getD "" ∧
    x.temperatureQ15.getD Int16.minValue = y.temperatureQ15.getD Int16.minValue ∧
    x.topPQ15.getD Int16.minValue = y.topPQ15.getD Int16.minValue ∧
    x.topK.getD 0xFFFFFFFF = y.topK.getD 0xFFFFFFFF ∧
    x.seedDigestB3.getD 0 = y.seedDigestB3.getD 0 ∧
    x.samplingBackend.getD "" = y.samplingBackend.getD ""

def SameConcurrency (x y : ReceiptDigestInput) : Prop :=
  x.threadCount.getD 0xFFFFFFFF = y.threadCount.getD 0xFFFFFFFF ∧
    x.reductionStrategy.getD "" = y.reductionStrategy.getD ""

def SameStopInputs (x y : ReceiptDigestInput) : Prop :=
  x.stopEosQ15.getD Int16.minValue = y.stopEosQ15.getD Int16.minValue ∧
    x.stopWindowDigestB3.getD 0 = y.stopWindowDigestB3.getD 0

def SameCacheProof (x y : ReceiptDigestInput) : Prop :=
  x.cacheScope.getD "" = y.cacheScope.getD "" ∧
    x.cachedPrefixDigestB3.getD 0 = y.cachedPrefixDigestB3.getD 0 ∧
    x.cachedPrefixLen.getD 0xFFFFFFFF = y.cachedPrefixLen.getD 0xFFFFFFFF ∧
    x.cacheKeyB3.getD 0 = y.cacheKeyB3.getD 0

def SameRetrieval (x y : ReceiptDigestInput) : Prop :=
  x.retrievalMerkleRootB3.getD 0 = y.retrievalMerkleRootB3.getD 0 ∧
    x.retrievalOrderDigestB3.getD 0 = y.retrievalOrderDigestB3.getD 0 ∧
    x.toolCallInputsDigestB3.getD 0 = y.toolCallInputsDigestB3.getD 0 ∧
    x.toolCallOutputsDigestB3.getD 0 = y.toolCallOutputsDigestB3.getD 0

/-- Agreement on the determinism envelope of version 7. -/
def SameEnvelope (x y : ReceiptDigestInput) : Prop :=
  SameTokenizer x y ∧ SameBuild x y ∧ SameDecoder x y ∧ SameConcurrency x y ∧
    SameStopInputs x y ∧ SameCacheProof x y ∧ SameRetrieval x y ∧
    x.disclosureLevel.getD "" = y.disclosureLevel.getD ""

def SameBindings (x y : ReceiptDigestInput) : Prop :=
  x.adapterVersionBindingsDigestB3.getD 0 = y.adapterVersionBindingsDigestB3.getD 0

def SameV5 (x y : ReceiptDigestInput) : Prop :=
  SameCore x y ∧ SameBackend x y ∧ SameProduction x y ∧ SameEquipment x y ∧ SameCitations x y

def SameV7 (x y : ReceiptDigestInput) : Prop := SameV5 x y ∧ SameLineage x y ∧ SameEnvelope x y

/-- Agreement on every field that a version binds. -/
def SameBound (v : Nat) (x y : ReceiptDigestInput) : Prop :=
  match v with
  | 1 => SameCore x y
  | 2 => SameCore x y ∧ SameBackend x y
  | 3 => SameCore x y ∧ SameBackend x y ∧ SameSeed x y
  | 4 => SameCore x y ∧ SameProduction x y
  | 5 => SameV5 x y
  | 6 => SameV5 x y ∧ SameLineage x y
  | 7 => SameV7 x y
  | 8 => SameV7 x y ∧ SameBindings x y
  | _ => False

theorem sameBound_iff {v : Nat} (hv : 1 ≤ v) (hv' : v ≤ 8) :
    SameBound v x y ↔ SameCore x y ∧ (v = 2 ∨ v = 3 ∨ 5 ≤ v → SameBackend x y) ∧
      (v = 3 → SameSeed x y) ∧ (4 ≤ v → SameProduction x y) ∧
      (5 ≤ v → SameEquipment x y ∧ SameCitations x y) ∧ (6 ≤ v → SameLineage x y) ∧
      (7 ≤ v → SameEnvelope x y) ∧ (8 ≤ v → SameBindings x y) := by
  interval_cases v <;> simp [SameBound, SameV7, SameV5, and_assoc]

end Agreement

section Reading

theorem reads_text (hx : x.Short) (hy : y.Short) {s t : Option String}
    (hs : s.getD "" ∈ x.texts) (ht : t.getD "" ∈ y.texts) :
    Reads (stringBytes s) (stringBytes t) (s.getD "" = t.getD "") :=
  reads_stringBytes (hx _ hs) (hy _ ht)

theorem reads_coreBytes (x y : ReceiptDigestInput) :
    Reads x.coreBytes y.coreBytes (SameCore x y) := by
  have h := (((((((B3Hash.reads_asBytes x.contextDigest y.contextDigest).append
    (B3Hash.reads_asBytes x.runHeadHash y.runHeadHash)).append
    (B3Hash.reads_asBytes x.outputDigest y.outputDigest)).append
    (reads_le32 x.logicalPromptTokens y.logicalPromptTokens)).append
    (reads_le32 x.prefixCachedTokenCount y.prefixCachedTokenCount)).append
    (reads_le32 x.billedInputTokens y.billedInputTokens)).append
    (reads_le32 x.logicalOutputTokens y.logicalOutputTokens)).append
    (reads_le32 x.billedOutputTokens y.billedOutputTokens)
  exact h.congr (by simp only [SameCore, and_assoc])

theorem reads_backendBytes (hx : x.Short) (hy : y.Short) :
    Reads x.backendBytes y.backendBytes (SameBackend x y) :=
  (reads_text hx hy (by simp [texts]) (by simp [texts])).append (reads_attestationBytes _ _)

theorem reads_seedBytes (hx : x.Short) (hy : y.Short) :
    Reads x.seedBytes y.seedBytes (SameSeed x y) := by
  have hmode : Reads (lengthPrefixed (utf8 (x.seedMode.getD "unknown")))
      (lengthPrefixed (utf8 (y.seedMode.getD "unknown")))
      (x.seedMode.getD "unknown" = y.seedMode.getD "unknown") :=
    (reads_lengthPrefixed (hx _ (by simp [texts])) (hy _ (by simp [texts]))).congr utf8_inj
  have h := ((reads_digestBytes x.rootSeedDigest y.rootSeedDigest).append hmode).append
    (reads_flagByte (x.hasManifestBinding.getD false) (y.hasManifestBinding.getD false))
  exact h.congr (by simp only [SameSeed, and_assoc])

theorem reads_stopBytes (hx : x.Short) (hy : y.Short) :
    Reads x.stopBytes y.stopBytes (SameStop x y) := by
  have hcode : Reads (stringBytes x.stopReasonCode) (stringBytes y.stopReasonCode) _ :=
    reads_text hx hy (by simp [texts]) (by simp [texts])
  have h := (hcode.append (reads_wordBytes x.stopReasonTokenIndex y.stopReasonTokenIndex)).append
    (reads_digestBytes x.stopPolicyDigestB3 y.stopPolicyDigestB3)
  exact h.congr (by simp only [SameStop, and_assoc])

theorem reads_kvBytes (hx : x.Short) (hy : y.Short) : Reads x.kvBytes y.kvBytes (SameKv x y) := by
  have hpolicy : Reads (stringBytes x.kvResidencyPolicyId) (stringBytes y.kvResidencyPolicyId) _ :=
    reads_text hx hy (by simp [texts]) (by simp [texts])
  have h := ((((reads_le64 x.tenantKvQuotaBytes y.tenantKvQuotaBytes).append
    (reads_le64 x.tenantKvBytesUsed y.tenantKvBytesUsed)).append
    (reads_le32 x.kvEvictions y.kvEvictions)).append hpolicy).append
    (reads_flagByte x.kvQuotaEnforced y.kvQuotaEnforced)
  exact h.congr (by simp only [SameKv, and_assoc])

theorem reads_prefixCacheBytes (x y : ReceiptDigestInput) :
    Reads x.prefixCacheBytes y.prefixCacheBytes (SamePrefixCache x y) := by
  have h := ((reads_digestBytes x.prefixKvKeyB3 y.prefixKvKeyB3).append
    (reads_flagByte x.prefixCacheHit y.prefixCacheHit)).append
    (reads_le64 x.prefixKvBytes y.prefixKvBytes)
  exact h.congr (by simp only [SamePrefixCache, and_assoc])

theorem reads_productionBytes (hx : x.Short) (hy : y.Short) :
    Reads x.productionBytes y.productionBytes (SameProduction x y) := by
  have h := (((reads_stopBytes hx hy).append (reads_kvBytes hx hy)).append
    (reads_prefixCacheBytes x y)).append
    (reads_digestBytes x.modelCacheIdentityV2DigestB3 y.modelCacheIdentityV2DigestB3)
  exact h.congr (by simp only [SameProduction, and_assoc])

theorem reads_equipmentBytes (hx : x.Short) (hy : y.Short) :
    Reads x.equipmentBytes y.equipmentBytes (SameEquipment x y) := by
  have hprocessor : Reads (stringBytes x.processorId) (stringBytes y.processorId) _ :=
    reads_text hx hy (by simp [texts]) (by simp [texts])
  have hmlx : Reads (stringBytes x.mlxVersion) (stringBytes y.mlxVersion) _ :=
    reads_text hx hy (by simp [texts]) (by simp [texts])
  have hane : Reads (stringBytes x.aneVersion) (stringBytes y.aneVersion) _ :=
    reads_text hx hy (by simp [texts]) (by simp [texts])
  have h := (((reads_digestBytes x.equipmentProfileDigestB3 y.equipmentProfileDigestB3).append
    hprocessor).append hmlx).append hane
  exact h.congr (by simp only [SameEquipment, and_assoc])

theorem reads_citationBytes (x y : ReceiptDigestInput) :
    Reads x.citationBytes y.citationBytes (SameCitations x y) :=
  (reads_digestBytes _ _).append (reads_le32 _ _)

theorem reads_boundBytes (hx : x.Short) (hy : y.Short) :
    Reads x.boundBytes y.boundBytes (SameV5 x y) := by
  have h := ((((reads_coreBytes x y).append (reads_backendBytes hx hy)).append
    (reads_productionBytes hx hy)).append (reads_equipmentBytes hx hy)).append
    (reads_citationBytes x y)
  exact h.congr (by simp only [SameV5, and_assoc])

theorem reads_lineageBytes (x y : ReceiptDigestInput) :
    Reads x.lineageBytes y.lineageBytes (SameLineage x y) :=
  (reads_digestBytes _ _).append (reads_le64 _ _)

theorem reads_tokenizerBytes (hx : x.Short) (hy : y.Short) :
    Reads x.tokenizerBytes y.tokenizerBytes (SameTokenizer x y) := by
  have hversion : Reads (stringBytes x.tokenizerVersion) (stringBytes y.tokenizerVersion) _ :=
    reads_text hx hy (by simp [texts]) (by simp [texts])
  have hnorm : Reads (stringBytes x.tokenizerNormalization)
      (stringBytes y.tokenizerNormalization) _ :=
    reads_text hx hy (by simp [texts]) (by simp [texts])
  have h := ((reads_digestBytes x.tokenizerHashB3 y.tokenizerHashB3).append hversion).append hnorm
  exact h.congr (by simp only [SameTokenizer, and_assoc])

theorem reads_buildBytes (x y : ReceiptDigestInput) :
    Reads x.buildBytes y.buildBytes (SameBuild x y) :=
  (reads_digestBytes _ _).append (reads_digestBytes _ _)

theorem reads_decoderBytes (hx : x.Short) (hy : y.Short) :
    Reads x.decoderBytes y.decoderBytes (SameDecoder x y) := by
  have halgo : Reads (stringBytes x.decodeAlgo) (stringBytes y.decodeAlgo) _ :=
    reads_text hx hy (by simp [texts]) (by simp [texts])
  have hsampling : Reads (stringBytes x.samplingBackend) (stringBytes y.samplingBackend) _ :=
    reads_text hx hy (by simp [texts]) (by simp [texts])
  have h := ((((halgo.append (reads_q15Bytes x.temperatureQ15 y.temperatureQ15)).append
    (reads_q15Bytes x.topPQ15 y.topPQ15)).append (reads_wordBytes x.topK y.topK)).append
    (reads_digestBytes x.seedDigestB3 y.seedDigestB3)).append hsampling
  exact h.congr (by simp only [SameDecoder, and_assoc])

theorem reads_concurrencyBytes (hx : x.Short) (hy : y.Short) :
    Reads x.concurrencyBytes y.concurrencyBytes (SameConcurrency x y) :=
  (reads_wordBytes _ _).append (reads_text hx hy (by simp [texts]) (by simp [texts]))

theorem reads_stopInputBytes (x y : ReceiptDigestInput) :
    Reads x.stopInputBytes y.stopInputBytes (SameStopInputs x y) :=
  (reads_q15Bytes _ _).append (reads_digestBytes _ _)

theorem reads_cacheProofBytes (hx : x.Short) (hy : y.Short) :
    Reads x.cacheProofBytes y.cacheProofBytes (SameCacheProof x y) := by
  have hscope : Reads (stringBytes x.cacheScope) (stringBytes y.cacheScope) _ :=
    reads_text hx hy (by simp [texts]) (by simp [texts])
  have h := ((hscope.append
    (reads_digestBytes x.cachedPrefixDigestB3 y.cachedPrefixDigestB3)).append
    (reads_wordBytes x.cachedPrefixLen y.cachedPrefixLen)).append
    (reads_digestBytes x.cacheKeyB3 y.cacheKeyB3)
  exact h.congr (by simp only [SameCacheProof, and_assoc])

theorem reads_retrievalBytes (x y : ReceiptDigestInput) :
    Reads x.retrievalBytes y.retrievalBytes (SameRetrieval x y) := by
  have h := (((reads_digestBytes x.retrievalMerkleRootB3 y.retrievalMerkleRootB3).append
    (reads_digestBytes x.retrievalOrderDigestB3 y.retrievalOrderDigestB3)).append
    (reads_digestBytes x.toolCallInputsDigestB3 y.toolCallInputsDigestB3)).append
    (reads_digestBytes x.toolCallOutputsDigestB3 y.toolCallOutputsDigestB3)
  exact h.congr (by simp only [SameRetrieval, and_assoc])

theorem reads_envelopeBytes (hx : x.Short) (hy : y.Short) :
    Reads x.envelopeBytes y.envelopeBytes (SameEnvelope x y) := by
  have hdisclosure : Reads x.disclosureBytes y.disclosureBytes _ :=
    reads_text hx hy (by simp [texts]) (by simp [texts])
  have h := (((((((reads_tokenizerBytes hx hy).append (reads_buildBytes x y)).append
    (reads_decoderBytes hx hy)).append (reads_concurrencyBytes hx hy)).append
    (reads_stopInputBytes x y)).append (reads_cacheProofBytes hx hy)).append
    (reads_retrievalBytes x y)).append hdisclosure
  exact h.congr (by simp only [SameEnvelope, and_assoc])

end Reading

section Versions

variable {hash : List UInt8 → B3Hash} {v : Nat}

/-- The message whose hash is the digest of a version. -/
def message (hash : List UInt8 → B3Hash) : Nat → ReceiptDigestInput → List UInt8
  | 1, x => x.v1Message
  | 2, x => x.v2Message
  | 3, x => x.v3Message
  | 4, x => x.v4Message
  | 5, x => x.v5Message
  | 6, x => x.v6Message
  | 7, x => x.v7Message
  | _, x => x.v8Message (computeV7Digest hash x)

def messages (hash : List UInt8 → B3Hash) (v : Nat) (x : ReceiptDigestInput) :
    List (List UInt8) :=
  if v = 8 then [x.v7Message, message hash v x] else [message hash v x]

theorem message_mem (hash : List UInt8 → B3Hash) (v : Nat) (x : ReceiptDigestInput) :
    message hash v x ∈ messages hash v x := by
  simp only [messages]
  split <;> simp

theorem computeReceiptDigest_eq (hv : 1 ≤ v) (hv' : v ≤ 8) :
    computeReceiptDigest hash x v = some (hash (message hash v x)) := by
  interval_cases v <;> rfl

theorem message_head (hv : 5 ≤ v) (hv' : v ≤ 8) : (message hash v x).head? = some (.ofNat v) := by
  interval_cases v <;> rfl

theorem v8Message_eq_iff (hash : List UInt8 → B3Hash) (x y : ReceiptDigestInput) :
    x.v8Message (computeV7Digest hash x) = y.v8Message (computeV7Digest hash y) ↔
      computeV7Digest hash x = computeV7Digest hash y ∧ SameBindings x y := by
  have h := (B3Hash.reads_asBytes (computeV7Digest hash x) (computeV7Digest hash y)).append
    (reads_digestBytes x.adapterVersionBindingsDigestB3 y.adapterVersionBindingsDigestB3)
  rw [v8Message, v8Message, List.append_assoc, List.append_assoc, List.append_cancel_left_eq]
  exact h.eq_iff

theorem v7Message_eq_iff (hx : x.Short) (hy : y.Short) :
    x.v7Message = y.v7Message ↔ SameV7 x y := by
  have h := ((reads_boundBytes hx hy).append (reads_lineageBytes x y)).append
    (reads_envelopeBytes hx hy)
  have he := h.eq_iff
  simp only [v7Message, SameV7, List.append_assoc, List.append_cancel_left_eq, and_assoc] at he ⊢
  exact he

theorem receiptDigest_eq_iff (hv : 1 ≤ v) (hv' : v ≤ 8) (hx : x.Short) (hy : y.Short)
    (hfree : CollisionFree hash (messages hash v x ++ messages hash v y)) :
    computeReceiptDigest hash x v = computeReceiptDigest hash y v ↔ SameBound v x y := by
  have hmessage : computeReceiptDigest hash x v = computeReceiptDigest hash y v ↔
      message hash v x = message hash v y := by
    rw [computeReceiptDigest_eq hv hv', computeReceiptDigest_eq hv hv', Option.some_inj]
    exact hfree.eq_iff (List.mem_append_left _ (message_mem hash v x))
      (List.mem_append_right _ (message_mem hash v y))
  rw [hmessage]
  have hcore := reads_coreBytes x y
  have hbackend := reads_backendBytes hx hy
  have hmarker : ∀ n : UInt8, Reads [n] [n] True := fun n => reads_of_length rfl (by simp)
  interval_cases v
  · exact hcore.eq_iff
  · exact (((hcore.append (hmarker 2)).append hbackend).congr (by simp [SameBound])).eq_iff
  · have h := ((hcore.append (hmarker 3)).append hbackend).append (reads_seedBytes hx hy)
    exact (h.congr (by simp [SameBound, and_assoc])).eq_iff
  · exact (hcore.append (reads_productionBytes hx hy)).eq_iff
  · exact (((hmarker 5).append (reads_boundBytes hx hy)).congr (by simp [SameBound])).eq_iff
  · have h := ((hmarker 6).append (reads_boundBytes hx hy)).append (reads_lineageBytes x y)
    exact (h.congr (by simp [SameBound])).eq_iff
  · exact v7Message_eq_iff hx hy
  · have h7 : computeV7Digest hash x = computeV7Digest hash y ↔ SameV7 x y := by
      rw [← v7Message_eq_iff hx hy]
      exact hfree.eq_iff (by simp [messages]) (by simp [messages])
    refine (v8Message_eq_iff hash x y).trans ?_
    rw [h7]
    rfl

end Versions

end ReceiptDigestInput

open ReceiptDigestInput

variable {hash : List UInt8 → B3Hash} {x y : ReceiptDigestInput} {v w : Nat}

/-- A later digest determines an earlier one, except that version 4 dropped the backend fields of
versions 2 and 3, and that all versions from 4 on dropped the seed lineage of version 3. -/
theorem receiptDigest_monotone_iff (hv : 1 ≤ v) (hvw : v ≤ w) (hw : w ≤ 8)
    (hx : x.Short) (hy : y.Short)
    (hfree : CollisionFree hash (messages hash v x ++ messages hash v y))
    (hfree' : CollisionFree hash (messages hash w x ++ messages hash w y))
    (heq : computeReceiptDigest hash x w = computeReceiptDigest hash y w) :
    computeReceiptDigest hash x v = computeReceiptDigest hash y v ↔
      ((v = 2 ∨ v = 3) ∧ w = 4 → SameBackend x y) ∧ (v = 3 ∧ 4 ≤ w → SameSeed x y) := by
  rw [receiptDigest_eq_iff (by omega) hw hx hy hfree', sameBound_iff (by omega) hw] at heq
  grind [receiptDigest_eq_iff, sameBound_iff]

set_option maxRecDepth 4000

theorem receiptDigest_monotone_two_five : computeReceiptDigest digitHash (.new 1 2 3 4 0 4 5 5) 2 =
      computeReceiptDigest digitHash
        ((ReceiptDigestInput.new 1 2 3 4 0 4 5 5).withSeedLineage none (some "strict") none) 2 := by
  refine (receiptDigest_monotone_iff (w := 5) (by decide) (by decide) (by decide) (by decide)
    (by decide) (by decide) (by decide) (by decide)).mpr ?_
  simp

/-- The current version does not bind the seed mode that version 3 bound. -/
theorem seedMode_unbound : let x := ReceiptDigestInput.new 1 2 3 4 0 4 5 5
    let y := x.withSeedLineage none (some "strict") none
    CollisionFree digitHash (messages digitHash 3 x ++ messages digitHash 3 y ++
      messages digitHash 8 x ++ messages digitHash 8 y) ∧
      computeReceiptDigest digitHash x 8 = computeReceiptDigest digitHash y 8 ∧
      computeReceiptDigest digitHash x 3 ≠ computeReceiptDigest digitHash y 3 := by
  decide +kernel

end AdapterOS.Receipt
