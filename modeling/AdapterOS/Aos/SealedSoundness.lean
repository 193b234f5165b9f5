import AdapterOS.Aos.Sealed

/-! What a verified container vouches for. -/
namespace AdapterOS.Aos

open Library

variable {lib : SealLib} {bytes bytes' : List UInt8} {start stop n : Nat}

section Slices

theorem sliceOf_eq_some (h : start ≤ stop) (hstop : stop ≤ bytes.length) :
    sliceOf bytes start stop = some ((bytes.drop start).take (stop - start)) :=
  if_pos ⟨h, hstop⟩

theorem length_sliceOf {s : List UInt8} (h : sliceOf bytes start stop = some s) :
    s.length = stop - start := by
  unfold sliceOf at h
  split at h
  · rename_i hbounds
    cases h
    rw [List.length_take, List.length_drop]
    omega
  · cases h

theorem exists_arrayAt (h : start + n = stop) (hstop : stop ≤ bytes.length) :
    ∃ a, arrayAt n bytes start stop = some a := by
  have hslice := @sliceOf_eq_some bytes start stop (by omega) hstop
  have hlen : ((bytes.drop start).take (stop - start)).length = n := by
    rw [length_sliceOf hslice]
    omega
  refine ⟨⟨_, hlen⟩, ?_⟩
  rw [arrayAt, hslice, Option.bind_some, dif_pos hlen]

theorem exists_u64At (h : start + 8 = stop) (hstop : stop ≤ bytes.length) :
    ∃ x, u64At bytes start stop = some x := by
  obtain ⟨a, ha⟩ := exists_arrayAt h hstop
  exact ⟨_, by rw [u64At, ha, Option.map_some]⟩

variable {pre field rest : List UInt8}

theorem sliceOf_front (h : field.length = stop) : sliceOf (field ++ rest) 0 stop = some field := by
  subst h
  simp [sliceOf]

theorem sliceOf_skip (h : pre.length ≤ start) (hstop : start ≤ stop) :
    sliceOf (pre ++ rest) start stop = sliceOf rest (start - pre.length) (stop - pre.length) := by
  have hiff : (start ≤ stop ∧ stop ≤ (pre ++ rest).length) ↔
      start - pre.length ≤ stop - pre.length ∧ stop - pre.length ≤ rest.length := by
    rw [List.length_append]
    omega
  have hsize : stop - pre.length - (start - pre.length) = stop - start := by omega
  have hdrop : (pre ++ rest).drop start = rest.drop (start - pre.length) := by
    rw [List.drop_append, List.drop_eq_nil_of_le h, List.nil_append]
  simp only [sliceOf, hiff, hsize, hdrop]

theorem sliceOf_append (hstart : pre.length = start) (hstop : start + field.length = stop) :
    sliceOf (pre ++ (field ++ rest)) start stop = some field := by
  rw [sliceOf_skip (by omega) (by omega), hstart, Nat.sub_self, sliceOf_front (by omega)]

def bytesOf (field : List UInt8) (h : field.length = n) : Bytes n := ⟨field, h⟩

@[simp] theorem toList_bytesOf (h : field.length = n) : (bytesOf field h).toList = field := rfl

theorem arrayAt_front (h : field.length = n) : arrayAt n (field ++ rest) 0 n = bytesOf field h := by
  rw [arrayAt, sliceOf_front h, Option.bind_some, dif_pos h]
  rfl

theorem arrayAt_skip (h : pre.length ≤ start) (hstop : start ≤ stop) : arrayAt n (pre ++ rest)
    start stop = arrayAt n rest (start - pre.length) (stop - pre.length) := by
  rw [arrayAt, arrayAt, sliceOf_skip h hstop]

theorem u64At_front (x : UInt64) : u64At (le64 x ++ rest) 0 8 = some x := by
  have hread : ofLeBytes (le64 x) = x.toNat := ofLeBytes_leBytes x.toNat_lt
  rw [u64At, arrayAt_front (length_le64 x), Option.map_some, toList_bytesOf, hread,
    UInt64.ofNat_toNat]

theorem u64At_skip (h : pre.length ≤ start) (hstop : start ≤ stop) :
    u64At (pre ++ rest) start stop = u64At rest (start - pre.length) (stop - pre.length) := by
  rw [u64At, u64At, arrayAt_skip h hstop]

end Slices

section Header

theorem fromBytes_isSome (bytes : List UInt8) : (SealedContainerHeader.fromBytes bytes).isSome := by
  unfold SealedContainerHeader.fromBytes
  split
  · rfl
  · rename_i hlen
    have hsize : 144 ≤ bytes.length := Nat.not_lt.mp hlen
    obtain ⟨version, hversion⟩ : ∃ b, bytes[4]? = some b :=
      ⟨_, List.getElem?_eq_getElem (by omega)⟩
    obtain ⟨hash, hhash⟩ := @exists_arrayAt bytes 8 40 32 rfl (by omega)
    obtain ⟨payloadOffset, h₁⟩ := @exists_u64At bytes 40 48 rfl (by omega)
    obtain ⟨payloadSize, h₂⟩ := @exists_u64At bytes 48 56 rfl (by omega)
    obtain ⟨manifestOffset, h₃⟩ := @exists_u64At bytes 56 64 rfl (by omega)
    obtain ⟨manifestSize, h₄⟩ := @exists_u64At bytes 64 72 rfl (by omega)
    obtain ⟨signature, hsignature⟩ := @exists_arrayAt bytes 72 136 64 rfl (by omega)
    rw [sliceOf_eq_some (Nat.zero_le 4) (by omega)]
    simp only [Option.bind_eq_bind, Option.bind_some, hversion, hhash, h₁, h₂, h₃, h₄, hsignature]
    split
    · rfl
    · split <;> rfl

theorem of_fromBytes_ok {h : SealedContainerHeader}
    (hread : SealedContainerHeader.fromBytes bytes = some (.ok h)) :
    h.version = sealedContainerVersion ∧ u64At bytes 64 72 = some h.manifestSize := by
  unfold SealedContainerHeader.fromBytes at hread
  split at hread
  · cases hread
  · simp only [Option.bind_eq_bind, Option.bind_eq_some_iff] at hread
    obtain ⟨magic, _, hread⟩ := hread
    split at hread
    · cases hread
    · simp only [Option.bind_eq_some_iff] at hread
      obtain ⟨version, _, hread⟩ := hread
      split at hread
      · cases hread
      · rename_i hversion
        simp only [Option.bind_eq_some_iff] at hread
        obtain ⟨_, _, _, _, _, _, _, _, size, hsize, _, _, hread⟩ := hread
        cases hread
        exact ⟨not_not.mp hversion, hsize⟩

theorem length_sealedMagic : sealedMagic.length = 4 := by decide

theorem length_toBytes (h : SealedContainerHeader) : h.toBytes.length = 144 := by
  simp [SealedContainerHeader.toBytes, length_sealedMagic]

theorem fromBytes_toBytes (h : SealedContainerHeader) (hversion : h.version = sealedContainerVersion)
    (rest : List UInt8) :
    SealedContainerHeader.fromBytes (h.toBytes ++ rest) = some (.ok h) := by
  have hlen : ¬ (h.toBytes ++ rest).length < sealedHeaderSize := by
    rw [List.length_append, length_toBytes, sealedHeaderSize]
    omega
  have hbyte : (h.toBytes ++ rest)[4]? = some h.version := rfl
  rw [SealedContainerHeader.fromBytes, if_neg hlen, hbyte]
  simp only [SealedContainerHeader.toBytes, List.append_assoc]
  simp (disch := simp [length_sealedMagic]) only [sliceOf_front, arrayAt_skip, arrayAt_front, u64At_skip, u64At_front,
    length_sealedMagic, List.length_singleton, List.length_replicate, B3Hash.length_asBytes,
    length_le64, Nat.reduceSub]
  simp only [Option.bind_eq_bind, Option.bind_some, ne_eq, not_true_eq_false, if_false, hversion,
    toList_bytesOf, B3Hash.ofBytes_asBytes]
  rw [← hversion]
  rfl

end Header

section Loader

variable {trusted : List (Bytes 32)} {v v' : VerifiedAdapter}

theorem le_saturatingAdd64 {a b : Nat} (ha : a < 2 ^ 64) : a ≤ saturatingAdd64 a b := by
  unfold saturatingAdd64
  omega

theorem loadFromBytes_isSome (lib : SealLib) (trusted : List (Bytes 32)) (bytes : List UInt8) :
    (loadFromBytes lib trusted bytes).isSome := by
  obtain ⟨read, hread⟩ := Option.isSome_iff_exists.mp (fromBytes_isSome bytes)
  simp only [loadFromBytes, hread, Option.bind_eq_bind, Option.bind_some]
  cases read with
  | error e => rfl
  | ok h =>
    dsimp only
    split
    · rfl
    · rename_i hbounds
      simp only [gt_iff_lt, not_or, not_lt] at hbounds
      rw [sliceOf_eq_some (le_saturatingAdd64 h.payloadOffset.toNat_lt) hbounds.1, Option.bind_some,
        sliceOf_eq_some (le_saturatingAdd64 h.manifestOffset.toNat_lt) hbounds.2]
      rfl

theorem checkContents_verified {h : SealedContainerHeader} {manifest payload : List UInt8}
    (hv : checkContents lib trusted h manifest payload = .verified v) :
    v.integrityHash = computeIntegrityHash lib h.version manifest payload ∧
      v.bundle.configData = manifest ∧ v.bundle.weightsData = payload ∧
      lib.parseMetadata manifest = .ok v.bundle.metadata := by
  unfold checkContents at hv
  dsimp only at hv
  split at hv
  · cases hv
  · split at hv
    · cases hv
    · split at hv
      · cases hv
      · rename_i hparse
        cases hv
        exact ⟨rfl, rfl, rfl, hparse⟩

def VerifiedAdapter.message (v : VerifiedAdapter) : List UInt8 :=
  integrityMessage sealedContainerVersion v.bundle.configData v.bundle.weightsData

/-- What a verified adapter owes to the bytes it was loaded from. The size of a byte string is that
of an object in memory, so that no sum of the header saturates. -/
theorem of_verified (hsize : bytes.length < 2 ^ 63)
    (hv : loadFromBytes lib trusted bytes = some (.verified v)) :
    v.integrityHash = lib.hash v.message ∧
      lib.parseMetadata v.bundle.configData = .ok v.bundle.metadata ∧
      ∃ size : UInt64, u64At bytes 64 72 = some size ∧ v.bundle.configData.length = size.toNat := by
  simp only [loadFromBytes, Option.bind_eq_bind, Option.bind_eq_some_iff] at hv
  obtain ⟨read, hread, hv⟩ := hv
  cases read with
  | error e => cases hv
  | ok h =>
    obtain ⟨hversion, hfield⟩ := of_fromBytes_ok hread
    dsimp only at hv
    split at hv
    · cases hv
    · rename_i hbounds
      simp only [gt_iff_lt, not_or, not_lt] at hbounds
      simp only [Option.bind_eq_some_iff] at hv
      obtain ⟨payload, _, manifest, hmanifest, hv⟩ := hv
      obtain ⟨hhash, hconfig, hweights, hparse⟩ :=
        checkContents_verified (Option.some.inj hv)
      have hend : saturatingAdd64 h.manifestOffset.toNat h.manifestSize.toNat =
          h.manifestOffset.toNat + h.manifestSize.toNat := by
        have hle := hbounds.2
        unfold saturatingAdd64 at hle ⊢
        omega
      rw [hend] at hmanifest
      refine ⟨?_, hconfig ▸ hparse, h.manifestSize, hfield, ?_⟩
      · rw [hhash, hversion, VerifiedAdapter.message, hconfig, hweights]
        rfl
      · rw [hconfig, length_sliceOf hmanifest, Nat.add_sub_cancel_left]

/-- The loader never panics. Two byte strings that it verifies with one integrity hash agree on
metadata and weights exactly if their headers give the manifest one size. -/
theorem loader_sound_iff (lib : SealLib) (trusted : List (Bytes 32)) :
    (∀ bytes, (loadFromBytes lib trusted bytes).isSome) ∧
      ∀ bytes bytes' v v', bytes.length < 2 ^ 63 → bytes'.length < 2 ^ 63 →
        loadFromBytes lib trusted bytes = some (.verified v) →
        loadFromBytes lib trusted bytes' = some (.verified v') →
        CollisionFree lib.hash [v.message, v'.message] →
        v.integrityHash = v'.integrityHash →
        (v.bundle.metadata = v'.bundle.metadata ∧ v.bundle.weightsData = v'.bundle.weightsData ↔
          u64At bytes 64 72 = u64At bytes' 64 72) := by
  refine ⟨loadFromBytes_isSome lib trusted, ?_⟩
  intro bytes bytes' v v' hsize hsize' hv hv' hfree hsame
  obtain ⟨hhash, hparse, size, hfield, hlen⟩ := of_verified hsize hv
  obtain ⟨hhash', hparse', size', hfield', hlen'⟩ := of_verified hsize' hv'
  have hmessage : v.message = v'.message := by
    refine (hfree.eq_iff (by simp) (by simp)).mp ?_
    rw [← hhash, ← hhash', hsame]
  have hconcat : v.bundle.configData ++ v.bundle.weightsData =
      v'.bundle.configData ++ v'.bundle.weightsData := by
    simpa [VerifiedAdapter.message, integrityMessage] using hmessage
  rw [hfield, hfield', Option.some_inj, ← UInt64.toNat_inj, ← hlen, ← hlen']
  constructor
  · rintro ⟨_, hweights⟩
    have htotal := congrArg List.length hconcat
    rw [List.length_append, List.length_append, hweights] at htotal
    exact Nat.add_right_cancel htotal
  · intro hconfig
    obtain ⟨hmanifest, hweights⟩ := List.append_inj hconcat hconfig
    rw [hmanifest] at hparse
    exact ⟨Except.ok.inj (hparse.symm.trans hparse'), hweights⟩

end Loader

section Container

variable {trusted : List (Bytes 32)} {c c' : SealedAdapterContainer}

theorem payload_verify_iff {p : AdapterPayload} : p.verify lib = .ok () ↔
    p.weightsHash = lib.hash p.weightsData ∧ p.configHash = lib.hash p.configData := by
  unfold AdapterPayload.verify
  constructor
  · intro h
    split at h
    · cases h
    · split at h
      · cases h
      · rename_i hweights hconfig
        exact ⟨(not_not.mp hweights).symm, (not_not.mp hconfig).symm⟩
  · rintro ⟨hweights, hconfig⟩
    rw [if_neg (not_not.mpr hweights.symm), if_neg (not_not.mpr hconfig.symm)]

theorem payloadHash_of_verify (h : c.verify lib trusted = .ok ()) :
    lib.hash c.payload.message = c.manifest.payloadHash := by
  unfold SealedAdapterContainer.verify at h
  split at h
  · cases h
  · split at h
    · cases h
    · rename_i hpayload
      exact not_not.mp hpayload

theorem payload_eq_of_message {p q : AdapterPayload} (h : p.message = q.message)
    (hlen : p.weightsData.length = q.weightsData.length) : p = q := by
  simp only [AdapterPayload.message, List.append_assoc] at h
  obtain ⟨hweightsHash, h⟩ := List.append_inj h (by simp)
  obtain ⟨hweights, h⟩ := List.append_inj h hlen
  obtain ⟨hconfigHash, hconfig⟩ := List.append_inj h (by simp)
  cases p
  cases q
  simp only [B3Hash.asBytes_inj] at hweightsHash hweights hconfigHash hconfig
  rw [hweightsHash, hweights, hconfigHash, hconfig]

/-- Two verified containers with one signed manifest carry the same data under the right hashes
exactly if their weights have one length and the payload passes its own check. -/
theorem sealedContainer_sound_iff (hc : c.verify lib trusted = .ok ())
    (hc' : c'.verify lib trusted = .ok ()) (hmanifest : c.manifest = c'.manifest)
    (hfree : CollisionFree lib.hash [c.payload.message, c'.payload.message]) :
    ((c.payload.weightsData = c'.payload.weightsData ∧
        c.payload.configData = c'.payload.configData) ∧
      (c.payload.weightsHash = lib.hash c.payload.weightsData ∧
        c.payload.configHash = lib.hash c.payload.configData) ∧
      c'.payload.weightsHash = lib.hash c'.payload.weightsData ∧
        c'.payload.configHash = lib.hash c'.payload.configData) ↔
      c.payload.weightsData.length = c'.payload.weightsData.length ∧
        c.payload.verify lib = .ok () := by
  have hmessage : c.payload.message = c'.payload.message := by
    refine (hfree.eq_iff (by simp) (by simp)).mp ?_
    rw [payloadHash_of_verify hc, payloadHash_of_verify hc', hmanifest]
  rw [payload_verify_iff]
  constructor
  · rintro ⟨⟨hweights, _⟩, hinner, _⟩
    exact ⟨congrArg List.length hweights, hinner⟩
  · rintro ⟨hlen, hinner⟩
    have hsame := payload_eq_of_message hmessage hlen
    rw [← hsame]
    exact ⟨⟨rfl, rfl⟩, hinner, hinner⟩

end Container

section Binary

variable {trusted : List (Bytes 32)} {bundle : AdapterBundle} {key : lib.SigningKey} {now : String}

theorem sum_length_le_intercalate (sep : List UInt8) (parts : List (List UInt8)) :
    (parts.map List.length).sum ≤ (sep.intercalate parts).length := by
  induction parts with
  | nil => simp
  | cons part parts ih =>
    cases parts with
    | nil => simp [List.intercalate]
    | cons next parts =>
      rw [List.intercalate_cons_cons, List.map_cons, List.sum_cons, List.length_append,
        List.length_append]
      omega

theorem lt_length_toJson (m : AdapterMetadata) : 128 < (m.toJson lib).length := by
  have hfields := sum_length_le_intercalate (utf8 ",") (m.jsonFields lib)
  have hkeys : ((["name", "description", "version", "author", "license", "tier", "languages",
      "frameworks", "lora_rank", "lora_alpha", "trained_at", "dataset_hash", "tags"].map
      fun k => (utf8 ("\"" ++ k ++ "\":")).length).sum) = 142 := by decide
  simp only [AdapterMetadata.jsonFields, jsonField, List.map_append, List.sum_append,
    List.map_cons, List.map_nil, List.sum_cons, List.sum_nil, List.length_append] at hfields hkeys
  simp only [AdapterMetadata.toJson, AdapterMetadata.jsonFields, jsonField, List.length_append]
  omega

theorem length_containerMessage (version : UInt8) (manifest : SignedManifest)
    (payload : AdapterPayload) :
    (SealedAdapterContainer.containerMessage lib version manifest payload).length = 129 := by
  simp [SealedAdapterContainer.containerMessage]

theorem saturatingAdd64_eq {a b : Nat} (h : a + b < 2 ^ 64) : saturatingAdd64 a b = a + b := by
  unfold saturatingAdd64
  omega

theorem loadFromBytes_append {h : SealedContainerHeader} {manifest payload : List UInt8}
    (hversion : h.version = sealedContainerVersion)
    (hsize : 144 + manifest.length + payload.length < 2 ^ 64)
    (hmanifestOffset : h.manifestOffset.toNat = 144)
    (hmanifestSize : h.manifestSize.toNat = manifest.length)
    (hpayloadOffset : h.payloadOffset.toNat = 144 + manifest.length)
    (hpayloadSize : h.payloadSize.toNat = payload.length) :
    loadFromBytes lib trusted (h.toBytes ++ (manifest ++ payload)) =
      some (checkContents lib trusted h manifest payload) := by
  have hlen : (h.toBytes ++ (manifest ++ payload)).length =
      144 + manifest.length + payload.length := by
    rw [List.length_append, List.length_append, length_toBytes, Nat.add_assoc]
  have hmanifest : sliceOf (h.toBytes ++ (manifest ++ payload)) 144 (144 + manifest.length) =
      some manifest :=
    sliceOf_append (length_toBytes h) rfl
  have hpayload : sliceOf (h.toBytes ++ (manifest ++ payload)) (144 + manifest.length)
      (144 + manifest.length + payload.length) = some payload := by
    have he : h.toBytes ++ (manifest ++ payload) =
        (h.toBytes ++ manifest) ++ (payload ++ []) := by simp
    rw [he]
    exact sliceOf_append (by rw [List.length_append, length_toBytes]) rfl
  have hpayloadEnd := @saturatingAdd64_eq (144 + manifest.length) payload.length hsize
  have hmanifestEnd := @saturatingAdd64_eq 144 manifest.length (by omega)
  have hbounds : ¬ (144 + manifest.length + payload.length >
      (h.toBytes ++ (manifest ++ payload)).length ∨
      144 + manifest.length > (h.toBytes ++ (manifest ++ payload)).length) := by
    rw [hlen]
    omega
  simp only [loadFromBytes, fromBytes_toBytes h hversion, Option.bind_eq_bind, Option.bind_some,
    hmanifestOffset, hmanifestSize, hpayloadOffset, hpayloadSize, hpayloadEnd, hmanifestEnd,
    if_neg hbounds, hmanifest, hpayload]
  rfl

theorem load_writeBinary (c : SealedAdapterContainer)
    (hversion : c.version = sealedContainerVersion)
    (hsize : (c.writeBinary lib).length < 2 ^ 64) :
    ∃ h : SealedContainerHeader, h.version = sealedContainerVersion ∧ h.integrityHash =
        SealedAdapterContainer.computeContainerHash lib c.version c.manifest c.payload ∧
      loadFromBytes lib trusted (c.writeBinary lib) =
        some (checkContents lib trusted h (c.manifest.metadata.toJson lib)
          c.payload.weightsData) := by
  simp only [SealedAdapterContainer.writeBinary, List.append_assoc] at hsize ⊢
  rw [List.length_append, List.length_append, length_toBytes] at hsize
  have hmanifestSize : (UInt64.ofNat (c.manifest.metadata.toJson lib).length).toNat =
      (c.manifest.metadata.toJson lib).length :=
    UInt64.toNat_ofNat_of_lt' (show _ < 2 ^ 64 by omega)
  have hpayloadSize : (UInt64.ofNat c.payload.weightsData.length).toNat =
      c.payload.weightsData.length :=
    UInt64.toNat_ofNat_of_lt' (show _ < 2 ^ 64 by omega)
  have hmanifestOffset : (UInt64.ofNat sealedHeaderSize).toNat = 144 := rfl
  refine ⟨_, ?_, ?_, loadFromBytes_append ?_ (by omega) hmanifestOffset hmanifestSize ?_
    hpayloadSize⟩
  · exact hversion
  · rfl
  · exact hversion
  · rw [UInt64.toNat_add, hmanifestOffset, hmanifestSize]
    exact Nat.mod_eq_of_lt (by omega)

/-- The verified adapter is the bundle that was sealed. -/
def LoadsBack (lib : SealLib) (trusted : List (Bytes 32)) (bundle : AdapterBundle)
    (bytes : List UInt8) : Prop :=
  ∃ v, loadFromBytes lib trusted bytes = some (.verified v) ∧
    v.bundle.adapterId = bundle.adapterId ∧ v.bundle.baseModelHash = bundle.baseModelHash ∧
    v.bundle.metadata = bundle.metadata ∧ v.bundle.weightsData = bundle.weightsData ∧
    v.bundle.configData = bundle.configData

/-- No bundle is loaded back from its own binary container, whichever keys are trusted. -/
theorem sealed_binary_rejected (hsize : ((SealedAdapterContainer.sealBundle lib bundle key
      now).writeBinary lib).length < 2 ^ 64)
    (hfree : CollisionFree lib.hash
      [SealedAdapterContainer.containerMessage lib sealedContainerVersion
        (SealedAdapterContainer.sealBundle lib bundle key now).manifest
        (SealedAdapterContainer.sealBundle lib bundle key now).payload,
      integrityMessage sealedContainerVersion (bundle.metadata.toJson lib) bundle.weightsData]) :
    ¬ LoadsBack lib trusted bundle
      ((SealedAdapterContainer.sealBundle lib bundle key now).writeBinary lib) := by
  rintro ⟨v, hv, _⟩
  obtain ⟨h, hversion, hdeclared, hload⟩ :=
    @load_writeBinary lib trusted (SealedAdapterContainer.sealBundle lib bundle key now) rfl hsize
  rw [hload, Option.some_inj] at hv
  have hsame : lib.hash (SealedAdapterContainer.containerMessage lib sealedContainerVersion
        (SealedAdapterContainer.sealBundle lib bundle key now).manifest
        (SealedAdapterContainer.sealBundle lib bundle key now).payload) =
      lib.hash (integrityMessage sealedContainerVersion (bundle.metadata.toJson lib)
        bundle.weightsData) := by
    by_contra hne
    have hmismatch : computeIntegrityHash lib h.version (bundle.metadata.toJson lib)
        bundle.weightsData ≠ h.integrityHash := by
      rw [hversion, hdeclared]
      exact fun he => hne he.symm
    unfold checkContents at hv
    dsimp only at hv
    split at hv
    · cases hv
    · rename_i heq
      exact heq hmismatch
  -- The two messages have different lengths, so the hashes cannot agree.
  have hmessage := congrArg List.length ((hfree.eq_iff (by simp) (by simp)).mp hsame)
  rw [length_containerMessage] at hmessage
  have hjson := @lt_length_toJson lib bundle.metadata
  simp only [integrityMessage, List.length_append, List.length_singleton] at hmessage
  omega

/-- A bundle comes back out of its container exactly if the key it was sealed with is trusted. -/
theorem unsealBundle_sealBundle_iff :
    (SealedAdapterContainer.sealBundle lib bundle key now).unsealBundle lib trusted = .ok bundle ↔
      lib.verifyingKey key ∈ trusted := by
  have hverify : ∀ c, c = SealedAdapterContainer.sealBundle lib bundle key now →
      c.verify lib trusted = c.manifest.verify lib trusted := by
    rintro _ rfl
    simp [SealedAdapterContainer.verify, SealedAdapterContainer.sealBundle, SignedManifest.new]
  rw [SealedAdapterContainer.unsealBundle, hverify _ rfl, SignedManifest.verify]
  split_ifs with hany
  · obtain ⟨pubkey, hmem, hpubkey⟩ := List.any_eq_true.mp hany
    obtain rfl := of_decide_eq_true (Bool.and_eq_true_iff.mp hpubkey).2
    exact iff_of_true rfl hmem
  · refine iff_of_false (by rintro ⟨⟩) fun h => hany (List.any_eq_true.mpr ⟨_, h, ?_⟩)
    exact Bool.and_eq_true_iff.mpr ⟨lib.verify_sign key _, decide_eq_true rfl⟩

end Binary

section Runs

set_option maxRecDepth 4000

def paddedSignature (key : Bytes 32) (message : List UInt8) : Bytes 64 :=
  ⟨(message ++ key.toList ++ List.replicate 64 0).take 64, by
    rw [List.length_take, List.length_append, List.length_replicate]
    omega⟩

/-- The metadata with default fields, as `{}` followed by white space. -/
def parseEmptyObject (bytes : List UInt8) : Except String AdapterMetadata :=
  let isSpace := fun b : UInt8 => b = 0x20 || b = 0x09 || b = 0x0a || b = 0x0d
  if (bytes.reverse.dropWhile isSpace).reverse = utf8 "\x7b\x7d" then .ok {}
  else .error "expected an empty object"

def digitSealLib : SealLib where
  hash := digitHash
  SigningKey := Bytes 32
  verifyingKey := id
  sign := paddedSignature
  verify key message signature := signature = paddedSignature key message
  verify_sign _ _ := by simp
  formatF32 _ := "1.0"
  parseMetadata := parseEmptyObject

def smallKey : Bytes 32 := .replicate 32 7

def smallBundle : AdapterBundle :=
  .new digitSealLib "adapter" 5 { name := "adapter" } [1, 2, 3] [4, 5]

def smallContainer : SealedAdapterContainer :=
  .sealBundle digitSealLib smallBundle smallKey "2025-01-01T00:00:00+00:00"

def shiftedContainer : SealedAdapterContainer :=
  let hash := B3Hash.asBytes smallBundle.configHash
  { smallContainer with
    payload := ⟨smallBundle.weightsHash, [1, 2, 3] ++ hash.take 1,
      .ofBytes (hash.drop 1 ++ [4]), [5]⟩ }

/-- The file with an empty manifest and the given bytes behind it, whose header gives the manifest
the given size. -/
def spacedFile (manifestSize payloadSize : Nat) : List UInt8 :=
  let contents := utf8 "\x7b\x7d" ++ [0x20, 0x77]
  let hash := digitHash ([sealedContainerVersion] ++ contents)
  let header : SealedContainerHeader := {
    version := sealedContainerVersion
    integrityHash := hash
    payloadOffset := .ofNat (144 + manifestSize)
    payloadSize := .ofNat payloadSize
    manifestOffset := 144
    manifestSize := .ofNat manifestSize
    signature := paddedSignature smallKey (B3Hash.asBytes hash) }
  header.toBytes ++ contents

def spacedAdapter (manifest payload : List UInt8) : VerifiedAdapter :=
  ⟨⟨"", 0, {}, digitHash payload, payload, digitHash manifest, manifest⟩,
    digitHash ([sealedContainerVersion] ++ (utf8 "\x7b\x7d" ++ [0x20, 0x77])), smallKey, true⟩

theorem smallBundle_rejected :
    ¬ LoadsBack digitSealLib [smallKey] smallBundle (smallContainer.writeBinary digitSealLib) :=
  sealed_binary_rejected (by decide) (by decide)

def rejectionOf : Option LoadResult → Option RejectionReason
  | some (.rejected reason _ _ _) => some reason
  | _ => none

/-- The file counts as tampered with. -/
theorem smallBundle_not_loaded : rejectionOf (loadFromBytes digitSealLib [smallKey]
        (smallContainer.writeBinary digitSealLib)) = some .integrityMismatch ∧
      ¬ LoadsBack digitSealLib [smallKey] smallBundle
        (smallContainer.writeBinary digitSealLib) := by
  have hrejected : rejectionOf (loadFromBytes digitSealLib [smallKey]
      (smallContainer.writeBinary digitSealLib)) = some .integrityMismatch := by decide
  refine ⟨hrejected, ?_⟩
  rintro ⟨v, hv, _⟩
  rw [hv] at hrejected
  cases hrejected

theorem smallContainer_sound : smallContainer.verify digitSealLib [smallKey] = .ok () ∧
      smallContainer.payload.weightsHash = digitHash smallContainer.payload.weightsData ∧
      smallContainer.payload.configHash = digitHash smallContainer.payload.configData := by
  have hverify : smallContainer.verify digitSealLib [smallKey] = .ok () := by decide
  have hpayload : smallContainer.payload.verify digitSealLib = .ok () := by decide
  have hfree : CollisionFree digitHash
      [smallContainer.payload.message, smallContainer.payload.message] := by decide
  exact ⟨hverify, ((sealedContainer_sound_iff hverify hverify rfl hfree).mpr ⟨rfl, hpayload⟩).2.1⟩

theorem shiftedContainer_verifies : smallContainer.verify digitSealLib [smallKey] = .ok () ∧
      shiftedContainer.verify digitSealLib [smallKey] = .ok () ∧
      shiftedContainer.manifest = smallContainer.manifest ∧
      shiftedContainer.payload.message = smallContainer.payload.message ∧
      shiftedContainer.payload.weightsData ≠ smallContainer.payload.weightsData ∧
      shiftedContainer.payload.configData ≠ smallContainer.payload.configData ∧
      shiftedContainer.payload.weightsHash ≠ digitHash shiftedContainer.payload.weightsData := by
  decide

theorem spacedFile_agrees :
    ∃ v v', loadFromBytes digitSealLib [smallKey] (spacedFile 2 2) = some (.verified v) ∧
      loadFromBytes digitSealLib [smallKey] (spacedFile 2 2 ++ [9]) = some (.verified v') ∧
      v.bundle.metadata = v'.bundle.metadata ∧ v.bundle.weightsData = v'.bundle.weightsData := by
  have hload : loadFromBytes digitSealLib [smallKey] (spacedFile 2 2) =
      some (.verified (spacedAdapter (utf8 "\x7b\x7d") [0x20, 0x77])) := by decide
  have hload' : loadFromBytes digitSealLib [smallKey] (spacedFile 2 2 ++ [9]) =
      some (.verified (spacedAdapter (utf8 "\x7b\x7d") [0x20, 0x77])) := by decide
  refine ⟨_, _, hload, hload', ?_⟩
  exact ((loader_sound_iff digitSealLib [smallKey]).2 _ _ _ _ (by decide)
    (by decide) hload hload' (by decide) rfl).mpr (by decide)

theorem spacedFile_weights_differ : loadFromBytes digitSealLib [smallKey] (spacedFile 2 2) =
        some (.verified (spacedAdapter (utf8 "\x7b\x7d") [0x20, 0x77])) ∧
      loadFromBytes digitSealLib [smallKey] (spacedFile 3 1) =
        some (.verified (spacedAdapter (utf8 "\x7b\x7d" ++ [0x20]) [0x77])) ∧
      (spacedAdapter (utf8 "\x7b\x7d") [0x20, 0x77]).integrityHash =
        (spacedAdapter (utf8 "\x7b\x7d" ++ [0x20]) [0x77]).integrityHash ∧
      (spacedAdapter (utf8 "\x7b\x7d") [0x20, 0x77]).bundle.weightsData ≠
        (spacedAdapter (utf8 "\x7b\x7d" ++ [0x20]) [0x77]).bundle.weightsData := by
  decide

end Runs

end AdapterOS.Aos
