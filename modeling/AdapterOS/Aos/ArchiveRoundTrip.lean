import AdapterOS.Aos.Archive
import AdapterOS.Aos.SealedSoundness

/-! What the archive writer writes is read back. -/
namespace AdapterOS.Aos

open Library Library.Checked

variable {hash : List UInt8 → B3Hash} {bytes pre rest : List UInt8} {start stop : Nat}
  {s : PendingSegment} {segments : List PendingSegment} {scopeHash : Bytes 16}

section Fields

theorem u32At_front (x : UInt32) : u32At (le32 x ++ rest) 0 4 = some x := by
  have hread : ofLeBytes (le32 x) = x.toNat := ofLeBytes_leBytes x.toNat_lt
  rw [u32At, arrayAt_front (length_le32 x), Option.map_some, toList_bytesOf, hread,
    UInt32.ofNat_toNat]

theorem u32At_skip (h : pre.length ≤ start) (hstop : start ≤ stop) :
    u32At (pre ++ rest) start stop = u32At rest (start - pre.length) (stop - pre.length) := by
  rw [u32At, u32At, arrayAt_skip h hstop]

theorem u16At_skip_front (h : pre.length = start) (hstop : start + 2 = stop) (x : UInt16) :
    u16At (pre ++ (leBytes 2 x.toNat ++ rest)) start stop = some x := by
  subst h
  subst hstop
  rw [u16At, arrayAt_skip le_rfl (Nat.le_add_right _ 2), Nat.sub_self, Nat.add_sub_cancel_left,
    arrayAt_front (length_leBytes 2 _), Option.map_some, toList_bytesOf,
    ofLeBytes_leBytes x.toNat_lt, UInt16.ofNat_toNat]

theorem length_aosMagic : aosMagic.length = 4 := by decide

theorem length_headerBytes (indexSize manifestOffset manifestSize : Nat) :
    (headerBytes indexSize manifestOffset manifestSize).length = headerSize := by
  simp [headerBytes, headerSize, length_aosMagic]

theorem length_indexEntry (offset : Nat) (h : B3Hash) :
    (indexEntry s offset scopeHash h).length = indexEntrySize := by
  simp [indexEntry, indexEntrySize]

theorem tryFrom_asU16 (tag : BackendTag) : BackendTag.tryFrom tag.asU16 = .ok tag := by
  cases tag <;> rfl

theorem toNat_ofNat (h : stop < 2 ^ 64) : (UInt64.ofNat stop).toNat = stop :=
  UInt64.toNat_ofNat_of_lt' h

theorem parseHeaderBytes_headerBytes (indexSize manifestOffset manifestSize : Nat)
    (rest : List UInt8) :
    parseHeaderBytes (headerBytes indexSize manifestOffset manifestSize ++ rest) =
      pure ⟨hasIndexFlag, .ofNat headerSize, .ofNat indexSize, .ofNat manifestOffset,
        .ofNat manifestSize⟩ := by
  have hlen : ¬ (headerBytes indexSize manifestOffset manifestSize ++ rest).length < headerSize := by
    rw [List.length_append, length_headerBytes]
    omega
  rw [parseHeaderBytes, refuse_eq_pure hlen, pure_bind]
  simp only [headerBytes, List.append_assoc]
  simp (disch := simp [length_aosMagic, headerSize]) only [sliceOf_front, sliceOf_skip, u32At_skip,
    u32At_front, u64At_skip, u64At_front, length_aosMagic, length_le32, length_le64, headerSize,
    Nat.reduceSub, orPanic_some, pure_bind, refuse_eq_pure]
  rfl

theorem parseEntry_indexEntry {indexEnd manifestOffset offset : Nat}
    (hfits : offset + s.payload.length < 2 ^ 64) (hindex : indexEnd ≤ offset)
    (hmanifest : offset + s.payload.length ≤ manifestOffset)
    (hinside : offset + s.payload.length ≤ bytes.length)
    (hpayload : sliceOf bytes offset (offset + s.payload.length) = some s.payload) :
    parseEntry hash bytes indexEnd manifestOffset (indexEntry s offset scopeHash (hash s.payload)) =
      pure ⟨s.segmentId, s.backendTag, scopeHash, hash s.payload, offset, s.payload.length⟩ := by
  have hscope : ∀ h, bytesOf scopeHash.toList h = scopeHash := fun _ => rfl
  simp only [indexEntry, parseEntry, List.append_assoc]
  simp (disch := simp) only [u32At_front, u16At_skip_front, u64At_skip, u64At_front, arrayAt_skip,
    arrayAt_front, length_le32, length_le64, length_leBytes, List.length_replicate,
    List.Vector.toList_length, Nat.reduceSub, orPanic_some, pure_bind, tryFrom_asU16, orThrow_ok,
    toList_bytesOf, B3Hash.ofBytes_asBytes, hscope, toNat_ofNat (show offset < 2 ^ 64 by omega),
    toNat_ofNat (show s.payload.length < 2 ^ 64 by omega), checkedAdd_eq_pure hfits]
  rw [refuse_eq_pure (Nat.not_lt.mpr hindex), pure_bind, refuse_eq_pure (Nat.not_lt.mpr hmanifest),
    pure_bind, refuse_eq_pure (Nat.not_lt.mpr hinside), pure_bind, hpayload, orPanic_some, pure_bind,
    refuse_eq_pure (not_not.mpr rfl), pure_bind]

end Fields

section Layout

def placed (start : Nat) : List PendingSegment → List (PendingSegment × Nat)
  | [] => []
  | s :: segments => (s, start) :: placed (start + s.payload.length) segments

@[simp] theorem map_fst_placed (start : Nat) (segments : List PendingSegment) :
    (placed start segments).map Prod.fst = segments := by
  induction segments generalizing start with
  | nil => rfl
  | cons s segments ih => rw [placed, List.map_cons, ih]

theorem payload_of_placed {offset : Nat} (h : (s, offset) ∈ placed start segments) :
    ∃ before after, segments.flatMap (·.payload) = before ++ (s.payload ++ after) ∧
      start + before.length = offset := by
  induction segments generalizing start with
  | nil => cases h
  | cons s' segments ih =>
    rcases List.mem_cons.mp h with h | h
    · cases h
      exact ⟨[], segments.flatMap (·.payload), rfl, rfl⟩
    all_goals grind

theorem writeIndex_eq_pure {index : Nat × List UInt8}
    (h : writeIndex hash scopeHash start segments = pure index) :
    index = (start + (segments.flatMap (·.payload)).length,
      (placed start segments).flatMap fun p => indexEntry p.1 p.2 scopeHash (hash p.1.payload)) := by
  induction segments generalizing start index with
  | nil => exact (pure_inj.mp h).symm
  | cons s segments ih =>
    obtain ⟨next, hnext, h⟩ := bind_eq_pure_iff.mp h
    obtain ⟨_, _, h⟩ := bind_eq_pure_iff.mp h
    obtain ⟨_, _, h⟩ := bind_eq_pure_iff.mp h
    obtain ⟨last, hlast, hindex⟩ := bind_eq_pure_iff.mp h
    obtain rfl := (checkedAdd_eq_pure_iff.mp hnext).2
    rw [← pure_inj.mp hindex, ih hlast, placed, List.flatMap_cons, List.flatMap_cons,
      List.length_append, Nat.add_assoc]

theorem entryAt_flatten {entries : List (List UInt8)} {i : Nat} (hi : i < entries.length)
    (hlen : ∀ e ∈ entries, e.length = indexEntrySize)
    (hfits : entries.length * indexEntrySize < 2 ^ 64) :
    entryAt entries.flatten i = pure entries[i] := by
  have hsplit : entries.flatten =
      (entries.take i).flatten ++ (entries[i] ++ (entries.drop (i + 1)).flatten) := by
    rw [← List.flatten_cons, List.getElem_cons_drop, ← List.flatten_append, List.take_append_drop]
  have hbefore : (entries.take i).flatten.length = i * indexEntrySize := by
    rw [List.length_flatten, List.map_congr_left (g := fun _ => indexEntrySize)
      fun e he => hlen e (List.mem_of_mem_take he), List.map_const', List.sum_replicate_nat,
      List.length_take, Nat.min_eq_left hi.le]
  have hstop : i * indexEntrySize + indexEntrySize ≤ entries.length * indexEntrySize := by
    rw [← Nat.succ_mul]
    exact Nat.mul_le_mul_right _ hi
  rw [entryAt, word_eq_pure (by omega), pure_bind, word_eq_pure (by omega), pure_bind, hsplit,
    sliceOf_append hbefore (by rw [hlen _ (List.getElem_mem hi)]), orPanic_some]

end Layout

/-- What an archive holds. -/
structure Contents where
  scopeHash : Bytes 16
  segments : List PendingSegment
  json : List UInt8

namespace Contents

variable (hash) (a : Contents)

def indexSize : Nat := a.segments.length * indexEntrySize

def indexEnd : Nat := headerSize + a.indexSize

def payloads : List UInt8 := a.segments.flatMap (·.payload)

def manifestOffset : Nat := a.indexEnd + a.payloads.length

def located : List (PendingSegment × Nat) := placed a.indexEnd a.segments

def entries : List (List UInt8) :=
  a.located.map fun p => indexEntry p.1 p.2 a.scopeHash (hash p.1.payload)

def descriptors : List SegmentDescriptor := a.located.map fun p =>
  ⟨p.1.segmentId, p.1.backendTag, a.scopeHash, hash p.1.payload, p.2, p.1.payload.length⟩

def file : List UInt8 :=
  headerBytes a.indexSize a.manifestOffset a.json.length ++
    ((a.entries hash).flatten ++ (a.payloads ++ a.json))

def header : AosHeader :=
  ⟨hasIndexFlag, .ofNat headerSize, .ofNat a.indexSize, .ofNat a.manifestOffset,
    .ofNat a.json.length⟩

def view : AosFileView :=
  ⟨a.json, a.segments.map fun s => ⟨s.segmentId, s.backendTag, a.scopeHash, s.payload⟩⟩

variable {hash a}

theorem length_located : a.located.length = a.segments.length := by
  rw [located, ← List.length_map Prod.fst, map_fst_placed]

theorem length_of_mem_entries : ∀ e ∈ a.entries hash, e.length = indexEntrySize := by
  intro e he
  obtain ⟨p, _, rfl⟩ := List.mem_map.mp he
  exact length_indexEntry _ _

theorem length_index : (a.entries hash).flatten.length = a.indexSize := by
  rw [List.length_flatten, List.map_congr_left length_of_mem_entries, List.map_const',
    List.sum_replicate_nat, entries, List.length_map, length_located, indexSize]

theorem length_file : (a.file hash).length = a.manifestOffset + a.json.length := by
  simp only [file, List.length_append, length_headerBytes, length_index, manifestOffset, indexEnd]
  omega

theorem sliceOf_payload {p : PendingSegment × Nat} (hp : p ∈ a.located) : a.indexEnd ≤ p.2 ∧
    p.2 + p.1.payload.length ≤ a.manifestOffset ∧
    sliceOf (a.file hash) p.2 (p.2 + p.1.payload.length) = some p.1.payload := by
  obtain ⟨before, after, hsplit, hoffset⟩ := payload_of_placed hp
  have hsize := congrArg List.length hsplit
  rw [List.length_append, List.length_append] at hsize
  refine ⟨by omega, by rw [manifestOffset, payloads]; omega, ?_⟩
  grind [file, payloads, sliceOf_append, length_headerBytes, length_index, indexEnd]

theorem parseSegments_file (hfits : (a.file hash).length < 2 ^ 64) :
    parseSegments hash (a.file hash) a.header = pure (a.descriptors hash) := by
  have hlen := @length_file hash a
  have hmanifest : a.manifestOffset = headerSize + a.indexSize + a.payloads.length := rfl
  have hindex : sliceOf (a.file hash) headerSize (headerSize + a.indexSize) =
      some (a.entries hash).flatten :=
    sliceOf_append (length_headerBytes _ _ _) (by rw [length_index])
  have haligned : ¬ a.indexSize % indexEntrySize ≠ 0 := not_not.mpr (Nat.mul_mod_left _ _)
  have hflag : ¬ a.header.flags &&& hasIndexFlag = 0 :=
    show ¬ hasIndexFlag &&& hasIndexFlag = 0 by decide
  have hindexOffset : a.header.indexOffset.toNat = headerSize := toNat_ofNat (by decide)
  have hindexSize : a.header.indexSize.toNat = a.indexSize := toNat_ofNat (by omega)
  have hmanifestOffset : a.header.manifestOffset.toNat = a.manifestOffset := toNat_ofNat (by omega)
  have hmanifestSize : a.header.manifestSize.toNat = a.json.length := toNat_ofNat (by omega)
  rw [parseSegments, refuse_eq_pure hflag, pure_bind]
  simp only [hindexOffset, hindexSize, hmanifestOffset, hmanifestSize]
  rw [refuse_eq_pure (lt_irrefl _), pure_bind, checkedAdd_eq_pure (by omega), pure_bind, refuse_eq_pure (by omega), pure_bind,
    refuse_eq_pure haligned, pure_bind, checkedAdd_eq_pure (by omega), pure_bind,
    refuse_eq_pure (by omega), pure_bind, refuse_eq_pure (by omega), pure_bind, hindex,
    orPanic_some, pure_bind]
  have hcount : a.indexSize / indexEntrySize = a.located.length := by
    rw [length_located, indexSize, Nat.mul_div_cancel _ (by decide)]
  refine mapM_eq_pure (List.forall₂_iff_get.mpr ⟨?_, ?_⟩)
  · rw [List.length_range, hcount, descriptors, List.length_map]
  · intro i hi _
    rw [List.length_range, hcount] at hi
    have hentry : i < (a.entries hash).length := by rwa [entries, List.length_map]
    have hentries : (a.entries hash).length * indexEntrySize = a.indexSize := by
      rw [entries, List.length_map, length_located, indexSize]
    obtain ⟨hoffset, hend, hpayload⟩ := @sliceOf_payload hash a _ (List.getElem_mem hi)
    simp only [List.get_eq_getElem, List.getElem_range]
    rw [entryAt_flatten hentry length_of_mem_entries (by omega), pure_bind]
    simp only [entries, descriptors, List.getElem_map]
    exact parseEntry_indexEntry (by omega) hoffset hend (by omega) hpayload

theorem openAos_file (hfits : (a.file hash).length < 2 ^ 64) :
    openAos hash (a.file hash) = pure a.view := by
  have hlen := @length_file hash a
  have hviews : (a.descriptors hash).mapM (segmentView (a.file hash)) = pure a.view.segments := by
    have hsegments : a.view.segments = a.located.map fun p =>
        ⟨p.1.segmentId, p.1.backendTag, a.scopeHash, p.1.payload⟩ := by
      rw [view, ← map_fst_placed a.indexEnd a.segments, List.map_map]
      rfl
    rw [hsegments]
    refine mapM_eq_pure (List.forall₂_map_left_iff.mpr (List.forall₂_map_right_iff.mpr
      (List.forall₂_same.mpr fun p hp => ?_)))
    obtain ⟨_, hend, hpayload⟩ := @sliceOf_payload hash a p hp
    grind [segmentView, word_eq_pure, orPanic_some]
  have hmanifest : sliceOf (a.file hash) a.manifestOffset (a.manifestOffset + a.json.length) =
      some a.json := by
    have hfile : a.file hash = (headerBytes a.indexSize a.manifestOffset a.json.length ++
        ((a.entries hash).flatten ++ a.payloads)) ++ (a.json ++ []) := by
      simp only [file, List.append_assoc, List.append_nil]
    grind [sliceOf_append]
  have hheader : parseHeaderBytes (a.file hash) = pure a.header :=
    parseHeaderBytes_headerBytes _ _ _ _
  rw [openAos, hheader, pure_bind, parseSegments_file hfits, pure_bind, hviews, pure_bind, header]
  simp only [toNat_ofNat (show a.manifestOffset < 2 ^ 64 by omega),
    toNat_ofNat (show a.json.length < 2 ^ 64 by omega)]
  rw [word_eq_pure (by omega), pure_bind, hmanifest, orPanic_some, pure_bind]
  rfl

end Contents

/-- An archive that the writer writes opens to the segments as they were added, each with the scope
hash of the manifest, and to the bytes of the manifest. -/
theorem openAos_writeArchive {M : Type} (w : AosWriter) (env : ArchiveEnv M) (manifest : M)
    (size : Nat) (file : List UInt8) (h : w.writeArchive env manifest = pure (size, file)) :
    ∃ value scopePath json, env.toValue manifest = .ok value ∧
      scopePathOf value = .ok scopePath ∧ env.toVecPretty value = .ok json ∧ size = file.length ∧
      openAos env.hash file = pure ⟨json, w.segments.map fun s =>
        ⟨s.segmentId, s.backendTag, computeScopeHash env.hash scopePath, s.payload⟩⟩ := by
  obtain ⟨_, _, h⟩ := bind_eq_pure_iff.mp h
  obtain ⟨_, _, h⟩ := bind_eq_pure_iff.mp h
  obtain ⟨value, hvalue, h⟩ := bind_eq_pure_iff.mp h
  obtain ⟨scopePath, hscope, h⟩ := bind_eq_pure_iff.mp h
  obtain ⟨json, hjson, h⟩ := bind_eq_pure_iff.mp h
  obtain ⟨_, _, h⟩ := bind_eq_pure_iff.mp h
  obtain ⟨indexSize, hindexSize, h⟩ := bind_eq_pure_iff.mp h
  obtain ⟨_, _, h⟩ := bind_eq_pure_iff.mp h
  obtain ⟨_, _, h⟩ := bind_eq_pure_iff.mp h
  obtain ⟨current, hcurrent, h⟩ := bind_eq_pure_iff.mp h
  obtain ⟨index, hindex, h⟩ := bind_eq_pure_iff.mp h
  obtain ⟨total, htotal, h⟩ := bind_eq_pure_iff.mp h
  obtain ⟨_, _, hresult⟩ := bind_eq_pure_iff.mp h
  obtain ⟨rfl, rfl⟩ := Prod.mk.inj (pure_inj.mp hresult)
  obtain ⟨_, rfl⟩ := word_eq_pure_iff.mp hindexSize
  obtain ⟨_, rfl⟩ := word_eq_pure_iff.mp hcurrent
  obtain ⟨hfits, hsize⟩ := word_eq_pure_iff.mp htotal
  let a : Contents := ⟨computeScopeHash env.hash scopePath, w.segments, json⟩
  have hcontents : index = (a.manifestOffset, (a.entries env.hash).flatten) :=
    (writeIndex_eq_pure hindex).trans (by rw [List.flatMap_def]; rfl)
  have hwritten : headerBytes a.indexSize index.1 json.length ++ index.2 ++ a.payloads ++ json =
      a.file env.hash := by
    rw [hcontents, Contents.file, List.append_assoc, List.append_assoc]
  rw [hcontents] at hfits hsize
  have hlen := @Contents.length_file env.hash a
  refine ⟨value, scopePath, json, orThrow_eq_pure_iff.mp hvalue, orThrow_eq_pure_iff.mp hscope,
    orThrow_eq_pure_iff.mp hjson, ?_, ?_⟩
  · exact hsize.symm.trans (hlen.symm.trans (congrArg List.length hwritten.symm))
  · exact (congrArg (openAos env.hash) hwritten).trans (Contents.openAos_file (hlen ▸ hfits))

def smallEnv : ArchiveEnv Unit where
  hash := digitHash
  toValue _ := .ok (.object [("metadata", .object [("scope_path", .string "s")])])
  toVecPretty _ := .ok [9]
  checkDiskSpace _ := .ok ()
  store _ := .ok ()

def smallWriter : AosWriter :=
  let w := (AosWriter.addSegment {} digitHash .canonical none []).2
  (w.addSegment digitHash .mlx (some "s") [1, 2]).2

theorem openAos_smallWriter : ∃ size file,
    smallWriter.writeArchive smallEnv () = pure (size, file) ∧
      ∃ value scopePath json, smallEnv.toValue () = .ok value ∧
        scopePathOf value = .ok scopePath ∧ smallEnv.toVecPretty value = .ok json ∧
        size = file.length ∧
        openAos smallEnv.hash file = pure ⟨json, smallWriter.segments.map fun s =>
          ⟨s.segmentId, s.backendTag, computeScopeHash smallEnv.hash scopePath, s.payload⟩⟩ :=
  ⟨_, _, rfl, openAos_writeArchive smallWriter smallEnv () _ _ rfl⟩

end AdapterOS.Aos
