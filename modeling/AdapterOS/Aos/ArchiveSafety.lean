import AdapterOS.Aos.Archive
import AdapterOS.Aos.SealedSoundness
import AdapterOS.Library.ByteRange

/-! The archive parser on arbitrary bytes: it does not panic, and what it accepts is placed apart
from the header, the index and the manifest. -/
namespace AdapterOS.Aos

open Library Library.Checked

variable {hash : List UInt8 → B3Hash} {bytes entry : List UInt8} {header : AosHeader}
  {start stop n indexEnd manifestOffset : Nat}

def slice (bytes : List UInt8) (r : ByteRange) : List UInt8 := (bytes.drop r.offset).take r.size

def AosHeader.indexRange (h : AosHeader) : ByteRange := ⟨h.indexOffset.toNat, h.indexSize.toNat⟩

def AosHeader.manifestRange (h : AosHeader) : ByteRange :=
  ⟨h.manifestOffset.toNat, h.manifestSize.toNat⟩

def SegmentDescriptor.range (d : SegmentDescriptor) : ByteRange := ⟨d.offset, d.len⟩

/-- A segment of the archive, described by entry `i` of the index. -/
structure WellPlaced (hash : List UInt8 → B3Hash) (bytes : List UInt8) (header : AosHeader)
    (i : Nat) (d : SegmentDescriptor) : Prop where
  inside : d.range.stop ≤ bytes.length
  apart_header : d.range.Disjoint ⟨0, headerSize⟩
  apart_index : d.range.Disjoint header.indexRange
  apart_manifest : d.range.Disjoint header.manifestRange
  hash_eq : hash (slice bytes d.range) =
    B3Hash.ofBytes (slice bytes ⟨headerSize + i * indexEntrySize + 40, 32⟩)

section Reading

theorem safe_sliceOf (h : start ≤ stop) (hstop : stop ≤ bytes.length) :
    Safe (orPanic (sliceOf bytes start stop) : Checked AosError _) fun s =>
      s = slice bytes ⟨start, stop - start⟩ :=
  safe_orPanic ⟨_, sliceOf_eq_some h hstop, rfl⟩

theorem length_slice {r : ByteRange} (h : r.stop ≤ bytes.length) :
    (slice bytes r).length = r.size := by
  rw [slice, List.length_take, List.length_drop]
  exact Nat.min_eq_left (Nat.le_sub_of_add_le' h)

theorem safe_arrayAt (h : start + n = stop) (hstop : stop ≤ bytes.length) :
    Safe (orPanic (arrayAt n bytes start stop) : Checked AosError _) fun a =>
      a.toList = slice bytes ⟨start, n⟩ := by
  subst h
  have hlen : (slice bytes ⟨start, n⟩).length = n := length_slice hstop
  refine safe_orPanic ⟨bytesOf _ hlen, ?_, rfl⟩
  rw [arrayAt, sliceOf_eq_some (Nat.le_add_right start n) hstop, Option.bind_some,
    Nat.add_sub_cancel_left]
  exact dif_pos hlen

theorem safe_map_arrayAt {α : Type} {f : Bytes n → α} (h : start + n = stop)
    (hstop : stop ≤ bytes.length) :
    Safe (orPanic ((arrayAt n bytes start stop).map f) : Checked AosError _) fun _ => True := by
  obtain ⟨a, ha⟩ := exists_arrayAt h hstop
  exact safe_orPanic ⟨f a, by rw [ha, Option.map_some], trivial⟩

theorem safe_parseHeaderBytes (bytes : List UInt8) : Safe (parseHeaderBytes bytes) fun h =>
    h.indexOffset.toNat = headerSize := by
  refine safe_refuse.bind fun _ hlen => ?_
  have hsize : 64 ≤ bytes.length := Nat.not_lt.mp hlen
  refine (safe_sliceOf (by omega) (by omega)).bind fun magic _ => ?_
  refine safe_refuse.bind fun _ _ => ?_
  refine (safe_map_arrayAt rfl (by omega)).bind fun flags _ => ?_
  refine (safe_map_arrayAt rfl (by omega)).bind fun indexOffset _ => ?_
  refine (safe_map_arrayAt rfl (by omega)).bind fun indexSize _ => ?_
  refine (safe_map_arrayAt rfl (by omega)).bind fun manifestOffset _ => ?_
  refine (safe_map_arrayAt rfl (by omega)).bind fun manifestSize _ => ?_
  refine safe_refuse.bind fun _ hoffset => ?_
  refine (safe_sliceOf (by decide) hsize).bind fun reserved _ => ?_
  refine safe_refuse.bind fun _ _ => safe_pure ?_
  rw [not_not.mp hoffset]
  rfl

end Reading

/-- What is checked of an entry. -/
structure Checks (hash : List UInt8 → B3Hash) (bytes : List UInt8) (indexEnd manifestOffset : Nat)
    (entry : List UInt8) (d : SegmentDescriptor) : Prop where
  fits : d.offset + d.len < 2 ^ 64
  index : indexEnd ≤ d.offset
  manifest : d.offset + d.len ≤ manifestOffset
  inside : d.offset + d.len ≤ bytes.length
  hash_eq : hash (slice bytes d.range) = B3Hash.ofBytes (slice entry ⟨40, 32⟩)

theorem safe_parseEntry (hentry : entry.length = 80) :
    Safe (parseEntry hash bytes indexEnd manifestOffset entry)
      (Checks hash bytes indexEnd manifestOffset entry) := by
  refine (safe_map_arrayAt rfl (by omega)).bind fun segmentId _ => ?_
  refine (safe_map_arrayAt rfl (by omega)).bind fun backendTagRaw _ => ?_
  refine safe_orThrow.bind fun backendTag _ => ?_
  refine (safe_map_arrayAt rfl (by omega)).bind fun offset _ => ?_
  refine (safe_map_arrayAt rfl (by omega)).bind fun len _ => ?_
  refine (safe_arrayAt rfl (by omega)).bind fun scopeHash _ => ?_
  refine (safe_arrayAt rfl (by omega)).bind fun weightsHash hweights => ?_
  refine safe_checkedAdd.bind fun payloadEnd hend => ?_
  obtain ⟨hfits, rfl⟩ := hend
  refine safe_refuse.bind fun _ hindex => ?_
  refine safe_refuse.bind fun _ hmanifest => ?_
  refine safe_refuse.bind fun _ hinside => ?_
  refine (safe_sliceOf (Nat.le_add_right _ _) (Nat.not_lt.mp hinside)).bind fun payload hpayload => ?_
  refine safe_refuse.bind fun _ hhash => safe_pure ?_
  rw [not_not, hpayload, hweights, Nat.add_sub_cancel_left] at hhash
  exact ⟨hfits, Nat.not_lt.mp hindex, Nat.not_lt.mp hmanifest, Nat.not_lt.mp hinside, hhash⟩

theorem safe_entryAt {index : List UInt8} {i : Nat} (hi : i < index.length / indexEntrySize)
    (hindex : index.length < 2 ^ 64) : Safe (entryAt index i) fun entry =>
      entry = slice index ⟨i * indexEntrySize, indexEntrySize⟩ ∧ entry.length = 80 := by
  have hstop : i * indexEntrySize + indexEntrySize ≤ index.length := by
    rw [indexEntrySize] at hi ⊢
    omega
  refine (safe_word (by omega)).bind fun _ hstart => ?_
  subst hstart
  refine (safe_word (by omega)).bind fun _ hend => ?_
  subst hend
  refine (safe_sliceOf (Nat.le_add_right _ _) hstop).mono fun entry hentry => ?_
  rw [Nat.add_sub_cancel_left] at hentry
  exact ⟨hentry, hentry ▸ length_slice hstop⟩

theorem slice_slice {r t : ByteRange} (h : t.stop ≤ r.size) :
    slice (slice bytes r) t = slice bytes ⟨r.offset + t.offset, t.size⟩ := by
  simp only [ByteRange.stop] at h
  simp only [slice, List.drop_take, List.take_take, List.drop_drop]
  congr 1
  omega

theorem ByteRange.disjoint_of_le {r t : ByteRange} (h : r.stop ≤ t.offset ∨ t.stop ≤ r.offset) :
    r.Disjoint t := by
  rintro b ⟨⟨_, _⟩, _, _⟩
  omega

theorem safe_parseSegments (hoffset : header.indexOffset.toNat = headerSize) :
    Safe (parseSegments hash bytes header) fun ds =>
      (header.manifestRange.stop < 2 ^ 64 ∧ header.manifestRange.stop ≤ bytes.length) ∧
        List.Forall₂ (fun i d => d.offset + d.len < 2 ^ 64 ∧ WellPlaced hash bytes header i d)
          (List.range ds.length) ds := by
  refine safe_refuse.bind fun _ _ => safe_refuse.bind fun _ _ => ?_
  refine safe_checkedAdd.bind fun indexEnd hend => ?_
  obtain ⟨hfits, rfl⟩ := hend
  refine safe_refuse.bind fun _ hinside => safe_refuse.bind fun _ _ => ?_
  refine safe_checkedAdd.bind fun manifestEnd hend => ?_
  obtain ⟨hmanifest, rfl⟩ := hend
  refine safe_refuse.bind fun _ hfile => safe_refuse.bind fun _ _ => ?_
  refine (safe_sliceOf (Nat.le_add_right _ _) (Nat.not_lt.mp hinside)).bind fun index hindex => ?_
  rw [Nat.add_sub_cancel_left] at hindex
  have hlen : index.length = header.indexSize.toNat :=
    hindex ▸ length_slice (Nat.not_lt.mp hinside)
  have hentries : ∀ i ∈ List.range (header.indexSize.toNat / indexEntrySize), Safe (do
        let entry ← entryAt index i
        parseEntry hash bytes (header.indexOffset.toNat + header.indexSize.toNat)
          header.manifestOffset.toNat entry) fun d =>
        d.offset + d.len < 2 ^ 64 ∧ WellPlaced hash bytes header i d := by
    intro i hi
    rw [List.mem_range, ← hlen] at hi
    refine (safe_entryAt hi (by omega)).bind ?_
    rintro entry ⟨hentry, hsize⟩
    have hstop : i * indexEntrySize + indexEntrySize ≤ header.indexSize.toNat := by
      rw [hlen] at hi
      rw [indexEntrySize] at hi ⊢
      omega
    refine (safe_parseEntry hsize).mono fun d hd => ⟨hd.fits, hd.inside, ?_, ?_, ?_, ?_⟩
    · exact ByteRange.disjoint_of_le (.inr ((Nat.zero_add _).trans_le
        (hoffset ▸ (Nat.le_add_right _ _).trans hd.index)))
    · exact ByteRange.disjoint_of_le (.inr hd.index)
    · exact ByteRange.disjoint_of_le (.inl hd.manifest)
    · obtain ⟨⟩ := hd
      grind [ByteRange.stop, indexEntrySize, slice_slice]
  refine (safe_mapM hentries).mono fun ds hds => ⟨⟨hmanifest, Nat.not_lt.mp hfile⟩, ?_⟩
  rwa [← hds.length_eq, List.length_range]

theorem safe_segmentView {d : SegmentDescriptor} (hfits : d.offset + d.len < 2 ^ 64)
    (hinside : d.range.stop ≤ bytes.length) : Safe (segmentView bytes d) fun s =>
      s = ⟨d.segmentId, d.backendTag, d.scopeHash, slice bytes d.range⟩ := by
  refine (safe_word hfits).bind fun _ hend => ?_
  subst hend
  refine (safe_sliceOf (Nat.le_add_right _ _) hinside).bind fun payload hpayload => safe_pure ?_
  rw [hpayload, Nat.add_sub_cancel_left, SegmentDescriptor.range]

/-- The parser returns on every byte string, without a slice out of range and without an overflow.
What it returns are the manifest and the payloads, inside the file, no payload in the header, the
index or the manifest, and each with the hash of its index entry. -/
theorem openAos_safe (hash : List UInt8 → B3Hash) (bytes : List UInt8) :
    Safe (openAos hash bytes) fun view => ∃ header descriptors,
      parseHeaderBytes bytes = pure header ∧ parseSegments hash bytes header = pure descriptors ∧
        header.manifestRange.stop ≤ bytes.length ∧
        view.manifestBytes = slice bytes header.manifestRange ∧
        List.Forall₂ (WellPlaced hash bytes header) (List.range descriptors.length) descriptors ∧
        view.segments = descriptors.map fun d =>
          ⟨d.segmentId, d.backendTag, d.scopeHash, slice bytes d.range⟩ := by
  refine (safe_parseHeaderBytes bytes).result.bind ?_
  rintro header ⟨hheader, hoffset⟩
  refine (safe_parseSegments hoffset).result.bind ?_
  rintro ds ⟨hds, ⟨hfits, hstop⟩, hplaced⟩
  have hviews : ∀ d ∈ ds, Safe (segmentView bytes d) fun s =>
      s = ⟨d.segmentId, d.backendTag, d.scopeHash, slice bytes d.range⟩ := by
    have hsafe := hplaced.flip.imp fun d _ h =>
      And.intro (safe_segmentView h.1 h.2.inside) trivial
    exact ((List.forall₂_and_left ds _).mp hsafe).1
  refine (safe_mapM hviews).bind fun segments hsegments => ?_
  refine (safe_word hfits).bind fun _ hend => ?_
  subst hend
  refine (safe_sliceOf (Nat.le_add_right _ _) hstop).bind fun manifest hmanifest => safe_pure ?_
  refine ⟨header, ds, hheader, hds, hstop, ?_, hplaced.imp fun _ _ h => h.2, ?_⟩
  · rw [hmanifest, Nat.add_sub_cancel_left, AosHeader.manifestRange]
  · have hsame := List.forall₂_map_left_iff.mpr (hsegments.imp fun _ _ => Eq.symm)
    rw [List.forall₂_eq_eq_eq] at hsame
    exact hsame.symm

end AdapterOS.Aos
