import AdapterOS.Kv.CacheSpec
import AdapterOS.Library.Run

/-! The memory layout of the cache: over every run, live allocations and free regions own
disjoint bytes. -/
namespace AdapterOS.Kv

open Library ByteRange

def liveRanges (allocations : HashMap SequenceId KvAllocation) : List ByteRange :=
  allocations.items.flatMap fun a => [⟨a.2.kOffset, a.2.kSize⟩, ⟨a.2.vOffset, a.2.vSize⟩]

/-- Live ranges are disjoint from each other and from the free regions, and inside the cache. -/
structure LaidOut (c : KvCache) : Prop where
  disjoint : (liveRanges c.allocations).Pairwise ByteRange.Disjoint
  free : ∀ r ∈ liveRanges c.allocations, ∀ f ∈ c.freeRegions, r.Disjoint f
  inside : ∀ r ∈ liveRanges c.allocations, r.stop ≤ c.capacityBytes

/-- A free region ends below the bump pointer, or it is the tail of the capacity that
`zeroizeAll` left. -/
def Reusable (capacity used : Nat) (r : ByteRange) : Prop :=
  r.stop ≤ used ∨ (r.offset ≤ used ∧ r.stop = capacity)

/-- What carries the layout, in the fields of the cache that it depends on. -/
structure Layout (capacity used : Nat) (allocations : HashMap SequenceId KvAllocation)
    (free : List ByteRange) : Prop where
  capacity_lt : capacity < 2 ^ 64
  used_le : used ≤ capacity
  once : ∀ b, coverage b (liveRanges allocations) + coverage b free ≤ 1
  paired : ∀ id a, allocations.get? id = some a → a.vOffset = a.kOffset + a.kSize
  below : ∀ id a, allocations.get? id = some a → a.vOffset + a.vSize ≤ used
  reusable : ∀ r ∈ free, Reusable capacity used r

def KvCache.Layout (c : KvCache) : Prop :=
  Kv.Layout c.capacityBytes c.usedBytes c.allocations c.freeRegions

variable {c : KvCache} {capacity used b : Nat} {free rs : List ByteRange} {r t : ByteRange}
  {allocations : HashMap SequenceId KvAllocation} {id : SequenceId} {a : KvAllocation}

section Ranges

theorem mem_liveRanges : r ∈ liveRanges allocations ↔ ∃ id a, allocations.get? id = some a ∧
    (r = ⟨a.kOffset, a.kSize⟩ ∨ r = ⟨a.vOffset, a.vSize⟩) := by
  simp only [liveRanges, List.mem_flatMap, Prod.exists, AList.mem_items, List.mem_cons,
    List.not_mem_nil, or_false]

def blockCover (b : Nat) (a : KvAllocation) : Nat :=
  cover b ⟨a.kOffset, a.kSize⟩ + cover b ⟨a.vOffset, a.vSize⟩

theorem coverage_liveRanges_erase (h : allocations.get? id = some a) :
    coverage b (liveRanges allocations) =
      blockCover b a + coverage b (liveRanges (allocations.erase id)) := by
  have hp := (AList.items_erase_perm h).flatMap_right
    fun a => [(⟨a.2.kOffset, a.2.kSize⟩ : ByteRange), ⟨a.2.vOffset, a.2.vSize⟩]
  have hc := coverage_perm (b := b) hp
  simp only [List.flatMap_cons, coverage_append, coverage_cons, coverage_nil] at hc
  simp only [liveRanges, blockCover, hc]
  omega

theorem coverage_liveRanges_erase_le (b : Nat) (allocations : HashMap SequenceId KvAllocation)
    (id : SequenceId) :
    coverage b (liveRanges (allocations.erase id)) ≤ coverage b (liveRanges allocations) := by
  cases h : allocations.get? id with
  | none =>
    have hn : id ∉ allocations := AList.get?_eq_none.mp h
    have he : allocations.erase id = allocations := AList.ext (List.kerase_of_notMem_keys hn)
    rw [he]
  | some a =>
    rw [coverage_liveRanges_erase h]
    omega

theorem coverage_liveRanges_insert (b : Nat) (allocations : HashMap SequenceId KvAllocation)
    (id : SequenceId) (a : KvAllocation) :
    coverage b (liveRanges (allocations.insert id a)) ≤
      blockCover b a + coverage b (liveRanges allocations) := by
  have hle := coverage_liveRanges_erase_le b allocations id
  simp only [liveRanges, AList.items_insert, List.flatMap_cons, coverage_append, coverage_cons,
    coverage_nil, blockCover] at hle ⊢
  omega

theorem live_stop_le (h : Layout capacity used allocations free)
    (hr : r ∈ liveRanges allocations) : r.stop ≤ used := by
  obtain ⟨id, a, ha, hr⟩ := mem_liveRanges.mp hr
  have hp := h.paired id a ha
  have hb := h.below id a ha
  rcases hr with rfl | rfl
  · rw [stop_mk]
    omega
  · exact hb

end Ranges

section Coalesce

theorem Reusable.stop_le (h : Reusable capacity used r) (hu : used ≤ capacity) :
    r.stop ≤ capacity := by
  rcases h with h | h <;> omega

theorem Reusable.mono {used' : Nat} (h : Reusable capacity used r) (hu : used ≤ used') :
    Reusable capacity used' r := by
  rcases h with h | ⟨h, ht⟩
  · exact Or.inl (by omega)
  · exact Or.inr ⟨by omega, ht⟩

theorem Reusable.merge (ht : Reusable capacity used t) (htouch : t.offset = r.stop) :
    Reusable capacity used ⟨r.offset, r.size + t.size⟩ := by
  have hstop : stop ⟨r.offset, r.size + t.size⟩ = t.stop := by
    simp only [stop] at htouch ⊢
    omega
  have hle : r.offset ≤ t.offset := by
    rw [htouch]
    exact Nat.le_add_right _ _
  rcases ht with ht | ⟨ht, hc⟩
  · exact Or.inl (by omega)
  · exact Or.inr ⟨le_trans hle ht, by omega⟩

theorem mergeFrom_spec (hcap : capacity < 2 ^ 64) (hu : used ≤ capacity)
    (hr : Reusable capacity used r) (hrs : ∀ t ∈ rs, Reusable capacity used t) :
    (∀ b, coverage b (KvCache.mergeFrom r rs) = cover b r + coverage b rs) ∧
      ∀ t ∈ KvCache.mergeFrom r rs, Reusable capacity used t := by
  induction rs generalizing r with
  | nil => exact ⟨fun b => by simp [KvCache.mergeFrom], by simpa [KvCache.mergeFrom] using hr⟩
  | cons t rs ih =>
    obtain ⟨ht, hrs'⟩ := List.forall_mem_cons.mp hrs
    have hstop := hr.stop_le hu
    have hstop' := ht.stop_le hu
    have hwrap : wrap64 (r.offset + r.size) = r.stop := wrap64_of_lt (by
      change r.stop < 2 ^ 64
      omega)
    unfold KvCache.mergeFrom
    split
    · rename_i htouch
      rw [hwrap] at htouch
      have hsum : wrap64 (r.size + t.size) = r.size + t.size := wrap64_of_lt (by
        simp only [stop] at htouch hstop'
        omega)
      obtain ⟨hcover, hall⟩ := ih (ht.merge htouch) hrs'
      rw [hsum]
      refine ⟨?_, hall⟩
      intro b
      have hsplit := cover_split b r.offset r.size t.size
      have hadj : (⟨r.offset + r.size, t.size⟩ : ByteRange) = t := by
        rw [show r.offset + r.size = t.offset from htouch.symm]
      rw [hadj] at hsplit
      rw [hcover b, coverage_cons]
      change cover b r + cover b t = _ at hsplit
      omega
    all_goals grind [coverage_cons]

theorem coalesce_spec (hcap : capacity < 2 ^ 64) (hu : used ≤ capacity)
    (hrs : ∀ t ∈ rs, Reusable capacity used t) :
    (∀ b, coverage b (KvCache.coalesce rs) = coverage b rs) ∧
      ∀ t ∈ KvCache.coalesce rs, Reusable capacity used t := by
  have hperm := List.perm_insertionSort (fun r t : ByteRange => r.offset ≤ t.offset) rs
  unfold KvCache.coalesce
  cases hs : rs.insertionSort (fun r t => r.offset ≤ t.offset) with
  | nil =>
    rw [hs] at hperm
    obtain rfl := hperm.nil_eq
    exact ⟨fun _ => rfl, hrs⟩
  | cons first rest =>
    rw [hs] at hperm
    have hall : ∀ t ∈ first :: rest, Reusable capacity used t :=
      fun t ht => hrs t (hperm.mem_iff.mp ht)
    obtain ⟨hfirst, hrest⟩ := List.forall_mem_cons.mp hall
    obtain ⟨hcover, hok⟩ := mergeFrom_spec hcap hu hfirst hrest
    refine ⟨?_, hok⟩
    intro b
    have hb := coverage_perm (b := b) hperm
    rw [coverage_cons] at hb
    exact (hcover b).trans hb

end Coalesce

section Place

/-- `size` bytes at `offset` are nobody's, and the regions that are left stay reusable. -/
structure Room (c : KvCache) (size offset : Nat) (rest : List ByteRange) : Prop where
  fits : offset + size ≤ c.capacityBytes
  once : ∀ b, coverage b (liveRanges c.allocations) + cover b ⟨offset, size⟩ + coverage b rest ≤ 1
  reusable : ∀ r ∈ rest, Reusable c.capacityBytes (max c.usedBytes (offset + size)) r

theorem eraseP_of_find? {α : Type*} {p : α → Bool} {l : List α} {x : α} (h : l.find? p = some x) :
    ∃ front back, l = front ++ x :: back ∧ l.eraseP p = front ++ back := by
  obtain ⟨hp, front, back, rfl, hfront⟩ := List.find?_eq_some_iff_append.mp h
  refine ⟨front, back, rfl, ?_⟩
  rw [List.eraseP_append_right _ (fun y hy => by simpa using hfront y hy),
    List.eraseP_cons_of_pos hp]

variable {required : Nat}

theorem takeRegion_of_find? (hstop : r.stop < 2 ^ 64) (hsize : required * 2 ≤ r.size)
    (hr : c.freeRegions.find? (fun r => wrap64 (required * 2) ≤ r.size) = some r) :
    ∃ front back, c.freeRegions = front ++ r :: back ∧
      c.takeRegion required = (r.offset, if r.size - required * 2 > 0 then
        front ++ back ++ [⟨r.offset + required * 2, r.size - required * 2⟩] else front ++ back) := by
  obtain ⟨front, back, hlist, hrest⟩ := eraseP_of_find? hr
  simp only [stop] at hstop
  have hconsumed : wrap64 (required + required) = required * 2 := by
    rw [wrap64_of_lt (by omega)]
    omega
  have hremaining : wrapSub64 r.size (required * 2) = r.size - required * 2 :=
    wrapSub64_of_le (by omega) hsize
  grind [wrap64_of_lt, KvCache.takeRegion]

variable (h : c.Layout) (hfit : c.usedBytes + required * 2 ≤ c.capacityBytes)

include h hfit

theorem room_reuse (hr : c.freeRegions.find? (fun r => wrap64 (required * 2) ≤ r.size) = some r) :
    Room c (required * 2) (c.takeRegion required).1 (c.takeRegion required).2 := by
  have hcap := h.capacity_lt
  have hmem : r ∈ c.freeRegions := List.mem_of_find?_eq_some hr
  have hreuse := h.reusable r hmem
  have hstop := hreuse.stop_le h.used_le
  have hsize : required * 2 ≤ r.size := by
    have hp := List.find?_some hr
    rw [wrap64_of_lt (by omega)] at hp
    exact of_decide_eq_true hp
  obtain ⟨front, back, hlist, htake⟩ := takeRegion_of_find? (by omega) hsize hr
  have hcover : ∀ b, coverage b c.freeRegions = cover b ⟨r.offset, required * 2⟩ +
      cover b ⟨r.offset + required * 2, r.size - required * 2⟩ + coverage b (front ++ back) := by
    intro b
    have hsplit := cover_split b r.offset (required * 2) (r.size - required * 2)
    rw [Nat.add_sub_cancel' hsize] at hsplit
    change _ = cover b r at hsplit
    rw [hsplit, hlist]
    simp only [coverage_append, coverage_cons]
    omega
  have hold : ∀ t ∈ front ++ back,
      Reusable c.capacityBytes (max c.usedBytes (r.offset + required * 2)) t := by
    intro t ht
    refine (h.reusable t ?_).mono (le_max_left _ _)
    rw [hlist]
    simp only [List.mem_append, List.mem_cons] at ht ⊢
    tauto
  rw [htake]
  dsimp only
  refine ⟨?_, ?_, ?_⟩
  · simp only [stop] at hstop
    omega
  · intro b
    have honce := h.once b
    rw [hcover b] at honce
    rw [coverage_keep]
    omega
  all_goals grind [mem_keep, Reusable, stop]

theorem room_append (hnone : c.freeRegions.find? (fun r => wrap64 (required * 2) ≤ r.size) = none) :
    Room c (required * 2) (c.takeRegion required).1 (c.takeRegion required).2 := by
  have hcap := h.capacity_lt
  have htake : c.takeRegion required = (c.usedBytes, c.freeRegions) := by
    simp only [KvCache.takeRegion, hnone]
  have hbelow : ∀ r ∈ c.freeRegions, r.stop ≤ c.usedBytes := by
    intro r hr
    have hsmall := List.find?_eq_none.mp hnone r hr
    rw [wrap64_of_lt (by omega)] at hsmall
    simp only [decide_eq_true_eq] at hsmall
    rcases h.reusable r hr with hstop | ⟨hoff, hstop⟩
    · exact hstop
    · simp only [stop] at hstop
      omega
  rw [htake]
  dsimp only
  refine ⟨hfit, ?_, fun r hr => Or.inl (le_trans (hbelow r hr) (le_max_left _ _))⟩
  intro b
  have honce := h.once b
  by_cases hb : b < c.usedBytes
  · have hc : cover b ⟨c.usedBytes, required * 2⟩ = 0 := if_neg (by simp; omega)
    rw [hc]
    exact honce
  · have hlive : coverage b (liveRanges c.allocations) = 0 := by
      apply coverage_eq_zero
      rintro r hr ⟨_, hlt⟩
      have hle := live_stop_le h hr
      omega
    have hfree : coverage b c.freeRegions = 0 := by
      apply coverage_eq_zero
      rintro r hr ⟨_, hlt⟩
      have hle := hbelow r hr
      omega
    have hone : cover b ⟨c.usedBytes, required * 2⟩ ≤ 1 := cover_le_one
    rw [hlive, hfree]
    omega

theorem layout_place : (c.place required).Layout := by
  have hcap := h.capacity_lt
  have hused := h.used_le
  have hroom : Room c (required * 2) (c.takeRegion required).1 (c.takeRegion required).2 := by
    cases hf : c.freeRegions.find? (fun r => wrap64 (required * 2) ≤ r.size) with
    | none => exact room_append h hfit hf
    | some r => exact room_reuse h hfit hf
  obtain ⟨hfits, honce, hreuse⟩ := hroom
  unfold KvCache.place
  generalize (c.takeRegion required).1 = k at hfits honce hreuse ⊢
  generalize (c.takeRegion required).2 = rest at honce hreuse ⊢
  have hv : wrap64 (k + required) = k + required := wrap64_of_lt (by omega)
  have hend : wrap64 (k + required + required) = k + required * 2 := by
    rw [wrap64_of_lt (by omega)]
    omega
  have hmax : (if k + required * 2 > c.usedBytes then k + required * 2 else c.usedBytes) =
      max c.usedBytes (k + required * 2) := by
    split <;> omega
  simp only [hv, hend, hmax]
  refine ⟨hcap, ?_, ?_, ?_, ?_, hreuse⟩
  · simp only
    omega
  · intro b
    have hb := honce b
    have hsplit := cover_split b k required required
    grind [coverage_liveRanges_insert, blockCover]
  · obtain ⟨⟩ := h
    grind
  · obtain ⟨⟩ := h
    grind

end Place

section Run

theorem layout_cleared (hcap : capacity < 2 ^ 64) (hfree : free = [] ∨ free = [⟨0, capacity⟩]) :
    Layout capacity 0 ∅ free := by
  refine ⟨hcap, Nat.zero_le _, ?_, ?_, ?_, ?_⟩
  · intro b
    have hlive : coverage b (liveRanges ∅) = 0 := rfl
    rcases hfree with rfl | rfl
    · simp [hlive]
    · have hone : cover b ⟨0, capacity⟩ ≤ 1 := cover_le_one
      simpa [hlive] using hone
  · intro id a ha
    simp at ha
  · intro id a ha
    simp at ha
  · intro r hr
    rcases hfree with rfl | rfl
    · simp at hr
    · obtain rfl := List.mem_singleton.mp hr
      exact Or.inr ⟨le_refl _, by simp⟩

theorem layout_free (h : c.Layout) (id : SequenceId) : (c.free id).2.Layout := by
  cases ha : c.allocations.get? id with
  | none =>
    rw [KvCache.free_none ha]
    exact h
  | some a =>
    obtain ⟨q, hq⟩ := KvCache.free_some ha
    have hcap := h.capacity_lt
    have hused := h.used_le
    have hpair := h.paired id a ha
    have hbelow := h.below id a ha
    have hsum : wrap64 (a.kSize + a.vSize) = a.kSize + a.vSize := wrap64_of_lt (by omega)
    rw [hsum] at hq
    have hall : ∀ r ∈ c.freeRegions ++ [⟨a.kOffset, a.kSize + a.vSize⟩],
        Reusable c.capacityBytes c.usedBytes r := by
      intro r hr
      rcases List.mem_append.mp hr with hr | hr
      · exact h.reusable r hr
      · obtain rfl := List.mem_singleton.mp hr
        refine Or.inl ?_
        rw [stop_mk]
        omega
    obtain ⟨hcover, hreuse⟩ := coalesce_spec hcap hused hall
    rw [hq]
    refine ⟨hcap, hused, ?_, ?_, ?_, hreuse⟩
    · intro b
      have honce := h.once b
      have hsplit := cover_split b a.kOffset a.kSize a.vSize
      rw [coverage_liveRanges_erase ha, blockCover, hpair] at honce
      simp only [hcover b, coverage_append, coverage_cons, coverage_nil]
      omega
    · obtain ⟨⟩ := h
      grind
    · obtain ⟨⟩ := h
      grind

def NoOverflow (c : KvCache) (seqLen : Nat) : Prop :=
  c.usedBytes + KvCache.roundedLen seqLen * c.bytesPerToken * 2 < 2 ^ 64

instance (c : KvCache) (seqLen : Nat) : Decidable (NoOverflow c seqLen) :=
  inferInstanceAs (Decidable (_ < _))

def RoomGuard (c : KvCache) : KvOp → Prop
  | .allocate seqLen _ _ => NoOverflow c seqLen
  | .allocateWithGuard seqLen generation _ _ =>
    NoOverflow (c.ensureCacheCoherence generation).2 seqLen
  | _ => True

instance (c : KvCache) : (op : KvOp) → Decidable (RoomGuard c op)
  | .allocate seqLen _ _ => inferInstanceAs (Decidable (NoOverflow c seqLen))
  | .allocateWithGuard seqLen generation _ _ =>
    inferInstanceAs (Decidable (NoOverflow (c.ensureCacheCoherence generation).2 seqLen))
  | .free _ | .drainActiveSequences _ | .setGeneration _ | .ensureCacheCoherence _ | .zeroize
  | .zeroizeSequence _ | .resetAll | .zeroizeAll | .quota _ => inferInstanceAs (Decidable True)

theorem layout_allocate {seqLen : Nat} (h : c.Layout) (hroom : NoOverflow c seqLen)
    (now systemNanos : Nat) : (c.allocate seqLen now systemNanos).2.Layout := by
  rcases c.allocate_cases seqLen now systemNanos with ⟨e, q, hc⟩ | ⟨required, q, hreq, hcap, hc⟩
  · rw [hc]
    exact h
  · obtain rfl : KvCache.roundedLen seqLen * c.bytesPerToken = required := by
      grind [KvCache.requiredBytes, checkedMul64]
    unfold NoOverflow at hroom
    rw [wrap64_of_lt (n := _ * 2) (by omega), wrap64_of_lt hroom] at hcap
    rw [hc]
    have hplaced := layout_place h hcap
    exact hplaced

theorem layout_step {op : KvOp} (h : c.Layout) (hg : RoomGuard c op) : (kvStep c op).Layout := by
  refine KvCache.books_step (P := Layout) ?_ ?_ h ?_ ?_
  · exact fun c id h => layout_free h id
  · exact fun c free h hfree => layout_cleared h.capacity_lt hfree
  · rintro seqLen now systemNanos rfl
    exact layout_allocate h hg now systemNanos
  · rintro seqLen generation now systemNanos rfl hensured
    exact layout_allocate hensured hg now systemNanos

theorem layout_created (h : c.Created) : c.Layout := by
  cases h with
  | plain capacityBytes _ hcap => exact layout_cleared hcap (Or.inl rfl)
  | metal _ _ capacityBytes _ _ hcap => exact layout_cleared hcap (Or.inl rfl)

theorem laidOut_of_layout (h : c.Layout) : LaidOut c := by
  have hdisjoint : (liveRanges c.allocations ++ c.freeRegions).Pairwise ByteRange.Disjoint := by
    apply pairwise_disjoint
    intro b
    rw [coverage_append]
    exact h.once b
  obtain ⟨hlive, _, hfree⟩ := List.pairwise_append.mp hdisjoint
  exact ⟨hlive, hfree, fun r hr => le_trans (live_stop_le h hr) h.used_le⟩

/-- Along every run in which the capacity test does not overflow, live allocations stay disjoint,
inside the cache and off the free regions. -/
theorem laidOut_of_guarded (hc : c.Created) (ops : List KvOp)
    (hg : Guarded kvStep RoomGuard c ops) : Always kvStep LaidOut c ops :=
  always_of_guarded (fun _ _ h hop => layout_step h hop) (fun _ h => laidOut_of_layout h)
    (layout_created hc) hg

theorem laidOut_after_zeroizeAll : Always kvStep LaidOut (.new (32 * bytesPerMb))
      [.allocate 100 0 0, .allocateWithGuard 300 1 0 0, .zeroizeAll, .allocate 600 0 0,
        .allocate 128 0 0, .free 3, .allocateWithGuard 200 1 0 0, .drainActiveSequences .asListed,
        .zeroize, .allocate 0 0 0, .zeroizeSequence 6, .ensureCacheCoherence 2] :=
  laidOut_of_guarded (.plain _ _ (by decide)) _ (by decide)

/-- Two requests of half the address space: the sum in the capacity test wraps to zero, and the
third allocation lies on the second. -/
theorem overlap_after_overflow : 2 ^ 21 * 2 ^ 42 < 2 ^ 64 ∧
    ¬ Always kvStep LaidOut (.newWithMetal (fun _ => 0) (fun _ => 0) (2 ^ 64 - 1) (2 ^ 42))
      [.allocate (2 ^ 20) 0 0, .allocate (2 ^ 20) 0 0, .allocate (2 ^ 20) 0 0] := by
  refine ⟨by decide, ?_⟩
  intro h
  have hd := (h.initial (List.prefix_refl _)).disjoint
  have hl : liveRanges (run kvStep (.newWithMetal (fun _ => 0) (fun _ => 0) (2 ^ 64 - 1) (2 ^ 42))
      [.allocate (2 ^ 20) 0 0, .allocate (2 ^ 20) 0 0, .allocate (2 ^ 20) 0 0]).allocations =
      [⟨2 ^ 63, 2 ^ 62⟩, ⟨2 ^ 63 + 2 ^ 62, 2 ^ 62⟩, ⟨2 ^ 63, 2 ^ 62⟩, ⟨2 ^ 63 + 2 ^ 62, 2 ^ 62⟩,
        ⟨0, 2 ^ 62⟩, ⟨2 ^ 62, 2 ^ 62⟩] := by decide
  rw [hl] at hd
  have hsame := (List.pairwise_cons.mp hd).1 ⟨2 ^ 63, 2 ^ 62⟩ (by simp)
  exact hsame (2 ^ 63) ⟨⟨by decide, by decide⟩, by decide, by decide⟩

end Run

end AdapterOS.Kv
