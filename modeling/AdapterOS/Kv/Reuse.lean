import AdapterOS.Kv.Layout

/-! When freed regions can be used again. The capacity test looks at the bump pointer alone, so a
region that is large enough does not help when there is no room behind the pointer. -/
namespace AdapterOS.Kv

open Library

variable {c : KvCache} {seqLen now systemNanos : Nat}

namespace KvCache

def neededBytes (c : KvCache) (seqLen : Nat) : Nat := roundedLen seqLen * c.bytesPerToken * 2

def FitsRegion (c : KvCache) (seqLen : Nat) : Prop :=
  ∃ r ∈ c.freeRegions, c.neededBytes seqLen ≤ r.size

def FitsBehind (c : KvCache) (seqLen : Nat) : Prop :=
  wrap64 (c.usedBytes + c.neededBytes seqLen) ≤ c.capacityBytes

instance (c : KvCache) (seqLen : Nat) : Decidable (c.FitsBehind seqLen) :=
  inferInstanceAs (Decidable (_ ≤ _))

end KvCache

/-- Capacity and region sizes are machine words. -/
structure Worded (capacity : Nat) (free : List ByteRange) : Prop where
  capacity_lt : capacity < 2 ^ 64
  size_lt : ∀ r ∈ free, r.size < 2 ^ 64

def KvCache.Worded (c : KvCache) : Prop := Kv.Worded c.capacityBytes c.freeRegions

section Words

theorem mergeFrom_lt {current : ByteRange} {rest : List ByteRange}
    (hcurrent : current.size < 2 ^ 64) (hrest : ∀ r ∈ rest, r.size < 2 ^ 64) :
    ∀ r ∈ KvCache.mergeFrom current rest, r.size < 2 ^ 64 := by
  induction rest generalizing current with
  | nil => simpa [KvCache.mergeFrom] using hcurrent
  | cons next rest ih =>
    obtain ⟨hnext, hrest'⟩ := List.forall_mem_cons.mp hrest
    unfold KvCache.mergeFrom
    split
    · exact ih (Nat.mod_lt _ (by decide)) hrest'
    · exact List.forall_mem_cons.mpr ⟨hcurrent, ih hnext hrest'⟩

theorem coalesce_lt {regions : List ByteRange} (h : ∀ r ∈ regions, r.size < 2 ^ 64) :
    ∀ r ∈ KvCache.coalesce regions, r.size < 2 ^ 64 := by
  have hsorted : ∀ r ∈ regions.insertionSort (fun r t => r.offset ≤ t.offset), r.size < 2 ^ 64 := by
    intro r hr
    exact h r ((List.mem_insertionSort _).mp hr)
  unfold KvCache.coalesce
  cases hs : regions.insertionSort (fun r t => r.offset ≤ t.offset) with
  | nil => simp [KvCache.mergeRegions]
  | cons first rest =>
    rw [hs] at hsorted
    obtain ⟨hfirst, hrest⟩ := List.forall_mem_cons.mp hsorted
    exact mergeFrom_lt hfirst hrest

theorem worded_place (h : c.Worded) (required : Nat) : (c.place required).Worded := by
  refine ⟨h.capacity_lt, ?_⟩
  intro r hr
  simp only [KvCache.place, KvCache.takeRegion] at hr
  split at hr
  · split at hr
    · rcases List.mem_append.mp hr with hr | hr
      · exact h.size_lt r (List.mem_of_mem_eraseP hr)
      · rw [List.mem_singleton.mp hr]
        exact Nat.mod_lt _ (by decide)
    · exact h.size_lt r (List.mem_of_mem_eraseP hr)
  · exact h.size_lt r hr

theorem worded_allocate (h : c.Worded) (seqLen now systemNanos : Nat) :
    (c.allocate seqLen now systemNanos).2.Worded := by
  rcases c.allocate_cases seqLen now systemNanos with ⟨e, q, hc⟩ | ⟨required, q, _, _, hc⟩
  · rw [hc]
    exact h
  · rw [hc]
    exact worded_place h required

theorem worded_free (h : c.Worded) (id : SequenceId) : (c.free id).2.Worded := by
  cases ha : c.allocations.get? id with
  | none =>
    rw [KvCache.free_none ha]
    exact h
  | some a =>
    obtain ⟨q, hfree⟩ := KvCache.free_some ha
    rw [hfree]
    refine ⟨h.capacity_lt, coalesce_lt ?_⟩
    intro r hr
    rcases List.mem_append.mp hr with hr | hr
    · exact h.size_lt r hr
    · rw [List.mem_singleton.mp hr]
      exact Nat.mod_lt _ (by decide)

theorem worded_step (c : KvCache) (op : KvOp) (h : c.Worded) : (kvStep c op).Worded := by
  refine KvCache.books_step (P := fun capacity _ _ free => Worded capacity free) ?_ ?_ h ?_ ?_
  · exact fun c id h => worded_free h id
  · rintro c free h (rfl | rfl)
    · exact ⟨h.capacity_lt, by simp⟩
    · exact ⟨h.capacity_lt, by simpa using h.capacity_lt⟩
  · exact fun seqLen now systemNanos _ => worded_allocate h seqLen now systemNanos
  · exact fun seqLen _ now systemNanos _ h => worded_allocate h seqLen now systemNanos

theorem worded_created (h : c.Created) : c.Worded := by
  cases h with
  | plain capacityBytes _ hcap => exact ⟨hcap, by simp [KvCache.newWithQuota]⟩
  | metal _ _ capacityBytes _ _ hcap => exact ⟨hcap, by simp [KvCache.newWithMetalAndQuota]⟩

theorem worded_run (h : c.Created) (ops : List KvOp) : (run kvStep c ops).Worded :=
  run_invariant worded_step (worded_created h) ops

end Words

section Reuse

/-- Without a quota, a request that a machine word can hold succeeds exactly if there is room
behind the bump pointer, whatever the free regions are. -/
theorem allocate_ok_iff (hquota : c.quotaManager = none) (hword : c.neededBytes seqLen < 2 ^ 64)
    (now systemNanos : Nat) :
    (∃ id, (c.allocate seqLen now systemNanos).1 = .ok id) ↔ c.FitsBehind seqLen := by
  have hrequired : c.requiredBytes seqLen = some (KvCache.roundedLen seqLen * c.bytesPerToken) := by
    simp only [KvCache.neededBytes] at hword
    rw [KvCache.requiredBytes, checkedMul64, if_pos (by omega)]
  have hwrap : wrap64 (KvCache.roundedLen seqLen * c.bytesPerToken * 2) = c.neededBytes seqLen :=
    wrap64_of_lt hword
  simp only [KvCache.allocate, hrequired, KvCache.reserveQuota, hquota, hwrap, KvCache.FitsBehind]
  split
  · rename_i hfull
    simp [Nat.not_le.mpr hfull]
  · rename_i hroom
    simp [Nat.not_lt.mp hroom]

/-- In every reachable state without a quota, a large enough free region makes a request succeed
exactly if the request also fits behind the bump pointer, and so does an empty cache. -/
theorem allocate_reuses_iff (hc : c.Created) (ops : List KvOp)
    (hquota : (run kvStep c ops).quotaManager = none) (seqLen now systemNanos : Nat) :
    (((run kvStep c ops).FitsRegion seqLen →
        ∃ id, ((run kvStep c ops).allocate seqLen now systemNanos).1 = .ok id) ↔
      ((run kvStep c ops).FitsRegion seqLen → (run kvStep c ops).FitsBehind seqLen)) ∧
    ((run kvStep c ops).allocations = ∅ →
      (((run kvStep c ops).neededBytes seqLen ≤ (run kvStep c ops).capacityBytes →
          ∃ id, ((run kvStep c ops).allocate seqLen now systemNanos).1 = .ok id) ↔
        ((run kvStep c ops).neededBytes seqLen ≤ (run kvStep c ops).capacityBytes →
          (run kvStep c ops).FitsBehind seqLen))) := by
  have hworded := worded_run hc ops
  generalize run kvStep c ops = s at hworded hquota ⊢
  refine ⟨forall_congr' ?_, fun _ => forall_congr' ?_⟩
  · rintro ⟨r, hr, hfits⟩
    exact allocate_ok_iff hquota (lt_of_le_of_lt hfits (hworded.size_lt r hr)) now systemNanos
  · intro hfits
    exact allocate_ok_iff hquota (lt_of_le_of_lt hfits hworded.capacity_lt) now systemNanos

theorem allocate_reuses_four_mb :
    ∃ id, ((run kvStep (.new (4 * bytesPerMb)) [.allocate 100 0 0, .free 1]).allocate 100 0 0).1 =
      .ok id := by
  have hreuse := allocate_reuses_iff (c := .new (4 * bytesPerMb)) (.plain _ _ (by decide))
    [.allocate 100 0 0, .free 1] (by decide) 100 0 0
  exact hreuse.1.mpr (fun _ => by decide) ⟨⟨0, 2 * bytesPerMb⟩, by decide, by decide⟩

/-- A cache of the size of one request is free again, and refuses the request that it has just
held. -/
theorem allocate_full_after_free :
    (run kvStep (.new (2 * bytesPerMb)) [.allocate 100 0 0, .free 1]).quotaManager = none ∧
    (run kvStep (.new (2 * bytesPerMb)) [.allocate 100 0 0, .free 1]).allocations = ∅ ∧
    (run kvStep (.new (2 * bytesPerMb)) [.allocate 100 0 0, .free 1]).FitsRegion 100 ∧
    ((run kvStep (.new (2 * bytesPerMb)) [.allocate 100 0 0, .free 1]).allocate 100 0 0).1 =
      .error (.memoryPressure "KV cache full: 2097152 / 2097152 bytes used") := by
  refine ⟨rfl, rfl, ⟨⟨0, 2 * bytesPerMb⟩, by decide, by decide⟩, rfl⟩

end Reuse

section BumpPointer

def KvOp.isPlain : KvOp → Bool
  | .allocate _ _ _ | .free _ => true
  | _ => false

/-- What is needed for a request is the same, and the bump pointer has not moved back. -/
structure Grown (c c' : KvCache) : Prop where
  capacity_eq : c'.capacityBytes = c.capacityBytes
  bytesPerToken_eq : c'.bytesPerToken = c.bytesPerToken
  used_le : c.usedBytes ≤ c'.usedBytes

theorem grown_step {op : KvOp} (hop : op.isPlain) : Grown c (kvStep c op) := by
  cases op with
  | allocate seqLen now systemNanos =>
    simp only [kvStep]
    rcases c.allocate_cases seqLen now systemNanos with ⟨e, q, hc⟩ | ⟨required, q, _, _, hc⟩
    · rw [hc]
      exact ⟨rfl, rfl, le_refl _⟩
    · rw [hc]
      refine ⟨rfl, rfl, ?_⟩
      simp only [KvCache.place]
      split <;> omega
  | free id =>
    simp only [kvStep]
    cases ha : c.allocations.get? id with
    | none =>
      rw [KvCache.free_none ha]
      exact ⟨rfl, rfl, le_refl _⟩
    | some a =>
      obtain ⟨q, hc⟩ := KvCache.free_some ha
      rw [hc]
      exact ⟨rfl, rfl, le_refl _⟩
  | _ => cases hop

theorem grown_run {ops : List KvOp} (hops : ∀ op ∈ ops, op.isPlain) :
    Grown c (run kvStep c ops) := by
  induction ops generalizing c with
  | nil => exact ⟨rfl, rfl, le_refl _⟩
  | cons op ops ih =>
    obtain ⟨hop, hrest⟩ := List.forall_mem_cons.mp hops
    have hstep := grown_step (c := c) hop
    have hrun := ih (c := kvStep c op) hrest
    exact ⟨hrun.capacity_eq.trans hstep.capacity_eq,
      hrun.bytesPerToken_eq.trans hstep.bytesPerToken_eq, hstep.used_le.trans hrun.used_le⟩

theorem allocate_full_later {ops : List KvOp} (hops : ∀ op ∈ ops, op.isPlain)
    (hquota : (run kvStep c ops).quotaManager = none)
    (hfull : c.capacityBytes < c.usedBytes + c.neededBytes seqLen)
    (hword : NoOverflow (run kvStep c ops) seqLen) :
    ¬ ∃ id, ((run kvStep c ops).allocate seqLen now systemNanos).1 = .ok id := by
  have hgrown := grown_run (c := c) hops
  have hneeded : (run kvStep c ops).neededBytes seqLen = c.neededBytes seqLen := by
    simp only [KvCache.neededBytes, hgrown.bytesPerToken_eq]
  have hlt : (run kvStep c ops).usedBytes + (run kvStep c ops).neededBytes seqLen < 2 ^ 64 := hword
  rw [allocate_ok_iff hquota (by omega), KvCache.FitsBehind, wrap64_of_lt hlt, hgrown.capacity_eq]
  have hused := hgrown.used_le
  omega

theorem allocate_full_emptied : ¬ ∃ id, ((run kvStep (kvStep (.new (2 * bytesPerMb))
    (.allocate 100 0 0)) [.free 1]).allocate 100 0 0).1 = .ok id :=
  allocate_full_later (by decide) rfl (by decide) (by decide)

end BumpPointer

end AdapterOS.Kv
