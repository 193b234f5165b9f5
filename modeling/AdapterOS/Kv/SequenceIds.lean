import AdapterOS.Kv.CacheSpec
import AdapterOS.Library.Run

/-! Sequence ids held across invalidations: which ids were handed out, which of them have gone
stale, and what a stale id can still reach. -/
namespace AdapterOS.Kv

open Library

/-- The cache with every id it has returned and every id that was invalidated since. -/
structure IdRun where
  cache : KvCache
  issued : List SequenceId
  stale : List SequenceId

def IdRun.new (cache : KvCache) : IdRun := ⟨cache, [], []⟩

/-- The id an operation returns. -/
def returned (c : KvCache) : KvOp → List SequenceId
  | .allocate seqLen now systemNanos => (c.allocate seqLen now systemNanos).1.toOption.toList
  | .allocateWithGuard seqLen generation now systemNanos =>
    ((c.allocateWithGuard seqLen generation now systemNanos).1.toOption.map (·.sequenceId)).toList
  | _ => []

def clears (c : KvCache) : KvOp → Bool
  | .allocateWithGuard _ generation _ _ | .ensureCacheCoherence generation =>
    generation ≠ c.stackGeneration
  | .zeroize | .resetAll | .zeroizeAll => true
  | _ => false

def invalidated (c : KvCache) (op : KvOp) : List SequenceId :=
  if clears c op then c.allocations.keys
  else c.allocations.keys.filter (· ∉ (kvStep c op).allocations)

def idStep (s : IdRun) (op : KvOp) : IdRun :=
  ⟨kvStep s.cache op, s.issued ++ returned s.cache op, s.stale ++ invalidated s.cache op⟩

/-- A stale id names nothing, freeing it is refused and harmless, and guards are live. -/
structure IdsSound (s : IdRun) : Prop where
  stale_dead : ∀ id ∈ s.stale, id ∉ s.cache.allocations
  stale_free : ∀ id ∈ s.stale, (s.cache.free id).1.toOption = none ∧
    (s.cache.free id).2.allocations = s.cache.allocations
  guards_live : ∀ id ∈ s.cache.activeGuards, id ∈ s.cache.allocations

/-- An id is handed out only above every id handed out before, and `zeroize` runs only without
active guards. -/
def IdGuard (s : IdRun) : KvOp → Prop
  | .allocate _ _ _ => ∀ id ∈ s.issued, id < s.cache.nextSeqId
  | .allocateWithGuard _ generation _ _ =>
    ∀ id ∈ s.issued, id < (s.cache.ensureCacheCoherence generation).2.nextSeqId
  | .zeroize => s.cache.activeGuards.keys = []
  | _ => True

instance (s : IdRun) : (op : KvOp) → Decidable (IdGuard s op)
  | .allocate _ _ _ => inferInstanceAs (Decidable (∀ id ∈ s.issued, id < s.cache.nextSeqId))
  | .allocateWithGuard _ generation _ _ => inferInstanceAs
      (Decidable (∀ id ∈ s.issued, id < (s.cache.ensureCacheCoherence generation).2.nextSeqId))
  | .zeroize => inferInstanceAs (Decidable (s.cache.activeGuards.keys = []))
  | .free _ | .drainActiveSequences _ | .setGeneration _ | .ensureCacheCoherence _
  | .zeroizeSequence _ | .resetAll | .zeroizeAll | .quota _ => inferInstanceAs (Decidable True)

/-- What carries the soundness of ids. -/
structure Ids (c : KvCache) (issued stale : List SequenceId) : Prop where
  live_issued : ∀ id ∈ c.allocations, id ∈ issued
  guards_live : ∀ id ∈ c.activeGuards, id ∈ c.allocations
  stale_issued : ∀ id ∈ stale, id ∈ issued
  stale_dead : ∀ id ∈ stale, id ∉ c.allocations

variable {c c' : KvCache} {issued stale gone : List SequenceId} {id : SequenceId}

section Steps

/-- Allocations only go away, and guards that were on live sequences still are. -/
structure Shrinks (c c' : KvCache) : Prop where
  live : ∀ id ∈ c'.allocations, id ∈ c.allocations
  guards : (∀ id ∈ c.activeGuards, id ∈ c.allocations) →
    ∀ id ∈ c'.activeGuards, id ∈ c'.allocations

theorem ids_shrink (h : Ids c issued stale) (hs : Shrinks c c') : Ids c' issued stale :=
  ⟨fun id hid => h.live_issued id (hs.live id hid), hs.guards h.guards_live, h.stale_issued,
    fun id hid hl => h.stale_dead id hid (hs.live id hl)⟩

theorem ids_stale (h : Ids c issued stale) (hgone : ∀ id ∈ gone, id ∈ issued ∧ id ∉ c.allocations) :
    Ids c issued (stale ++ gone) := by
  refine ⟨h.live_issued, h.guards_live, ?_, ?_⟩
  · obtain ⟨⟩ := h
    grind
  · obtain ⟨⟩ := h
    grind

theorem ids_place (h : Ids c issued stale) (hfresh : ∀ id ∈ issued, id < c.nextSeqId)
    (required : Nat) : Ids (c.place required) (issued ++ [c.nextSeqId]) stale := by
  have hmem : ∀ id, id ∈ (c.place required).allocations ↔ id = c.nextSeqId ∨ id ∈ c.allocations :=
    fun id => AList.mem_insert _
  refine ⟨?_, ?_, ?_, ?_⟩
  · obtain ⟨⟩ := h
    grind
  · intro id hid
    exact (hmem id).mpr (Or.inr (h.guards_live id hid))
  · intro id hid
    exact List.mem_append_left _ (h.stale_issued id hid)
  · obtain ⟨⟩ := h
    grind

theorem ids_guard (h : Ids c issued stale) (hl : id ∈ c.allocations) (generation : Nat) :
    Ids { c with activeGuards := c.activeGuards.insert id generation } issued stale := by
  refine ⟨h.live_issued, ?_, h.stale_issued, h.stale_dead⟩
  intro j hj
  rcases (AList.mem_insert _).mp hj with rfl | hg
  · exact hl
  · exact h.guards_live j hg

theorem free_allocations (c : KvCache) (id : SequenceId) :
    ∀ j, j ∈ (c.free id).2.allocations ↔ j ≠ id ∧ j ∈ c.allocations := by
  intro j
  cases ha : c.allocations.get? id with
  | none => grind [KvCache.free_none, AList.get?_eq_none]
  | some a =>
    obtain ⟨q, hq⟩ := KvCache.free_some ha
    rw [hq]
    exact AList.mem_erase

theorem free_guards (c : KvCache) (id : SequenceId) :
    (c.free id).2.activeGuards = c.activeGuards.erase id := by
  cases ha : c.allocations.get? id with
  | none => rw [KvCache.free_none ha]
  | some a =>
    obtain ⟨q, hq⟩ := KvCache.free_some ha
    rw [hq]

theorem shrinks_free (c : KvCache) (id : SequenceId) : Shrinks c (c.free id).2 := by
  refine ⟨fun j hj => ((free_allocations c id j).mp hj).2, ?_⟩
  intro h j hj
  rw [free_guards] at hj
  obtain ⟨hne, hg⟩ := AList.mem_erase.mp hj
  exact (free_allocations c id j).mpr ⟨hne, h j hg⟩

theorem freeAll_allocations (c : KvCache) (ids : List SequenceId) :
    ∀ j ∈ (c.freeAll ids).allocations, j ∈ c.allocations := by
  induction ids generalizing c with
  | nil => exact fun j hj => hj
  | cons id ids ih =>
    intro j hj
    exact ((free_allocations c id j).mp (ih (c.free id).2 j hj)).2

theorem shrinks_drain (c : KvCache) (o : Iteration SequenceId) :
    Shrinks c (c.drainActiveSequences o).2 := by
  unfold KvCache.drainActiveSequences
  dsimp only
  split
  · exact ⟨freeAll_allocations c _, fun _ id hid => absurd hid (AList.notMem_empty id)⟩
  · exact ⟨fun _ hid => hid, fun h => h⟩

theorem shrinks_cleared (ha : c'.allocations = ∅) (hg : c'.activeGuards = ∅) : Shrinks c c' := by
  refine ⟨?_, ?_⟩
  · intro id hid
    exact absurd hid (AList.notMem_of_eq_empty ha)
  · intro _ id hid
    exact absurd hid (AList.notMem_of_eq_empty hg)

theorem shrinks_resetAll (c : KvCache) : Shrinks c c.resetAll := by
  obtain ⟨k, v, q, hc⟩ := c.resetAll_frame
  rw [hc]
  exact shrinks_cleared rfl rfl

theorem shrinks_ensure (c : KvCache) (generation : Nat) :
    Shrinks c (c.ensureCacheCoherence generation).2 := by
  unfold KvCache.ensureCacheCoherence
  split
  · have h := shrinks_resetAll c
    exact ⟨h.live, h.guards⟩
  · exact ⟨fun _ hid => hid, fun h => h⟩

theorem shrinks_zeroizeSequence (c : KvCache) (id : SequenceId) :
    Shrinks c (c.zeroizeSequence id).2 := by
  rcases c.zeroizeSequence_cases id with ⟨e, hc⟩ | ⟨k, v, _, hc⟩
  · rw [hc]
    exact ⟨fun _ hid => hid, fun h => h⟩
  · rw [hc]
    have h := shrinks_free { c with kBuffer := k, vBuffer := v } id
    exact ⟨h.live, h.guards⟩

end Steps

section Run

theorem ids_allocate (h : Ids c issued stale) (hfresh : ∀ id ∈ issued, id < c.nextSeqId)
    (seqLen now systemNanos : Nat) :
    Ids (c.allocate seqLen now systemNanos).2
      (issued ++ (c.allocate seqLen now systemNanos).1.toOption.toList) stale := by
  rcases c.allocate_cases seqLen now systemNanos with ⟨e, q, hc⟩ | ⟨required, q, _, _, hc⟩
  · rw [hc]
    change Ids _ (issued ++ []) stale
    rw [List.append_nil]
    exact ids_shrink h ⟨fun _ hid => hid, fun h => h⟩
  · rw [hc]
    have hp := ids_place h hfresh required
    exact ⟨hp.live_issued, hp.guards_live, hp.stale_issued, hp.stale_dead⟩

variable {generation : Nat}

theorem ids_allocateWithGuard (h : Ids c issued stale)
    (hfresh : ∀ id ∈ issued, id < (c.ensureCacheCoherence generation).2.nextSeqId)
    (seqLen now systemNanos : Nat) :
    Ids (c.allocateWithGuard seqLen generation now systemNanos).2
      (issued ++ returned c (.allocateWithGuard seqLen generation now systemNanos)) stale := by
  have ha := ids_allocate (ids_shrink h (shrinks_ensure c generation)) hfresh seqLen now systemNanos
  rcases (c.ensureCacheCoherence generation).2.allocate_cases seqLen now systemNanos with
    ⟨e, q, hc⟩ | ⟨required, q, _, _, hc⟩
  · rw [returned, KvCache.allocateWithGuard_error hc]
    rw [hc] at ha
    exact ha
  · rw [returned, KvCache.allocateWithGuard_ok hc]
    rw [hc] at ha
    exact ids_guard ha (AList.mem_insert _ |>.mpr (Or.inl rfl)) generation

theorem ids_books {op : KvOp} (h : Ids c issued stale) (hg : IdGuard ⟨c, issued, stale⟩ op) :
    Ids (kvStep c op) (issued ++ returned c op) stale := by
  have hshrink : ∀ {c'}, Shrinks c c' → Ids c' (issued ++ []) stale := by
    intro c' hs
    rw [List.append_nil]
    exact ids_shrink h hs
  cases op with
  | allocate seqLen now systemNanos => exact ids_allocate h hg seqLen now systemNanos
  | allocateWithGuard seqLen generation now systemNanos =>
    exact ids_allocateWithGuard h hg seqLen now systemNanos
  | free id => exact hshrink (shrinks_free c id)
  | drainActiveSequences o => exact hshrink (shrinks_drain c o)
  | setGeneration generation => exact hshrink ⟨fun _ hid => hid, fun h => h⟩
  | ensureCacheCoherence generation => exact hshrink (shrinks_ensure c generation)
  | zeroize =>
    apply hshrink
    obtain ⟨k, v, q, hc⟩ := c.zeroize_frame
    simp only [kvStep, hc]
    -- the guards are kept, so there must be none
    exact shrinks_cleared rfl (AList.ext (List.map_eq_nil_iff.mp hg))
  | zeroizeSequence id => exact hshrink (shrinks_zeroizeSequence c id)
  | resetAll => exact hshrink (shrinks_resetAll c)
  | zeroizeAll =>
    apply hshrink
    obtain ⟨k, v, q, hc⟩ := c.zeroizeAll_frame
    simp only [kvStep, hc]
    exact shrinks_cleared rfl rfl
  | quota manager => exact hshrink ⟨fun _ hid => hid, fun h => h⟩

theorem ensure_allocations (hgen : generation ≠ c.stackGeneration) :
    (c.ensureCacheCoherence generation).2.allocations = ∅ := by
  obtain ⟨k, v, q, hc⟩ := c.resetAll_frame
  rw [KvCache.ensureCacheCoherence_changed hgen, hc]
  rfl

theorem allocateWithGuard_reset (hgen : generation ≠ c.stackGeneration)
    (seqLen now systemNanos : Nat)
    (hid : id ∈ (c.allocateWithGuard seqLen generation now systemNanos).2.allocations) :
    id = (c.ensureCacheCoherence generation).2.nextSeqId := by
  have hempty := ensure_allocations hgen
  rcases (c.ensureCacheCoherence generation).2.allocate_cases seqLen now systemNanos with
    ⟨e, q, hc⟩ | ⟨required, q, _, _, hc⟩
  · rw [KvCache.allocateWithGuard_error hc] at hid
    exact absurd hid (AList.notMem_of_eq_empty hempty)
  · rw [KvCache.allocateWithGuard_ok hc] at hid
    rcases (AList.mem_insert _).mp hid with he | hl
    · exact he
    · exact absurd hl (AList.notMem_of_eq_empty hempty)

theorem invalidated_gone {op : KvOp} (h : Ids c issued stale)
    (hg : IdGuard ⟨c, issued, stale⟩ op) (hid : id ∈ invalidated c op) :
    id ∈ c.allocations ∧ id ∉ (kvStep c op).allocations := by
  unfold invalidated at hid
  split at hid
  · rename_i hclear
    have hlive : id ∈ c.allocations := hid
    refine ⟨hlive, ?_⟩
    cases op with
    | allocateWithGuard seqLen generation now systemNanos =>
      intro hid'
      have hgen : generation ≠ c.stackGeneration := of_decide_eq_true hclear
      have he := allocateWithGuard_reset hgen seqLen now systemNanos hid'
      exact absurd (hg id (h.live_issued id hlive)) (by rw [he]; exact lt_irrefl _)
    | ensureCacheCoherence generation =>
      have hgen : generation ≠ c.stackGeneration := of_decide_eq_true hclear
      exact AList.notMem_of_eq_empty (ensure_allocations hgen)
    | zeroize =>
      obtain ⟨k, v, q, hc⟩ := c.zeroize_frame
      exact AList.notMem_of_eq_empty (by simp only [kvStep, hc])
    | resetAll =>
      obtain ⟨k, v, q, hc⟩ := c.resetAll_frame
      exact AList.notMem_of_eq_empty (by simp only [kvStep, hc])
    | zeroizeAll =>
      obtain ⟨k, v, q, hc⟩ := c.zeroizeAll_frame
      exact AList.notMem_of_eq_empty (by simp only [kvStep, hc])
    | _ => cases hclear
  · obtain ⟨hl, hn⟩ := List.mem_filter.mp hid
    exact ⟨hl, of_decide_eq_true hn⟩

theorem ids_step {s : IdRun} {op : KvOp} (h : Ids s.cache s.issued s.stale) (hg : IdGuard s op) :
    Ids (idStep s op).cache (idStep s op).issued (idStep s op).stale := by
  refine ids_stale (ids_books h hg) ?_
  intro id hid
  obtain ⟨hl, hn⟩ := invalidated_gone h hg hid
  exact ⟨List.mem_append_left _ (h.live_issued id hl), hn⟩

theorem ids_created (h : c.Created) : Ids c [] [] := by
  have hempty : c.allocations = ∅ ∧ c.activeGuards = ∅ := by
    cases h <;> exact ⟨rfl, rfl⟩
  refine ⟨?_, ?_, by simp, by simp⟩ <;> grind [AList.notMem_of_eq_empty]

theorem idsSound_of_ids {s : IdRun} (h : Ids s.cache s.issued s.stale) : IdsSound s := by
  refine ⟨h.stale_dead, ?_, h.guards_live⟩
  intro id hid
  rw [KvCache.free_none (AList.get?_eq_none.mpr (h.stale_dead id hid))]
  exact ⟨rfl, rfl⟩

/-- Stale ids stay dead as long as ids are handed out in increasing order. -/
theorem idsSound_of_guarded (hc : c.Created) (ops : List KvOp)
    (hg : Guarded idStep IdGuard (.new c) ops) : Always idStep IdsSound (.new c) ops :=
  always_of_guarded (I := fun s : IdRun => Ids s.cache s.issued s.stale)
    (fun _ _ h hop => ids_step h hop) (fun _ h => idsSound_of_ids h) (ids_created hc) hg

theorem idsSound_across_zeroize : Always idStep IdsSound (.new (.new (32 * bytesPerMb)))
      [.ensureCacheCoherence 1, .allocateWithGuard 100 1 0 0, .allocate 200 0 0, .free 1,
        .zeroize, .free 2, .allocate 100 0 0, .zeroizeAll, .allocateWithGuard 100 1 0 0,
        .drainActiveSequences .asListed, .allocate 100 0 0, .zeroizeSequence 5, .resetAll] :=
  idsSound_of_guarded (.plain _ _ (by decide)) _ (by decide)

/-- A generation change starts the ids again, so the first holder's id names the second
sequence; and `zeroize` leaves guards behind whose sequences are gone. -/
theorem stale_id_reused : ¬ Always idStep IdsSound (.new (.new (32 * bytesPerMb)))
      [.allocateWithGuard 100 1 0 0, .allocateWithGuard 100 2 0 0] ∧
    ¬ Always idStep IdsSound (.new (.new (32 * bytesPerMb)))
      [.allocateWithGuard 100 1 0 0, .zeroize] := by
  constructor
  · intro h
    have hd := (h.initial (List.prefix_refl _)).stale_dead 1 (by decide)
    revert hd
    decide
  · intro h
    have hl := (h.initial (List.prefix_refl _)).guards_live 1 (by decide)
    revert hl
    decide

end Run

end AdapterOS.Kv
