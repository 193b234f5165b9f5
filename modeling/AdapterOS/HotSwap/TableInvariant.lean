import AdapterOS.HotSwap.TableSpec

/-! Facts that hold in every state the table's own calls can reach, one call after another. -/
namespace AdapterOS.HotSwap

open Library AdapterTable

variable {t : AdapterTable}

/-- The three layers agree, and the saved stack is the current one or the one before it. -/
structure Coherent (t : AdapterTable) : Prop where
  generation : t.store.current.generation = t.currentStack
  index : IndexOf t.active t.store.current.entries
  saved : ∀ s, t.rollbackState = some s →
    (s.generation = t.currentStack ∧ s.active = t.active) ∨ s.generation + 1 = t.currentStack

theorem indexOf_empty : IndexOf ∅ ∅ :=
  ⟨fun _ _ h => by simp at h, fun _ _ h => by simp at h, fun _ _ _ _ h => by simp at h⟩

theorem coherent_new (identity : AdapterCacheIdentity) : Coherent (.new identity) :=
  ⟨rfl, indexOf_empty, fun _ h => by simp [AdapterTable.new] at h⟩

theorem coherent_saveRollback (h : Coherent t) : Coherent t.saveRollback := by
  refine ⟨h.generation, h.index, ?_⟩
  intro s hs
  cases hs
  exact Or.inl ⟨rfl, rfl⟩

theorem coherent_swap (h : Coherent t) (addIds removeIds : List AdapterId) :
    Coherent (t.swap addIds removeIds).2 := by
  rcases swap_cases t addIds removeIds with ⟨_, he⟩ | ⟨_, hi⟩
  · rw [he]
    exact coherent_saveRollback h
  · obtain ⟨entries, hs, hindex, _⟩ := hi.store_eq
    have hlt : t.saveRollback.store.current.generation < t.saveRollback.currentStack + 1 := by
      have hg : t.saveRollback.store.current.generation = t.saveRollback.currentStack :=
        h.generation
      omega
    have hcur := AdapterStore.install_current_of_lt entries hlt
    refine ⟨by rw [hs, hcur, hi.currentStack_eq], by rwa [hs, hcur, hi.active_eq], ?_⟩
    intro s hr
    rw [hi.rollbackState_eq] at hr
    cases hr
    exact Or.inr hi.currentStack_eq.symm

theorem coherent_rollback (h : Coherent t) : Coherent t.rollback.2 := by
  cases hr : t.rollbackState with
  | none => rwa [rollback_none hr]
  | some s =>
    obtain ⟨_, hres⟩ := rollback_some hr
    obtain ⟨entries, hs, hindex, _⟩ := hres.store_eq
    refine ⟨?_, ?_, ?_⟩
    · rw [hs, hres.currentStack_eq]
      rfl
    · rw [hs, hres.active_eq]
      exact hindex
    · intro s' hs'
      simp [hres.rollbackState_eq] at hs'

theorem incRef_frame (t : AdapterTable) (id : AdapterId) :
    ∃ h, t.incRef id = { t with heap := h } := by
  unfold AdapterTable.incRef
  cases t.refcounts.get? id with
  | none => exact ⟨t.heap, rfl⟩
  | some rc => exact ⟨_, rfl⟩

theorem decRef_frame (t : AdapterTable) (id : AdapterId) :
    ∃ h, (t.decRef id).2 = { t with heap := h } := by
  unfold AdapterTable.decRef
  cases t.refcounts.get? id with
  | none => exact ⟨t.heap, rfl⟩
  | some rc => exact ⟨_, rfl⟩

theorem tableStep_cases (t : AdapterTable) (op : TableOp) :
    (∃ staged refcounts heap, tableStep t op = { t with staged, refcounts, heap }) ∨
      (∃ addIds removeIds, op = .swap addIds removeIds) ∨ op = .rollback := by
  cases op with
  | preload id hash vramMb now => exact .inl (preload_frame t id hash hash vramMb none now)
  | incRef id => exact .inl ⟨_, _, incRef_frame t id⟩
  | decRef id => exact .inl ⟨_, _, decRef_frame t id⟩
  | swap addIds removeIds => exact .inr (.inl ⟨addIds, removeIds, rfl⟩)
  | rollback => exact .inr (.inr rfl)

theorem coherent_step (op : TableOp) (h : Coherent t) : Coherent (tableStep t op) := by
  rcases tableStep_cases t op with ⟨staged, rc, heap, he⟩ | ⟨addIds, removeIds, rfl⟩ | rfl
  · rw [he]
    exact ⟨h.generation, h.index, h.saved⟩
  · exact coherent_swap h addIds removeIds
  · exact coherent_rollback h

/-- What eviction, failure cleanup, retirement and reconfiguration may change between calls. -/
structure Housekeeping where
  staged : AdapterMap
  refcounts : HashMap AdapterId Cell
  heap : Heap
  retiredStacks : List Stack
  retryCounts : HashMap Nat Nat
  cacheIdentity : AdapterCacheIdentity
  adapterCacheBudgetBytes : Option Nat

def AdapterTable.keepHouse (t : AdapterTable) (k : Housekeeping) : AdapterTable :=
  { t with staged := k.staged, refcounts := k.refcounts, heap := k.heap,
           retiredStacks := k.retiredStacks, retryCounts := k.retryCounts,
           cacheIdentity := k.cacheIdentity,
           adapterCacheBudgetBytes := k.adapterCacheBudgetBytes }

/-- States reachable by the table's calls with any housekeeping in between. -/
inductive Reachable : AdapterTable → Prop where
  | new (identity : AdapterCacheIdentity) : Reachable (.new identity)
  | step (op : TableOp) {t : AdapterTable} : Reachable t → Reachable (tableStep t op)
  | housekeeping (k : Housekeeping) {t : AdapterTable} : Reachable t → Reachable (t.keepHouse k)

theorem coherent_reachable (h : Reachable t) : Coherent t := by
  induction h with
  | new identity => exact coherent_new identity
  | step op _ ih => exact coherent_step op ih
  | housekeeping k _ ih => exact ⟨ih.generation, ih.index, ih.saved⟩

def testIdentity : AdapterCacheIdentity := ⟨none, "unknown", "0.1.0", none, none⟩

def tableAfter (identity : AdapterCacheIdentity) (ops : List TableOp) : AdapterTable :=
  run tableStep (.new identity) ops

theorem reachable_tableAfter (identity : AdapterCacheIdentity) (ops : List TableOp) :
    Reachable (tableAfter identity ops) :=
  run_invariant (fun _ op h => h.step op) (.new identity) ops

theorem coherent_tableAfter (identity : AdapterCacheIdentity) (ops : List TableOp) :
    Coherent (tableAfter identity ops) :=
  coherent_reachable (reachable_tableAfter identity ops)

end AdapterOS.HotSwap
