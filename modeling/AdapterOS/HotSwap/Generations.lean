import AdapterOS.HotSwap.TableInvariant

/-! Generations and the saved stack over whole histories: when a generation names one stack,
and when a refused swap leaves no trace. -/
namespace AdapterOS.HotSwap

open Library AdapterTable

variable {t : AdapterTable} {o : Observed}

/-- The table with the stack handles taken so far, the latest first. -/
structure Observed where
  table : AdapterTable
  seen : List Stack

def Observed.new (identity : AdapterCacheIdentity) : Observed :=
  ⟨.new identity, [(AdapterTable.new identity).getCurrentStackHandle]⟩

def observe (o : Observed) (op : TableOp) : Observed :=
  ⟨tableStep o.table op, (tableStep o.table op).getCurrentStackHandle :: o.seen⟩

theorem observe_eq (o : Observed) (op : TableOp)
    (h : tableStep o.table op = t) : observe o op = ⟨t, t.getCurrentStackHandle :: o.seen⟩ := by
  rw [observe, h]

def AtTop (o : Observed) : Prop := ∀ s ∈ o.seen, s.generation ≤ o.table.currentStack

def SwapAtTop (o : Observed) : TableOp → Prop
  | .swap addIds _ => (∀ id ∈ addIds, id ∈ o.table.staged) → AtTop o
  | _ => True

instance (o : Observed) : Decidable (AtTop o) :=
  inferInstanceAs (Decidable (∀ s ∈ o.seen, s.generation ≤ o.table.currentStack))

instance (o : Observed) : (op : TableOp) → Decidable (SwapAtTop o op)
  | .swap addIds _ =>
    inferInstanceAs (Decidable ((∀ id ∈ addIds, id ∈ o.table.staged) → AtTop o))
  | .preload _ _ _ _ | .rollback | .incRef _ | .decRef _ => inferInstanceAs (Decidable True)

structure History (o : Observed) : Prop where
  current : o.table.getCurrentStackHandle ∈ o.seen
  saved : ∀ s, o.table.rollbackState = some s → s ∈ o.seen
  unique : ∀ s ∈ o.seen, ∀ s' ∈ o.seen, s.generation = s'.generation → s.active = s'.active

theorem history_new (identity : AdapterCacheIdentity) : History (.new identity) := by
  refine ⟨by simp [Observed.new], ?_, ?_⟩
  · intro s hs
    simp [Observed.new, AdapterTable.new] at hs
  · intro s hs s' hs' _
    simp only [Observed.new, List.mem_singleton] at hs hs'
    rw [hs, hs']

theorem history_seen (h : History o) (hc : t.getCurrentStackHandle ∈ o.seen)
    (hs : ∀ s, t.rollbackState = some s → s ∈ o.seen) :
    History ⟨t, t.getCurrentStackHandle :: o.seen⟩ := by
  have hm : ∀ s ∈ t.getCurrentStackHandle :: o.seen, s ∈ o.seen := by
    intro s hs
    rcases List.mem_cons.mp hs with rfl | hs
    · exact hc
    · exact hs
  refine ⟨by simp, fun s hr => by simp [hs s hr], ?_⟩
  intro s hs s' hs'
  exact h.unique s (hm s hs) s' (hm s' hs')

theorem history_fresh (h : History o) (hlt : ∀ s ∈ o.seen, s.generation < t.currentStack)
    (hs : ∀ s, t.rollbackState = some s → s ∈ o.seen) :
    History ⟨t, t.getCurrentStackHandle :: o.seen⟩ := by
  refine ⟨by simp, fun s hr => by simp [hs s hr], ?_⟩
  have hunique := h.unique
  grind [getCurrentStackHandle]

theorem history_swap {addIds removeIds : List AdapterId} (h : History o)
    (hg : SwapAtTop o (.swap addIds removeIds)) :
    History (observe o (.swap addIds removeIds)) := by
  rcases swap_cases o.table addIds removeIds with ⟨_, he⟩ | ⟨hst, hi⟩
  · rw [observe_eq o (.swap addIds removeIds) he]
    apply history_seen (t := o.table.saveRollback) h h.current
    intro s hs
    cases hs
    exact h.current
  · have htop := hg hst
    apply history_fresh h
    · intro s hs
      have hle := htop s hs
      have hcur : (o.table.swap addIds removeIds).2.currentStack = o.table.currentStack + 1 :=
        hi.currentStack_eq
      simp only [tableStep, hcur]
      omega
    · intro s hs
      have hr : (o.table.swap addIds removeIds).2.rollbackState =
          some o.table.getCurrentStackHandle := hi.rollbackState_eq
      simp only [tableStep, hr, Option.some.injEq] at hs
      exact hs ▸ h.current

theorem history_rollback (h : History o) : History (observe o .rollback) := by
  cases hr : o.table.rollbackState with
  | none =>
    rw [observe_eq o .rollback (congrArg Prod.snd (rollback_none hr))]
    exact history_seen h h.current h.saved
  | some s =>
    obtain ⟨_, hres⟩ := rollback_some hr
    rw [observe_eq o .rollback rfl]
    apply history_seen h
    · simp only [tableStep, getCurrentStackHandle, hres.currentStack_eq, hres.active_eq]
      exact h.saved s hr
    · intro s' hs'
      simp [tableStep, hres.rollbackState_eq] at hs'

theorem history_step {op : TableOp} (h : History o) (hg : SwapAtTop o op) :
    History (observe o op) := by
  rcases tableStep_cases o.table op with ⟨staged, rc, heap, he⟩ | ⟨addIds, removeIds, rfl⟩ | rfl
  · rw [observe_eq o op he]
    exact history_seen h h.current h.saved
  · exact history_swap h hg
  · exact history_rollback h

theorem run_observe_table (o : Observed) (ops : List TableOp) :
    (run observe o ops).table = run tableStep o.table ops := by
  induction ops generalizing o with
  | nil => rfl
  | cons op ops ih => exact ih (observe o op)

theorem mem_run_observe {s : Stack} (h : s ∈ o.seen) (ops : List TableOp) :
    s ∈ (run observe o ops).seen := by
  induction ops generalizing o with
  | nil => exact h
  | cons op ops ih => exact ih (by simp [observe, h])

/-- The generation number identifies the stack along a run: whenever two handles carry the
same number, they map the same ids to the same hashes. -/
def GenerationIdentifies (identity : AdapterCacheIdentity) (ops : List TableOp) : Prop :=
  ∀ pre₁ pre₂, pre₁ <+: ops → pre₂ <+: ops →
    (tableAfter identity pre₁).getCurrentStackHandle.generation =
      (tableAfter identity pre₂).getCurrentStackHandle.generation →
    ∀ id, ((tableAfter identity pre₁).getCurrentStackHandle.active.get? id).map (·.hash) =
      ((tableAfter identity pre₂).getCurrentStackHandle.active.get? id).map (·.hash)

/-- No number is issued twice as long as swaps are made at the top only, that is, never after
a rollback has set the generation back. -/
theorem generationIdentifies_of_swapAtTop (identity : AdapterCacheIdentity) (ops : List TableOp)
    (hg : Guarded observe SwapAtTop (.new identity) ops) : GenerationIdentifies identity ops := by
  have hh : Always observe History (.new identity) ops :=
    always_of_guarded (fun _ _ h hs => history_step h hs) (fun _ h => h) (history_new identity) hg
  have hend := hh.initial (List.prefix_refl ops)
  have hseen : ∀ pre, pre <+: ops →
      (tableAfter identity pre).getCurrentStackHandle ∈ (run observe (.new identity) ops).seen := by
    rintro pre ⟨post, rfl⟩
    rw [run_append]
    apply mem_run_observe
    have hc := (hh.initial (List.prefix_append pre post)).current
    rwa [run_observe_table] at hc
  intro pre₁ pre₂ h₁ h₂ he id
  rw [hend.unique _ (hseen pre₁ h₁) _ (hseen pre₂ h₂) he]

theorem generationIdentifies_two_swaps : GenerationIdentifies testIdentity
      [.preload "a" 1 10 0, .preload "b" 2 10 1, .swap ["a"] [], .swap ["b"] ["a"], .rollback] :=
  generationIdentifies_of_swapAtTop _ _ (by decide)

/-- Generation 1 is issued twice: to the stack of `a`, and after a rollback to that of `b`. -/
theorem generation_reissued : ¬ GenerationIdentifies testIdentity
    [.preload "a" 1 10 0, .preload "b" 2 10 1, .swap ["a"] [], .rollback, .swap ["b"] []] := by
  intro h
  have he := h [.preload "a" 1 10 0, .preload "b" 2 10 1, .swap ["a"] []] _ (by simp)
    (List.prefix_refl _) (by decide) "a"
  revert he
  decide

/-- A failed swap is invisible when table and next rollback are as if it had not been tried. -/
structure Invisible (t : AdapterTable) (addIds removeIds : List AdapterId) : Prop where
  active_eq : (t.swap addIds removeIds).2.active = t.active
  currentStack_eq : (t.swap addIds removeIds).2.currentStack = t.currentStack
  store_eq : (t.swap addIds removeIds).2.store = t.store
  staged_eq : (t.swap addIds removeIds).2.staged = t.staged
  retiredStacks_eq : (t.swap addIds removeIds).2.retiredStacks = t.retiredStacks
  rollback_eq : (t.swap addIds removeIds).2.rollback = t.rollback

def SavedIsCurrent (t : AdapterTable) : Prop :=
  ∃ s, t.rollbackState = some s ∧ s.generation = t.currentStack

theorem saveRollback_eq_self (h : Coherent t) (hs : SavedIsCurrent t) : t.saveRollback = t := by
  obtain ⟨s, hr, hg⟩ := hs
  rcases h.saved s hr with ⟨_, ha⟩ | hp
  · have he : t.rollbackState = some ⟨t.currentStack, t.active⟩ := by
      rw [hr, ← hg, ← ha]
    unfold saveRollback
    rw [← he]
  · omega

theorem rollback_saveRollback (t : AdapterTable) : t.saveRollback.rollback.1 = .ok () ∧
      t.saveRollback.rollback.2.currentStack = t.currentStack := by
  obtain ⟨hok, hres⟩ := rollback_some (t := t.saveRollback) rfl
  exact ⟨hok, hres.currentStack_eq⟩

/-- The saved stack is overwritten before the add ids are checked, so only a stack saved at
the current generation survives a refused swap. -/
theorem failed_swap_invisible_iff {t : AdapterTable} (hr : Reachable t)
    (addIds removeIds : List AdapterId) (hfail : ∃ id ∈ addIds, id ∉ t.staged) :
    Invisible t addIds removeIds ↔ SavedIsCurrent t := by
  have hc := coherent_reachable hr
  obtain ⟨_, _, _, he⟩ := swap_failed hfail removeIds
  constructor
  · intro hi
    have hr := hi.rollback_eq
    rw [he] at hr
    obtain ⟨hok, hcur⟩ := rollback_saveRollback t
    rw [hr] at hok hcur
    cases hs : t.rollbackState with
    | none => simp [rollback_none hs] at hok
    | some s =>
      obtain ⟨_, hres⟩ := rollback_some hs
      exact ⟨s, hs, hres.currentStack_eq.symm.trans hcur⟩
  · intro hs
    have hself := saveRollback_eq_self hc hs
    refine ⟨?_, ?_, ?_, ?_, ?_, ?_⟩ <;> rw [he] <;> simp only [hself]

theorem second_failed_swap_invisible :
    Invisible (tableAfter testIdentity [.preload "a" 1 10 0, .swap ["c"] []]) ["c"] [] :=
  (failed_swap_invisible_iff (reachable_tableAfter _ _) _ _ ⟨"c", by decide⟩).mpr ⟨_, rfl, rfl⟩

/-- After one good swap a refused one loses the way back: rollback stays at generation 1. -/
theorem failed_swap_visible :
    ¬ Invisible (tableAfter testIdentity [.preload "a" 1 10 0, .swap ["a"] []]) ["c"] ["a"] := by
  intro h
  have he := congrArg (fun r => r.2.currentStack) h.rollback_eq
  revert he
  decide

end AdapterOS.HotSwap
