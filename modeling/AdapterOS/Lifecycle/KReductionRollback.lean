import AdapterOS.Lifecycle.KReduction

/-! What is left after a K reduction that failed. The rollback promotes each evicted adapter once,
from wherever it was evicted. -/
namespace AdapterOS.Lifecycle

open Library

def AdapterHeatRecord.evicted (r : AdapterHeatRecord) : AdapterHeatRecord :=
  { r with state := .unloaded, memoryBytes := 0 }

theorem AdapterHeatRecord.evicted_evicted (r : AdapterHeatRecord) :
    r.evicted.evicted = r.evicted := rfl

theorem saysNotLoaded_message (s : String) :
    saysNotLoaded (.lifecycle (s ++ " not loaded")) = true := by
  have hword : " not loaded" = " " ++ "not loaded" := by decide
  have hdisplay : (AosError.lifecycle (s ++ " not loaded")).display =
      ("Lifecycle error: " ++ (s ++ " ")) ++ "not loaded" := by
    calc (AosError.lifecycle (s ++ " not loaded")).display
        = "Lifecycle error: " ++ (s ++ (" " ++ "not loaded")) :=
          congrArg (fun w => "Lifecycle error: " ++ (s ++ w)) hword
      _ = "Lifecycle error: " ++ ((s ++ " ") ++ "not loaded") :=
          congrArg ("Lifecycle error: " ++ ·) String.append_assoc.symm
      _ = ("Lifecycle error: " ++ (s ++ " ")) ++ "not loaded" := String.append_assoc.symm
  have hlist := (congrArg String.toList hdisplay).trans String.toList_append
  have hinfix : "not loaded".toList <:+:
      ("Lifecycle error: " ++ (s ++ " ")).toList ++ "not loaded".toList :=
    (List.suffix_append _ _).isInfix
  exact decide_eq_true (hlist ▸ hinfix)

theorem unloadAdapter_result (loaded : HashSet UInt16) (id : UInt16) :
    (unloadAdapter loaded id).2 = .ok () ∨
      ∃ err, (unloadAdapter loaded id).2 = .error err ∧ saysNotLoaded err = true := by
  unfold unloadAdapter
  cases loaded.get? id with
  | some _ => exact Or.inl rfl
  | none => exact Or.inr ⟨_, rfl, saysNotLoaded_message _⟩

namespace LifecycleManager

variable {F : Type*} {m : LifecycleManager F} {o : Outcomes} {n : Nat} {id : UInt16}
  {r : AdapterHeatRecord} {ids : List UInt16}

def pins (m : LifecycleManager F) (id : UInt16) : Option Bool := (m.states.get? id).map (·.pinned)

theorem evictAdapter_absent (h : m.states.get? id = none) :
    m.evictAdapter id o n = (m, .ok ()) := by
  simp only [evictAdapter, h]

theorem evictAdapter_pinned (h : m.states.get? id = some r) (hp : r.pinned = true) :
    m.evictAdapter id o n =
      (m, .error (.lifecycle ("Cannot evict pinned adapter: " ++ r.adapterId))) := by
  simp only [evictAdapter, h, hp, if_true]

theorem evictAdapter_unpinned (h : m.states.get? id = some r) (hp : r.pinned = false) :
    m.evictAdapter id o n =
      ({ m with loaded := (unloadAdapter m.loaded id).1 }.put id r.evicted, o.log n) := by
  unfold evictAdapter
  simp only [h]
  rw [if_neg (by rw [hp]; exact Bool.false_ne_true)]
  rcases unloadAdapter_result m.loaded id with hok | ⟨err, herr, hmessage⟩
  · rw [hok]
    rfl
  · rw [herr]
    simp only [hmessage, if_true]
    rfl

theorem pins_put_evicted (h : m.states.get? id = some r) (loaded : HashSet UInt16) :
    pins ({ m with loaded := loaded }.put id r.evicted) = m.pins := by
  funext j
  unfold pins
  rw [get?_put]
  split_ifs with hj
  · rw [hj, h]
    rfl
  · rfl

/-- The adapters whose eviction returned without an error, up to the first that did not. -/
def evictedOk (pins : UInt16 → Option Bool) (o : Outcomes) : Nat → List UInt16 → List UInt16
  | _, [] => []
  | n, id :: ids =>
    match pins id with
    | none => id :: evictedOk pins o (n + 1) ids
    | some true => []
    | some false =>
      if (o.telemetry n).isSome then [] else id :: evictedOk pins o (n + 1) ids

/-- The adapters whose record was set to unloaded; the event of the last may have failed. -/
def evictedAny (pins : UInt16 → Option Bool) (o : Outcomes) : Nat → List UInt16 → List UInt16
  | _, [] => []
  | n, id :: ids =>
    match pins id with
    | none => evictedAny pins o (n + 1) ids
    | some true => []
    | some false =>
      id :: if (o.telemetry n).isSome then [] else evictedAny pins o (n + 1) ids

theorem mem_evictedAny {pins : UInt16 → Option Bool} (h : id ∈ evictedOk pins o n ids)
    (hthere : pins id ≠ none) : id ∈ evictedAny pins o n ids := by
  induction ids generalizing n with
  | nil => cases h
  | cons j ids ih => grind [evictedOk, evictedAny]

/-- What the evictions leave: which of them succeeded, K, and the records. -/
structure Unloaded (m m' : LifecycleManager F) (succeeded any : List UInt16)
    (unloaded : List UInt16) : Prop where
  succeeded_eq : unloaded = succeeded
  currentK_eq : m'.currentK = m.currentK
  states_eq : ∀ j, m'.states.get? j =
    (m.states.get? j).map fun r => if j ∈ any then r.evicted else r

theorem map_evicted_put (hget : m.states.get? id = some r) (loaded : HashSet UInt16)
    (any : List UInt16) (j : UInt16) :
    (({ m with loaded := loaded }.put id r.evicted).states.get? j).map
        (fun r : AdapterHeatRecord => if j ∈ any then r.evicted else r) =
      (m.states.get? j).map fun r => if j ∈ id :: any then r.evicted else r := by
  rw [get?_put]
  by_cases hj : j = id
  · subst j
    simp [hget, AdapterHeatRecord.evicted_evicted]
  · simp [hj]

theorem unloadAll_spec (o : Outcomes) (n : Nat) (m : LifecycleManager F) (ids : List UInt16) :
    Unloaded m (unloadAll o n m ids).1 (evictedOk m.pins o n ids) (evictedAny m.pins o n ids)
      (unloadAll o n m ids).2.1 := by
  induction ids generalizing n m with
  | nil => exact ⟨rfl, rfl, fun j => by simp [unloadAll, evictedAny]⟩
  | cons id ids ih =>
    cases hget : m.states.get? id with
    | none =>
      have hpins : m.pins id = none := by simp [pins, hget]
      obtain ⟨hok, hk, hstates⟩ := ih (n + 1) m
      simp only [unloadAll, evictAdapter_absent hget, evictedOk, evictedAny, hpins]
      exact ⟨by rw [hok], hk, hstates⟩
    | some r =>
      have hpins : m.pins id = some r.pinned := by simp [pins, hget]
      cases hpinned : r.pinned with
      | true =>
        simp only [unloadAll, evictAdapter_pinned hget hpinned, evictedOk, evictedAny, hpins,
          hpinned]
        exact ⟨rfl, rfl, fun j => by simp⟩
      | false =>
        have hevict := evictAdapter_unpinned (o := o) (n := n) hget hpinned
        cases htelemetry : o.telemetry n with
        | some err =>
          have hlog : o.log n = .error err := by simp [Outcomes.log, htelemetry]
          simp only [unloadAll, hevict, hlog, evictedOk, evictedAny, hpins, hpinned, htelemetry,
            Option.isSome_some, if_true]
          refine ⟨rfl, rfl, fun j => ?_⟩
          rw [← map_evicted_put hget (unloadAdapter m.loaded id).1]
          simp
        | none =>
          have hlog : o.log n = .ok () := by simp [Outcomes.log, htelemetry]
          obtain ⟨hok, hk, hstates⟩ :=
            ih (n + 1) ({ m with loaded := (unloadAdapter m.loaded id).1 }.put id r.evicted)
          rw [pins_put_evicted hget] at hok hstates
          simp only [unloadAll, hevict, hlog, evictedOk, evictedAny, hpins, hpinned, htelemetry,
            Option.isSome_none, Bool.false_eq_true, if_false]
          refine ⟨congrArg (id :: ·) hok, hk, fun j => ?_⟩
          rw [hstates j]
          exact map_evicted_put hget _ _ j

section Reloading

def promoteOnce (category : String) (state : AdapterHeatState) : AdapterHeatState :=
  if state.canPromote category then state.promote.getD state else state

/-- The consistency check and the database let the call through. -/
structure Smooth (o : Outcomes) : Prop where
  ready : o.readiness = .ready
  persisted : o.persist = none

theorem promotion_eq (r : AdapterHeatRecord) : promotion r = .ok (promoteOnce r.category r.state) ∨
      ((∃ err, promotion r = .error err) ∧ promoteOnce r.category r.state = r.state) := by
  grind [promotion, promoteOnce]

theorem promoteAdapter_smooth (h : Smooth o) (hget : m.states.get? id = some r) :
    (m.promoteAdapter id o).1.currentK = m.currentK ∧ ∀ j, (m.promoteAdapter id o).1.states.get? j =
        if j = id then some { r with state := promoteOnce r.category r.state }
        else m.states.get? j := by
  have hfind : m.find id = .ok r := by simp only [find, hget]
  have hready : o.ensureSqlKvReady r.adapterId = .ok () := by
    simp only [Outcomes.ensureSqlKvReady, h.ready]
  have hpersisted : o.persisted "Failed to persist adapter promotion: " = .ok () := by
    simp only [Outcomes.persisted, h.persisted]
  rcases promotion_eq r with hstate | ⟨⟨err, herr⟩, hsame⟩
  · have hcall : m.promoteAdapter id o =
        (m.put id { r with state := promoteOnce r.category r.state }, o.log 0) := by
      simp only [promoteAdapter, hfind, bind, Except.bind, hstate, hready, hpersisted]
      rfl
    rw [hcall]
    exact ⟨rfl, fun j => get?_put _ _ _ _⟩
  · have hcall : m.promoteAdapter id o = (m, .error err) := by
      simp only [promoteAdapter, hfind, bind, Except.bind, herr]
      rfl
    rw [hcall, hsame]
    refine ⟨rfl, ?_⟩
    intro j
    by_cases hj : j = id
    · rw [hj, if_pos rfl, hget]
    · rw [if_neg hj]

theorem reloadAll_spec {reloads : Nat → Outcomes} (h : ∀ n, Smooth (reloads n)) (n : Nat)
    (m : LifecycleManager F) (ids : List UInt16) :
    (reloadAll reloads n m ids).currentK = m.currentK ∧
      ∀ j, (reloadAll reloads n m ids).states.get? j = (m.states.get? j).map fun r =>
        { r with state := (promoteOnce r.category)^[ids.count j] r.state } := by
  induction ids generalizing n m with
  | nil => exact ⟨rfl, fun j => by simp [reloadAll]⟩
  | cons id ids ih =>
    cases hget : m.states.get? id with
    | none => grind [reloadAll]
    | some r =>
      obtain ⟨hk₁, hstates₁⟩ := promoteAdapter_smooth (h n) hget
      obtain ⟨hk, hstates⟩ := ih (n + 1) (m.promoteAdapter id (reloads n)).1
      simp only [reloadAll, hget]
      refine ⟨hk.trans hk₁, ?_⟩
      intro j
      rw [hstates j, hstates₁ j]
      by_cases hj : j = id
      · subst j
        rw [if_pos rfl, hget, List.count_cons_self]
        rfl
      · rw [if_neg hj, List.count_cons_of_ne (Ne.symm hj)]

end Reloading

section Pinned

variable {i : UInt16}

theorem keeps_unloadAll : Keeps i m (unloadAll o n m ids).1 := by
  induction ids generalizing n m with
  | nil => exact Keeps.refl i m
  | cons id ids ih =>
    have hone : Keeps i m (m.evictAdapter id o n).1 := keeps_evictAdapter n
    grind [unloadAll, Keeps.trans]

theorem keeps_reloadAll {reloads : Nat → Outcomes} : Keeps i m (reloadAll reloads n m ids) := by
  induction ids generalizing n m with
  | nil => exact Keeps.refl i m
  | cons id ids ih =>
    have hone : Keeps i m (m.promoteAdapter id (reloads n)).1 := keeps_promoteAdapter
    grind [reloadAll, Keeps.trans]

theorem keeps_executeKReduction {o : ReductionOutcomes} {response : KReductionResponse} :
    Keeps i m (m.executeKReduction o response).1 := by
  have hunload : Keeps i m (unloadAll o.evictions 0 m response.adaptersToUnload).1 := keeps_unloadAll
  unfold executeKReduction
  split
  · rename_i he
    rw [he] at hunload
    refine Keeps.trans ?_ keeps_reloadAll
    exact ⟨hunload.held, hunload.loaded⟩
  · rename_i he
    rw [he] at hunload
    exact ⟨hunload.held, hunload.loaded⟩

end Pinned

section Failure

variable {response : KReductionResponse} {outcomes : ReductionOutcomes} {err : AosError}

def Untouched (m m' : LifecycleManager F) : Prop :=
  m'.currentK = m.currentK ∧
    ∀ id, (m'.states.get? id).map (·.state) = (m.states.get? id).map (·.state)

/-- Every adapter that is evicted before the failure is in the state to which as many promotions
from nothing lead as there are evictions of it that succeeded. -/
def Restorable (m : LifecycleManager F) (o : Outcomes) (ids : List UInt16) : Prop :=
  ∀ id ∈ evictedAny m.pins o 0 ids, ∀ r, m.states.get? id = some r →
    r.state = (promoteOnce r.category)^[(evictedOk m.pins o 0 ids).count id] .unloaded

theorem executeKReduction_failed (hreloads : ∀ n, Smooth (outcomes.reloads n))
    (hfailed : (m.executeKReduction outcomes response).2 = .error err) :
    (m.executeKReduction outcomes response).1.currentK = m.currentK ∧
      ∀ j, ((m.executeKReduction outcomes response).1.states.get? j).map (·.state) =
        (m.states.get? j).map fun r =>
          if j ∈ evictedAny m.pins outcomes.evictions 0 response.adaptersToUnload then
            (promoteOnce r.category)^[(evictedOk m.pins outcomes.evictions 0
              response.adaptersToUnload).count j] .unloaded
          else r.state := by
  have hspec := unloadAll_spec outcomes.evictions 0 m response.adaptersToUnload
  unfold executeKReduction at hfailed ⊢
  rcases hrun : unloadAll outcomes.evictions 0 m response.adaptersToUnload with ⟨m', done, result⟩
  rw [hrun] at hspec hfailed
  cases result with
  | ok _ => cases hfailed
  | error err' =>
    obtain ⟨hdone, hk, hstates⟩ := hspec
    simp only at hdone hk hstates ⊢
    obtain ⟨hk', hstates'⟩ := reloadAll_spec hreloads 0 { m' with currentK := m.currentK }
      done.reverse
    refine ⟨hk', ?_⟩
    intro j
    rw [rollbackKReduction, hstates' j]
    change ((m'.states.get? j).map _).map _ = _
    rw [hstates j, List.count_reverse, hdone]
    cases hget : m.states.get? j with
    | none => rfl
    | some r =>
      simp only [Option.map_some, Option.some.injEq]
      by_cases hany : j ∈ evictedAny m.pins outcomes.evictions 0 response.adaptersToUnload
      · rw [if_pos hany, if_pos hany]
        rfl
      · have hnone : (evictedOk m.pins outcomes.evictions 0
            response.adaptersToUnload).count j = 0 := by grind [mem_evictedAny, pins]
        rw [if_neg hany, if_neg hany, hnone]
        rfl

/-- A failed reduction leaves no trace exactly if each adapter it had evicted was where the
promotions of the rollback end. -/
theorem failed_kReduction_untouched_iff (hreloads : ∀ n, Smooth (outcomes.reloads n))
    (hfailed : (m.executeKReduction outcomes response).2 = .error err) :
    Untouched m (m.executeKReduction outcomes response).1 ↔
      Restorable m outcomes.evictions response.adaptersToUnload := by
  obtain ⟨hk, hstates⟩ := executeKReduction_failed hreloads hfailed
  constructor
  · rintro ⟨-, hsame⟩ id hany r hget
    have hid := (hsame id).symm.trans (hstates id)
    rw [hget] at hid
    simpa [hany] using hid
  · intro hrestorable
    refine ⟨hk, ?_⟩
    intro id
    rw [hstates id]
    cases hget : m.states.get? id with
    | none => rfl
    | some r =>
      simp only [Option.map_some, Option.some.injEq]
      split_ifs with hany
      · exact (hrestorable id hany r hget).symm
      · rfl

/-- An adapter in a given state, and a pinned one. -/
def besidePinned (state : AdapterHeatState) : LifecycleManager ℚ where
  states := AList.insert 1 { adapterId := "a", adapterIdx := 1, state } (AList.insert 2
    { adapterId := "b", adapterIdx := 2, state := .resident, pinned := true } ∅)
  policy := .fromManifest .exact
  loaded := ∅
  currentK := 4
  activationTracker := .new 200

def unloadBoth : KReductionResponse := .approve "r" 2 [1, 2] 2097152 ""

def calmReduction : ReductionOutcomes := ⟨calm, fun _ => calm⟩

theorem failed_kReduction_untouched_cold : Untouched (besidePinned .cold)
      ((besidePinned .cold).executeKReduction calmReduction unloadBoth).1 := by
  refine (failed_kReduction_untouched_iff (fun _ => ⟨rfl, rfl⟩) rfl).mpr ?_
  intro id hany r hget
  have hevicted : evictedAny (besidePinned .cold).pins calmReduction.evictions 0
      unloadBoth.adaptersToUnload = [1] := rfl
  rw [hevicted, List.mem_singleton] at hany
  subst id
  cases hget
  rfl

/-- A hot adapter comes back cold. -/
theorem failed_kReduction_cools :
    ((besidePinned .hot).executeKReduction calmReduction unloadBoth).2 =
        .error (.lifecycle "Cannot evict pinned adapter: b") ∧
      ¬ Untouched (besidePinned .hot)
        ((besidePinned .hot).executeKReduction calmReduction unloadBoth).1 := by
  refine ⟨rfl, ?_⟩
  rintro ⟨-, hsame⟩
  have hcold :
      (((besidePinned .hot).executeKReduction calmReduction unloadBoth).1.states.get? 1).map
        (·.state) = some .cold := by
    decide
  have hhot := hsame 1
  rw [hcold] at hhot
  cases hhot

end Failure

end LifecycleManager

end AdapterOS.Lifecycle
