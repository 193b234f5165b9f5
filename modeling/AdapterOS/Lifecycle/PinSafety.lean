import AdapterOS.Library.Run
import AdapterOS.Lifecycle.Manager

/-! Pinned adapters stay resident. Every operation but one looks at the pin, or moves an adapter
only upwards; the automatic demotion does neither, and its rule for ephemeral adapters has no
exception. -/
namespace AdapterOS.Lifecycle

open Library

namespace LifecycleManager

variable {F : Type*} {ops : PctOps F} {m m' m'' : LifecycleManager F} {i j : UInt16} {o : Outcomes}
  {r : AdapterHeatRecord}

def Held (i : UInt16) (m : LifecycleManager F) : Prop :=
  ∃ r, m.states.get? i = some r ∧ r.pinned = true ∧ r.state = .resident

/-- An adapter that is held stays so, and in the loader if it is there. -/
structure Keeps (i : UInt16) (m m' : LifecycleManager F) : Prop where
  held : Held i m → Held i m'
  loaded : Held i m → i ∈ m.loaded → i ∈ m'.loaded

theorem Keeps.refl (i : UInt16) (m : LifecycleManager F) : Keeps i m m := ⟨id, fun _ => id⟩

theorem Keeps.trans (h : Keeps i m m') (h' : Keeps i m' m'') : Keeps i m m'' where
  held := fun hm => h'.held (h.held hm)
  loaded := fun hm hi => h'.loaded (h.held hm) (h.loaded hm hi)

theorem Held.pinned (h : Held i m) (hr : m.states.get? i = some r) : r.pinned = true := by
  obtain ⟨r', hr', hpinned, -⟩ := h
  rw [hr, Option.some.injEq] at hr'
  rw [hr']
  exact hpinned

theorem Held.resident (h : Held i m) (hr : m.states.get? i = some r) : r.state = .resident := by
  obtain ⟨r', hr', -, hstate⟩ := h
  rw [hr, Option.some.injEq] at hr'
  rw [hr']
  exact hstate

theorem get?_put (m : LifecycleManager F) (j : UInt16) (r : AdapterHeatRecord) (i : UInt16) :
    (m.put j r).states.get? i = if i = j then some r else m.states.get? i :=
  AList.get?_insert _ _ _ _

theorem held_put_self : Held i (m.put i r) ↔ r.pinned = true ∧ r.state = .resident := by
  unfold Held
  simp [get?_put]

theorem held_put_ne (h : i ≠ j) : Held i (m.put j r) ↔ Held i m := by
  unfold Held
  simp [get?_put, h]

theorem keeps_put (h : i = j → Held i m → r.pinned = true ∧ r.state = .resident) :
    Keeps i m (m.put j r) where
  held := by
    intro hm
    by_cases hij : i = j
    · have hr := h hij hm
      rw [hij]
      exact held_put_self.mpr hr
    · exact (held_put_ne hij).mpr hm
  loaded := fun _ hi => hi

theorem keeps_put_unpinned {s : AdapterHeatRecord} (hr : m.states.get? j = some r)
    (hunpinned : r.pinned = false) : Keeps i m (m.put j s) := by
  refine keeps_put ?_
  intro hij hheld
  rw [hij] at hheld
  have hpinned := hheld.pinned hr
  rw [hunpinned] at hpinned
  cases hpinned

theorem mem_unloadAdapter {loaded : HashSet UInt16} (h : i ≠ j) (hi : i ∈ loaded) :
    i ∈ (unloadAdapter loaded j).1 := by
  unfold unloadAdapter
  cases loaded.get? j with
  | none => exact hi
  | some _ => exact AList.mem_erase.mpr ⟨h, hi⟩

theorem keeps_unload {s : AdapterHeatRecord} (hr : m.states.get? j = some r)
    (hunpinned : r.pinned = false) :
    Keeps i m ({ m with loaded := (unloadAdapter m.loaded j).1 }.put j s) where
  held := (keeps_put_unpinned hr hunpinned).held
  loaded := by
    intro hheld hi
    refine mem_unloadAdapter ?_ hi
    intro hij
    rw [hij] at hheld
    have hpinned := hheld.pinned hr
    rw [hunpinned] at hpinned
    cases hpinned

theorem find_eq_ok (h : m.find j = .ok r) : m.states.get? j = some r := by
  unfold find at h
  cases hget : m.states.get? j with
  | none => simp [hget] at h
  | some s =>
    simp only [hget, Except.ok.injEq] at h
    rw [h]

section Operations

theorem keeps_commit {checked : Except AosError AdapterHeatRecord}
    (h : ∀ r, checked = .ok r → i = j → Held i m → r.pinned = true ∧ r.state = .resident) :
    Keeps i m (m.commit j o checked).1 := by
  unfold commit
  cases checked with
  | error err => exact Keeps.refl i m
  | ok r => exact keeps_put (h r rfl)

theorem pinChecks_held (h : m.pinChecks j o = .ok r) : r.pinned = true ∧ r.state = .resident := by
  obtain ⟨s, -, h⟩ := bind_eq_ok.mp h
  obtain ⟨-, -, h⟩ := bind_eq_ok.mp h
  obtain ⟨-, -, h⟩ := bind_eq_ok.mp h
  obtain ⟨-, -, h⟩ := bind_eq_ok.mp h
  cases h
  exact ⟨rfl, rfl⟩

theorem keeps_pinAdapter : Keeps i m (m.pinAdapter j o).1 :=
  keeps_commit fun _ hr _ _ => pinChecks_held hr

theorem promotion_resident (h : r.state = .resident) (state : AdapterHeatState) :
    promotion r ≠ .ok state := by
  unfold promotion
  rw [h]
  split_ifs <;> simp [AdapterHeatState.promote]

theorem demotion_pinned (now : SystemTime) (h : r.pinned = true) (state : AdapterHeatState) :
    demotion now r ≠ .ok state := by
  unfold demotion
  rw [if_pos h]
  simp

theorem keeps_promoteAdapter : Keeps i m (m.promoteAdapter j o).1 := by
  refine keeps_commit ?_
  intro r hr hij hheld
  obtain ⟨s, hs, hr⟩ := bind_eq_ok.mp hr
  obtain ⟨state, hstate, -⟩ := bind_eq_ok.mp hr
  rw [hij] at hheld
  exact absurd hstate (promotion_resident (hheld.resident (find_eq_ok hs)) state)

theorem keeps_demoteAdapter : Keeps i m (m.demoteAdapter j o).1 := by
  refine keeps_commit ?_
  intro r hr hij hheld
  obtain ⟨s, hs, hr⟩ := bind_eq_ok.mp hr
  obtain ⟨state, hstate, -⟩ := bind_eq_ok.mp hr
  rw [hij] at hheld
  exact absurd hstate (demotion_pinned o.now (hheld.pinned (find_eq_ok hs)) state)

theorem keeps_updateAdapterState {state : AdapterHeatState} (h : i = j → ¬ Held i m) :
    Keeps i m (m.updateAdapterState j o state).1 := by
  grind [updateAdapterState, Keeps.refl, keeps_put]

theorem keeps_autoPromoteAdapter : Keeps i m (m.autoPromoteAdapter j o).1 := by
  unfold autoPromoteAdapter
  cases hnext : m.nextAutoPromotion j with
  | none => exact Keeps.refl i m
  | some state =>
    refine keeps_updateAdapterState ?_
    intro hij hheld
    obtain ⟨⟩ := hheld
    grind [nextAutoPromotion, AdapterHeatState.promote]

theorem keeps_recordAdapterActivation : Keeps i m (m.recordAdapterActivation j o).1 := by
  unfold recordAdapterActivation
  cases hget : m.states.get? j with
  | none => exact Keeps.refl i m
  | some r =>
    have hkeeps : Keeps i m (m.put j (r.recordActivation o.now)) := by
      refine keeps_put ?_
      intro hij hheld
      rw [hij] at hheld
      have hpinned := hheld.pinned hget
      have hresident := hheld.resident hget
      exact ⟨hpinned, hresident⟩
    cases o.poolResult with
    | error err => exact hkeeps
    | ok _ => exact hkeeps

theorem keeps_evictAdapter (n : Nat) : Keeps i m (m.evictAdapter j o n).1 := by
  grind [evictAdapter, Keeps.refl, keeps_unload]

theorem keeps_evictIdle (n : Nat) (updates : List (ActivationUpdate F)) :
    Keeps i m (evictIdle ops o n updates m) := by
  induction updates generalizing n m with
  | nil => exact Keeps.refl i m
  | cons u updates ih =>
    rw [evictIdle]
    split_ifs
    · exact (keeps_evictAdapter n).trans (ih (n + 1))
    · exact ih (n + 1)

theorem keeps_recordRouterDecision (selected : List UInt16) :
    Keeps i m (m.recordRouterDecision o ops selected).1 := by
  have htracker : ∀ tracker, Keeps i m { m with activationTracker := tracker } :=
    fun _ => ⟨id, fun _ => id⟩
  exact (htracker _).trans (keeps_evictIdle 0 _)

theorem keeps_evaluateOne (n : Nat) (metric : AdapterMetrics F) :
    Keeps i m (m.evaluateOne o ops n metric).1 := by
  grind [evaluateOne, Keeps.refl, keeps_put_unpinned]

theorem keeps_evaluateFrom (n : Nat) (metrics : List (AdapterMetrics F)) :
    Keeps i m (evaluateFrom ops o n metrics m).1 := by
  induction metrics generalizing n m with
  | nil => exact Keeps.refl i m
  | cons metric metrics ih =>
    have hone : Keeps i m (m.evaluateOne o ops n metric).1 := keeps_evaluateOne n metric
    rw [evaluateFrom]
    rcases hresult : m.evaluateOne o ops n metric with ⟨m', result⟩
    rw [hresult] at hone
    cases result with
    | error err => exact hone
    | ok _ => exact hone.trans (ih (n + 1))

theorem keeps_reduceK : Keeps i m (m.reduceK o).1 := by
  unfold reduceK
  cases o.log 0 with
  | error err => exact Keeps.refl i m
  | ok _ =>
    dsimp only
    split_ifs
    · cases o.log 1 with
      | error err => exact Keeps.refl i m
      | ok _ => exact ⟨id, fun _ => id⟩
    · cases o.log 1 with
      | error err => exact Keeps.refl i m
      | ok _ => exact Keeps.refl i m

theorem keeps_relieve (candidates : List (UInt16 × AdapterMetrics F))
    (h : ∀ e ∈ candidates, ∀ r, m.states.get? e.1 = some r → r.pinned = false) :
    Keeps i m (relieve ops o candidates m).1 := by
  induction candidates with
  | nil => exact keeps_reduceK
  | cons e candidates ih =>
    obtain ⟨id, metric⟩ := e
    have hrest := ih fun e he => h e (List.mem_cons_of_mem _ he)
    rw [relieve]
    cases hget : m.states.get? id with
    | none => exact hrest
    | some r =>
      have hunpinned := h (id, metric) List.mem_cons_self r hget
      dsimp only
      split_ifs
      · cases o.log 0 with
        | error err => exact keeps_put_unpinned hget hunpinned
        | ok _ => exact keeps_unload hget hunpinned
      · exact hrest

theorem pressureCandidates_unpinned (metrics : List (AdapterMetrics F)) :
    ∀ e ∈ m.pressureCandidates o ops metrics, ∀ r, m.states.get? e.1 = some r →
      r.pinned = false := by
  grind [pressureCandidates, List.mem_mergeSort, Iteration.mem_visit, AList.mem_items,
    Option.map_eq_some_iff]

theorem keeps_handleMemoryPressure (metrics : List (AdapterMetrics F)) :
    Keeps i m (m.handleMemoryPressure o ops metrics).1 :=
  keeps_relieve _ (pressureCandidates_unpinned metrics)

end Operations

section Runs

def StillPinned (i : UInt16) (m : LifecycleManager F) (c : Call F × Outcomes) : Prop :=
  match c.1 with
  | .unpinAdapter j => j = i → (m.unpinAdapter j c.2).2 ≠ .ok ()
  | _ => True

def KeepsLoaded (ops : PctOps F) (i : UInt16) (m : LifecycleManager F) (c : Call F × Outcomes) :
    Prop :=
  i ∈ m.loaded → i ∈ (m.step ops c).loaded

/-- The call is no automatic demotion of the adapter while it is ephemeral and has been activated,
or the write to the database fails. -/
def Spared (i : UInt16) (m : LifecycleManager F) (c : Call F × Outcomes) : Prop :=
  match c.1 with
  | .autoDemoteAdapter j =>
    j = i → ∀ r ∈ m.states.get? i, r.category = "ephemeral" → r.lastActivated.isSome = true →
      c.2.persist.isSome = true
  | _ => True

theorem held_pinAdapter (h : m.pinChecks i o = .ok r) : Held i (m.pinAdapter i o).1 := by
  unfold pinAdapter
  rw [h]
  exact held_put_self.mpr (pinChecks_held h)

theorem keeps_unpinAdapter (h : j = i → (m.unpinAdapter j o).2 ≠ .ok ()) :
    Keeps i m (m.unpinAdapter j o).1 := by
  unfold unpinAdapter at h ⊢
  cases hchecked : m.unpinChecks j o with
  | error err => exact Keeps.refl i m
  | ok r =>
    refine keeps_put ?_
    intro hij
    rw [hchecked] at h
    exact absurd rfl (h hij.symm)

theorem held_autoDemoteAdapter (h : Held i m) : Held i (m.autoDemoteAdapter i o).1 ↔
      ∀ r ∈ m.states.get? i, r.category = "ephemeral" → r.lastActivated.isSome = true →
        o.persist.isSome = true := by
  obtain ⟨r, hget, hpinned, hstate⟩ := h
  have hheld : Held i m := ⟨r, hget, hpinned, hstate⟩
  grind [autoDemoteAdapter, nextAutoDemotion, AdapterHeatState.shouldDemote_resident,
    AdapterHeatState.demote, updateAdapterState, Outcomes.persisted, held_put_self]

theorem keeps_autoDemoteAdapter (h : j = i → Held i m → Held i (m.autoDemoteAdapter j o).1) :
    Keeps i m (m.autoDemoteAdapter j o).1 := by
  have hloaded : (m.autoDemoteAdapter j o).1.loaded = m.loaded := by
    unfold autoDemoteAdapter
    split
    · unfold updateAdapterState
      split
      · rfl
      · split <;> rfl
    · rfl
  refine ⟨?_, ?_⟩
  · intro hheld
    by_cases hij : j = i
    · exact h hij hheld
    · unfold autoDemoteAdapter
      split
      · exact (keeps_updateAdapterState fun heq => absurd heq.symm hij).held hheld
      · exact hheld
  · intro _ hi
    rw [hloaded]
    exact hi

theorem keeps_perform {c : Call F} (hstill : StillPinned i m (c, o))
    (hspared : Spared i m (c, o)) : Keeps i m (m.perform ops o c).1 := by
  cases c with
  | pinAdapter j => exact keeps_pinAdapter
  | unpinAdapter j => exact keeps_unpinAdapter hstill
  | promoteAdapter j => exact keeps_promoteAdapter
  | demoteAdapter j => exact keeps_demoteAdapter
  | autoPromoteAdapter j => exact keeps_autoPromoteAdapter
  | autoDemoteAdapter j =>
    refine keeps_autoDemoteAdapter ?_
    intro hji hheld
    rw [hji]
    exact (held_autoDemoteAdapter hheld).mpr (hspared hji)
  | recordAdapterActivation j => exact keeps_recordAdapterActivation
  | recordRouterDecision selected => exact keeps_recordRouterDecision selected
  | evaluateTransitions metrics => exact keeps_evaluateFrom 0 metrics
  | handleMemoryPressure metrics => exact keeps_handleMemoryPressure metrics
  | evictAdapter j => exact keeps_evictAdapter 0

theorem held_step_iff {c : Call F × Outcomes} (hheld : Held i m) (hstill : StillPinned i m c) :
    Held i (m.step ops c) ↔ Spared i m c := by
  refine ⟨?_, fun hspared => (keeps_perform hstill hspared).held hheld⟩
  obtain ⟨call, o⟩ := c
  cases call with
  | autoDemoteAdapter j =>
    intro hafter hji
    subst hji
    exact (held_autoDemoteAdapter hheld).mp hafter
  | _ => exact fun _ => trivial

/-- Once it has been pinned and as long as no call unpins it, an adapter stays resident and in the
loader exactly if no automatic demotion strikes it. -/
theorem pinned_stays_iff {calls : List (Call F × Outcomes)} (hpin : m.pinChecks i o = .ok r)
    (hcalls : Guarded (step ops) (StillPinned i) (m.pinAdapter i o).1 calls) :
    Always (step ops) (Held i) (m.pinAdapter i o).1 calls ∧
        Guarded (step ops) (KeepsLoaded ops i) (m.pinAdapter i o).1 calls ↔
      Guarded (step ops) (Spared i) (m.pinAdapter i o).1 calls := by
  have hheld := held_pinAdapter hpin
  have hiff : Always (step ops) (Held i) (m.pinAdapter i o).1 calls ↔
      Guarded (step ops) (Spared i) (m.pinAdapter i o).1 calls :=
    always_iff_guarded (I := fun _ => True) (fun _ _ _ _ _ => trivial)
      (fun _ _ _ hm hstill => held_step_iff hm hstill) trivial hheld hcalls
  rw [← hiff, and_iff_left_iff_imp]
  intro halways
  refine guarded_of_always (I := fun _ => True) (fun _ _ _ _ _ => trivial) ?_ trivial halways hcalls
  intro m c _ hm hstill hafter hi
  exact (keeps_perform hstill ((held_step_iff hm hstill).mp hafter)).loaded hm hi

/-- A warm adapter that has been activated and is in the loader. -/
def warmAdapter (category : String) : LifecycleManager ℚ where
  states := AList.insert 3
    { adapterId := "a", adapterIdx := 3, state := .warm, category, lastActivated := some 0 } ∅
  policy := .fromManifest .exact
  loaded := AList.insert 3 () ∅
  currentK := 4
  activationTracker := .new 200

def calm : Outcomes where
  now := 0

/-- A pinned code adapter withstands a demotion by hand, an automatic one, an eviction and memory
pressure. -/
theorem pinned_stays_code : Always (step .exact) (Held 3) ((warmAdapter "code").pinAdapter 3 calm).1
        [(.demoteAdapter 3, calm), (.autoDemoteAdapter 3, calm), (.evictAdapter 3, calm),
          (.handleMemoryPressure [⟨"a", 0, 0⟩], calm)] ∧
      Guarded (step .exact) (KeepsLoaded .exact 3) ((warmAdapter "code").pinAdapter 3 calm).1
        [(.demoteAdapter 3, calm), (.autoDemoteAdapter 3, calm), (.evictAdapter 3, calm),
          (.handleMemoryPressure [⟨"a", 0, 0⟩], calm)] := by
  refine (pinned_stays_iff rfl ?_).mpr ?_
  · exact ⟨trivial, trivial, trivial, trivial, trivial⟩
  · refine ⟨trivial, ?_, trivial, trivial, trivial⟩
    intro _ r hr hcategory
    cases hr
    exact absurd hcategory (by decide)

/-- A pinned ephemeral adapter that has been activated loses its place to one automatic demotion. -/
theorem not_pinned_stays_ephemeral :
    Guarded (step .exact) (StillPinned 3) ((warmAdapter "ephemeral").pinAdapter 3 calm).1
        [(.autoDemoteAdapter 3, calm)] ∧
      ((warmAdapter "ephemeral").pinAdapter 3 calm).2 = .ok () ∧
      ¬ Always (step .exact) (Held 3) ((warmAdapter "ephemeral").pinAdapter 3 calm).1
        [(.autoDemoteAdapter 3, calm)] := by
  refine ⟨⟨trivial, trivial⟩, rfl, ?_⟩
  intro halways
  have hhot : (step .exact ((warmAdapter "ephemeral").pinAdapter 3 calm).1
      (.autoDemoteAdapter 3, calm)).states.get? 3 = some
        { adapterId := "a", adapterIdx := 3, state := .hot, pinned := true,
          category := "ephemeral", lastActivated := some 0 } := by
    decide
  cases halways.2.resident hhot

end Runs

end LifecycleManager

end AdapterOS.Lifecycle
