import AdapterOS.Library.TwoPhase
import AdapterOS.Lifecycle.PinSafety

/-! Overlapping transitions of one adapter. Each one checks the record, waits for the database and
then writes what it decided before the wait. -/
namespace AdapterOS.Lifecycle

open Library

/-- What a transition has decided to do to the record. -/
inductive RecordWrite where
  | setState (state : AdapterHeatState)
  | pin
  | unpin
  deriving DecidableEq

def RecordWrite.apply (r : AdapterHeatRecord) : RecordWrite → AdapterHeatRecord
  | .setState state => { r with state }
  | .pin => r.pin
  | .unpin => r.unpin

/-- The calls that wait for the database between check and write. -/
inductive Transition where
  | promote
  | demote
  | pin
  | unpin

open LifecycleManager in
/-- The checks on the record as it is found, up to the answer of the database. -/
def Transition.decide (o : Outcomes) (r : AdapterHeatRecord) :
    Transition → Except AosError RecordWrite
  | .promote => do
    let state ← promotion r
    o.ensureSqlKvReady r.adapterId
    o.persisted "Failed to persist adapter promotion: "
    return .setState state
  | .demote => do
    let state ← demotion o.now r
    o.ensureSqlKvReady r.adapterId
    o.persisted "Failed to persist adapter demotion: "
    return .setState state
  | .pin => do
    o.ensureSqlKvReady r.adapterId
    o.poolResult
    o.persisted "Failed to persist adapter pin: "
    return .pin
  | .unpin => do
    o.ensureSqlKvReady r.adapterId
    o.poolResult
    o.persisted "Failed to remove adapter pin: "
    return .unpin

open LifecycleManager in
/-- What a transition can decide on a record. -/
inductive Decides (o : Outcomes) (r : AdapterHeatRecord) : Transition → RecordWrite → Prop where
  | promote {state : AdapterHeatState} :
    promotion r = .ok state → Decides o r .promote (.setState state)
  | demote {state : AdapterHeatState} :
    demotion o.now r = .ok state → Decides o r .demote (.setState state)
  | pin : Decides o r .pin .pin
  | unpin : Decides o r .unpin .unpin

theorem decides_of_decide {o : Outcomes} {r : AdapterHeatRecord} {t : Transition} {w : RecordWrite}
    (h : t.decide o r = .ok w) : Decides o r t w := by
  cases t with
  | promote =>
    obtain ⟨state, hstate, h⟩ := bind_eq_ok.mp h
    obtain ⟨-, -, h⟩ := bind_eq_ok.mp h
    obtain ⟨-, -, h⟩ := bind_eq_ok.mp h
    cases h
    exact .promote hstate
  | demote =>
    obtain ⟨state, hstate, h⟩ := bind_eq_ok.mp h
    obtain ⟨-, -, h⟩ := bind_eq_ok.mp h
    obtain ⟨-, -, h⟩ := bind_eq_ok.mp h
    cases h
    exact .demote hstate
  | pin =>
    obtain ⟨-, -, h⟩ := bind_eq_ok.mp h
    obtain ⟨-, -, h⟩ := bind_eq_ok.mp h
    obtain ⟨-, -, h⟩ := bind_eq_ok.mp h
    cases h
    exact .pin
  | unpin =>
    obtain ⟨-, -, h⟩ := bind_eq_ok.mp h
    obtain ⟨-, -, h⟩ := bind_eq_ok.mp h
    obtain ⟨-, -, h⟩ := bind_eq_ok.mp h
    cases h
    exact .unpin

inductive AdapterCall where
  | wait (t : Transition)
  | evict

namespace LifecycleManager

variable {F : Type*} (m : LifecycleManager F) (id : UInt16)

/-- The eviction does all it does to the record under one lock; the others only read it. -/
def startCall (k : AdapterCall × Outcomes) :
    LifecycleManager F × (RecordWrite ⊕ Except AosError Unit) :=
  match k.1 with
  | .evict => ((m.evictAdapter id k.2 0).1, .inr (m.evictAdapter id k.2 0).2)
  | .wait t =>
    match m.find id with
    | .error err => (m, .inr (.error err))
    | .ok r =>
      match t.decide k.2 r with
      | .error err => (m, .inr (.error err))
      | .ok w => (m, .inl w)

/-- Under the write lock nothing is checked again but that the adapter is there. -/
def finishCall (k : AdapterCall × Outcomes) (w : RecordWrite) :
    LifecycleManager F × Except AosError Unit :=
  match m.find id with
  | .error err => (m, .error err)
  | .ok r => (m.put id (w.apply r), if w = .unpin then .ok () else k.2.log 0)

def adapterCalls (F : Type*) (id : UInt16) :
    TwoPhase (LifecycleManager F) (AdapterCall × Outcomes) RecordWrite (Except AosError Unit) :=
  ⟨fun m k => m.startCall id k, fun m k w => m.finishCall id k w⟩

/-- The calls as they are when nothing comes between. -/
def wholeCall (k : AdapterCall × Outcomes) : LifecycleManager F × Except AosError Unit :=
  match k.1 with
  | .wait .promote => m.promoteAdapter id k.2
  | .wait .demote => m.demoteAdapter id k.2
  | .wait .pin => m.pinAdapter id k.2
  | .wait .unpin => m.unpinAdapter id k.2
  | .evict => m.evictAdapter id k.2 0

variable {m id} {o : Outcomes} {t : Transition} {r : AdapterHeatRecord} {w : RecordWrite}
  {err : AosError}

theorem finish_notFound {k : AdapterCall × Outcomes}
    (h : m.find id = .error err) : (adapterCalls F id).finish m k w = (m, .error err) := by
  simp only [adapterCalls, finishCall, h]

theorem finish_found {k : AdapterCall × Outcomes} (h : m.find id = .ok r) :
    (adapterCalls F id).finish m k w =
      (m.put id (w.apply r), if w = .unpin then .ok () else k.2.log 0) := by
  simp only [adapterCalls, finishCall, h]

theorem atomic_wait_notFound (h : m.find id = .error err) :
    (adapterCalls F id).atomic m (.wait t, o) = (m, .error err) := by
  simp only [TwoPhase.atomic, adapterCalls, startCall, h]

theorem atomic_wait_refused (h : m.find id = .ok r) (hdecide : t.decide o r = .error err) :
    (adapterCalls F id).atomic m (.wait t, o) = (m, .error err) := by
  simp only [TwoPhase.atomic, adapterCalls, startCall, h, hdecide]

theorem atomic_wait (h : m.find id = .ok r) (hdecide : t.decide o r = .ok w) :
    (adapterCalls F id).atomic m (.wait t, o) =
      (m.put id (w.apply r), if w = .unpin then .ok () else o.log 0) := by
  rw [← finish_found (k := (.wait t, o)) h]
  simp only [TwoPhase.atomic, adapterCalls, startCall, h, hdecide]

theorem wholeCall_eq (h : m.find id = .ok r) : m.wholeCall id (.wait t, o) = match t.decide o r with
    | .error err => (m, .error err)
    | .ok w => (m.put id (w.apply r), if w = .unpin then .ok () else o.log 0) := by
  cases t with
  | promote =>
    simp only [wholeCall, promoteAdapter, Transition.decide, h, bind, Except.bind]
    cases promotion r with
    | error err => rfl
    | ok state =>
      cases o.ensureSqlKvReady r.adapterId with
      | error err => rfl
      | ok _ =>
        cases o.persisted "Failed to persist adapter promotion: " with
        | error err => rfl
        | ok _ => rfl
  | demote =>
    simp only [wholeCall, demoteAdapter, Transition.decide, h, bind, Except.bind]
    cases demotion o.now r with
    | error err => rfl
    | ok state =>
      cases o.ensureSqlKvReady r.adapterId with
      | error err => rfl
      | ok _ =>
        cases o.persisted "Failed to persist adapter demotion: " with
        | error err => rfl
        | ok _ => rfl
  | pin =>
    simp only [wholeCall, pinAdapter, pinChecks, Transition.decide, h, bind, Except.bind]
    cases o.ensureSqlKvReady r.adapterId with
    | error err => rfl
    | ok _ =>
      cases o.poolResult with
      | error err => rfl
      | ok _ =>
        cases o.persisted "Failed to persist adapter pin: " with
        | error err => rfl
        | ok _ => rfl
  | unpin =>
    simp only [wholeCall, unpinAdapter, unpinChecks, Transition.decide, h, bind, Except.bind]
    cases o.ensureSqlKvReady r.adapterId with
    | error err => rfl
    | ok _ =>
      cases o.poolResult with
      | error err => rfl
      | ok _ =>
        cases o.persisted "Failed to remove adapter pin: " with
        | error err => rfl
        | ok _ => rfl

theorem wholeCall_notFound (h : m.find id = .error err) :
    m.wholeCall id (.wait t, o) = (m, .error err) := by
  cases t with
  | promote =>
    simp only [wholeCall, promoteAdapter, h]
    rfl
  | demote =>
    simp only [wholeCall, demoteAdapter, h]
    rfl
  | pin =>
    simp only [wholeCall, pinAdapter, pinChecks, h]
    rfl
  | unpin =>
    simp only [wholeCall, unpinAdapter, unpinChecks, h]
    rfl

theorem atomic_eq_wholeCall (k : AdapterCall × Outcomes) :
    (adapterCalls F id).atomic m k = m.wholeCall id k := by
  obtain ⟨call, o⟩ := k
  cases call with
  | evict => rfl
  | wait t =>
    cases hfind : m.find id with
    | error err => rw [atomic_wait_notFound hfind, wholeCall_notFound hfind]
    | ok r => grind [wholeCall_eq, atomic_wait_refused, atomic_wait]

section Overlaps

variable {ι : Type*} (id) (calls : ι → AdapterCall × Outcomes)

/-- The adapter's calls in progress. -/
abbrev Calls (ι F : Type*) := Overlap ι (LifecycleManager F) RecordWrite (Except AosError Unit)

/-- Telemetry takes the event of the call, and a promotion or demotion about to write would decide
the same on the record as it is now. -/
def Undisturbed (c : Calls ι F) (i : ι) : Prop :=
  (calls i).2.telemetry 0 = none ∧
    ∀ t state, (calls i).1 = .wait t → c.progress i = .waiting (.setState state) →
      ∃ r, c.shared.find id = .ok r ∧ t.decide (calls i).2 r = .ok (.setState state)

def Decided (c : Calls ι F) : Prop :=
  ∀ i w, c.progress i = .waiting w →
    ∃ t r, (calls i).1 = .wait t ∧ t.decide (calls i).2 r = .ok w

variable {id calls} {c : Calls ι F} {i : ι}

theorem startCall_wait (m : LifecycleManager F) (id : UInt16) (t : Transition) (o : Outcomes) :
    (∃ err, m.startCall id (.wait t, o) = (m, .inr (.error err))) ∨
      ∃ r w, t.decide o r = .ok w ∧ m.startCall id (.wait t, o) = (m, .inl w) := by
  unfold startCall
  cases m.find id with
  | error err => exact Or.inl ⟨err, rfl⟩
  | ok r =>
    cases hdecide : t.decide o r with
    | error err => exact Or.inl ⟨err, by simp only [hdecide]⟩
    | ok w => exact Or.inr ⟨r, w, hdecide, by simp only [hdecide]⟩

theorem ensureSqlKvReady_congr {name name' : String} (h : o.ensureSqlKvReady name = .ok ()) :
    o.ensureSqlKvReady name' = .ok () := by
  unfold Outcomes.ensureSqlKvReady at h ⊢
  cases hready : o.readiness with
  | ready => rfl
  | failed err =>
    rw [hready] at h
    cases h
  | blocked message =>
    rw [hready] at h
    cases h

theorem decide_of_decided {r' : AdapterHeatRecord} (h : t.decide o r = .ok w)
    (hw : ∀ state, w ≠ .setState state) : t.decide o r' = .ok w := by
  have hdecides := decides_of_decide h
  cases hdecides with
  | @promote state _ => exact absurd rfl (hw state)
  | @demote state _ => exact absurd rfl (hw state)
  | pin | unpin =>
    obtain ⟨_, hready, h⟩ := bind_eq_ok.mp h
    exact bind_eq_ok.mpr ⟨_, ensureSqlKvReady_congr hready, h⟩

theorem decided_advance [DecidableEq ι] (h : Decided calls c) (i : ι) :
    Decided calls ((adapterCalls F id).advance calls c i) := by
  intro j w hw
  -- only the call that moves can have begun to wait
  by_cases hj : j = i
  · subst j
    rcases hk : calls i with ⟨call, o⟩
    unfold TwoPhase.advance at hw
    cases hp : c.progress i with
    | returned r =>
      simp only [hp] at hw
      cases hw
    | waiting w' => simp [hp] at hw
    | ready =>
      simp only [hp, hk, adapterCalls] at hw
      cases call with
      | evict => simp [startCall] at hw
      | wait t =>
        rcases startCall_wait c.shared id t o with ⟨err, hstart⟩ | ⟨r, w', hdecide, hstart⟩
        · simp [hstart] at hw
        · simp only [hstart, Function.update_self, Progress.waiting.injEq] at hw
          subst w'
          exact ⟨t, r, rfl, hdecide⟩
  · refine h j w ?_
    rw [← hw]
    unfold TwoPhase.advance
    cases c.progress i with
    | returned r => rfl
    | waiting w' => exact (Function.update_of_ne hj _ _).symm
    | ready =>
      rcases (adapterCalls F id).start c.shared (calls i) with ⟨s, w' | r⟩
      · exact (Function.update_of_ne hj _ _).symm
      · exact (Function.update_of_ne hj _ _).symm

theorem log_of_telemetry (h : o.telemetry 0 = none) : o.log 0 = .ok () := by
  unfold Outcomes.log
  rw [h]

theorem evictAdapter_cases (m : LifecycleManager F) (id : UInt16) (h : o.telemetry 0 = none) :
    (m.evictAdapter id o 0).2 = .ok () ∨
      ((m.evictAdapter id o 0).2 ≠ .ok () ∧ (m.evictAdapter id o 0).1 = m) := by
  grind [log_of_telemetry, evictAdapter]

theorem decide_of_undisturbed (h : Decided calls c) (hu : Undisturbed id calls c i)
    (hp : c.progress i = .waiting w) (hfind : c.shared.find id = .ok r) :
    ∃ t, (calls i).1 = .wait t ∧ t.decide (calls i).2 r = .ok w := by
  obtain ⟨t, r₀, hcall, hdecide₀⟩ := h i w hp
  refine ⟨t, hcall, ?_⟩
  by_cases hw : ∃ state, w = .setState state
  · obtain ⟨state, rfl⟩ := hw
    obtain ⟨r', hfind', hdecide'⟩ := hu.2 t state hcall hp
    rw [hfind] at hfind'
    cases hfind'
    exact hdecide'
  · exact decide_of_decided hdecide₀ fun state hstate => hw ⟨state, hstate⟩

theorem settles_of_undisturbed (h : Decided calls c) (hu : Undisturbed id calls c i) :
    (adapterCalls F id).Settles calls (· = .ok ()) c i := by
  unfold TwoPhase.Settles
  cases hp : c.progress i with
  | returned r => trivial
  | ready =>
    obtain ⟨htelemetry, _⟩ := hu
    rcases hk : calls i with ⟨call, o⟩
    rw [hk] at htelemetry
    cases call with
    | evict =>
      rcases evictAdapter_cases c.shared id htelemetry with hok | ⟨hfailed, hsame⟩
      · exact Or.inl ⟨hok, rfl⟩
      · exact Or.inr ⟨hfailed, hsame⟩
    | wait t =>
      simp only [adapterCalls]
      rcases startCall_wait c.shared id t o with ⟨err, hstart⟩ | ⟨r, w, _, hstart⟩
      · rw [hstart]
        exact Or.inr ⟨by simp, rfl⟩
      · rw [hstart]
  | waiting w =>
    cases hfind : c.shared.find id with
    | error err =>
      simp only [finish_notFound hfind]
      exact Or.inr ⟨by simp, rfl⟩
    | ok r =>
      obtain ⟨t, hcall, hdecide⟩ := decide_of_undisturbed h hu hp hfind
      have hatomic : (adapterCalls F id).atomic c.shared (calls i) =
          (adapterCalls F id).finish c.shared (calls i) w := by
        rw [show calls i = (.wait t, (calls i).2) from Prod.ext hcall rfl,
          atomic_wait hfind hdecide, finish_found hfind]
      refine Or.inl ⟨?_, hatomic⟩
      simp [finish_found hfind, log_of_telemetry hu.1]

def PinnedResident (id : UInt16) (m : LifecycleManager F) : Prop :=
  ∀ r, m.states.get? id = some r → r.pinned = true → r.state = .resident

theorem pinnedResident_put (h : r.pinned = true → r.state = .resident) :
    PinnedResident id (m.put id r) := by
  intro r' hget hpinned
  rw [get?_put, if_pos rfl] at hget
  cases hget
  exact h hpinned

theorem apply_decided (h : Decides o r t w) (hr : r.pinned = true → r.state = .resident) :
    (w.apply r).pinned = true → (w.apply r).state = .resident := by
  intro hpinned
  cases h with
  | @promote state hstate => exact absurd hstate (promotion_resident (hr hpinned) state)
  | @demote state hstate =>
    have hbefore : r.pinned = true := hpinned
    exact absurd hstate (demotion_pinned o.now hbefore state)
  | pin => rfl
  | unpin => cases hpinned

theorem pinnedResident_evict (h : PinnedResident id m) (n : Nat) :
    PinnedResident id (m.evictAdapter id o n).1 := by
  grind [evictAdapter, pinnedResident_put]

theorem pinnedResident_wholeCall (h : PinnedResident id m) (k : AdapterCall × Outcomes) :
    PinnedResident id (m.wholeCall id k).1 := by
  obtain ⟨call, o⟩ := k
  cases call with
  | evict => exact pinnedResident_evict h 0
  | wait t =>
    cases hfind : m.find id with
    | error err =>
      rw [wholeCall_notFound hfind]
      exact h
    | ok r =>
      rw [wholeCall_eq hfind]
      cases hdecide : t.decide o r with
      | error err => exact h
      | ok w => exact pinnedResident_put (apply_decided (decides_of_decide hdecide)
        (h r (find_eq_ok hfind)))

theorem unloaded_of_evict {n : Nat} (h : (m.evictAdapter id o n).2 = .ok ())
    (hget : (m.evictAdapter id o n).1.states.get? id = some r) : r.state = .unloaded := by
  grind [evictAdapter, get?_put]

/-- The calls that succeeded, one after another in `order`, take the manager to where it is; a
pinned adapter is resident if it was so at first, and one that was evicted last is not loaded. -/
structure Serialized (id : UInt16) (calls : ι → AdapterCall × Outcomes) (m : LifecycleManager F)
    (c : Calls ι F) (order : List ι) : Prop where
  nodup : order.Nodup
  succeeded : ∀ i, i ∈ order ↔ c.progress i = .returned (.ok ())
  reached : c.shared = run (fun m i => (m.wholeCall id (calls i)).1) m order
  pinned : PinnedResident id m → PinnedResident id c.shared
  evicted : ∀ before i, order = before ++ [i] → (calls i).1 = .evict →
    ∀ r, c.shared.states.get? id = some r → r.state = .unloaded

theorem serialized_of_serial {order : List ι}
    (h : TwoPhase.Serial (adapterCalls F id) calls (· = .ok ()) m c order) :
    Serialized id calls m c order := by
  have hreached : c.shared = run (fun m i => (m.wholeCall id (calls i)).1) m order := by
    rw [h.shared]
    unfold TwoPhase.serially
    simp only [atomic_eq_wholeCall]
  refine ⟨h.nodup, ?_, hreached, ?_, ?_⟩
  · obtain ⟨⟩ := h
    grind
  · intro hpinned
    rw [hreached]
    exact run_invariant (I := PinnedResident id)
      (fun m i h => pinnedResident_wholeCall h (calls i)) hpinned order
  · rintro before i rfl hevict r hget
    have hwell := h.well before i [] rfl
    rw [h.shared, TwoPhase.serially_append] at hget
    generalize (adapterCalls F id).serially calls m before = m' at hwell hget
    change (((adapterCalls F id).atomic m' (calls i)).1).states.get? id = some r at hget
    rcases hk : calls i with ⟨call, o⟩
    rw [hk] at hevict hwell hget
    change call = .evict at hevict
    subst call
    exact unloaded_of_evict hwell hget

/-- Where no promotion or demotion is overtaken between its check and its write, and telemetry takes
every event, the calls that succeeded have run one after another. -/
theorem transitions_serialize [DecidableEq ι] {schedule : List ι}
    (hg : Guarded ((adapterCalls F id).advance calls) (Undisturbed id calls) (.initial m)
      schedule) :
    ∃ order, Serialized id calls m
      (run ((adapterCalls F id).advance calls) (.initial m) schedule) order := by
  have hserial : ∃ order, TwoPhase.Serial (adapterCalls F id) calls (· = .ok ()) m
      (run ((adapterCalls F id).advance calls) (.initial m) schedule) order := by
    refine TwoPhase.serial_of_guarded (I := Decided calls) ?_ ?_ ?_ hg
    · intro i w hw
      cases hw
    all_goals grind [decided_advance, settles_of_undisturbed]
  obtain ⟨order, horder⟩ := hserial
  exact ⟨order, serialized_of_serial horder⟩

def demoteAndPin (i : Fin 2) : AdapterCall × Outcomes :=
  if i = p₀ then (.wait .demote, calm) else (.wait .pin, calm)

/-- The pin begins while the demotion waits, and ends after it. -/
theorem demoteAndPin_serialize : ∃ order, Serialized 3 demoteAndPin (warmAdapter "ephemeral")
      (run ((adapterCalls ℚ 3).advance demoteAndPin) (.initial (warmAdapter "ephemeral"))
        [p₀, p₁, p₀, p₁]) order := by
  refine transitions_serialize ⟨⟨rfl, ?_⟩, ⟨rfl, ?_⟩, ⟨rfl, ?_⟩, ⟨rfl, ?_⟩, trivial⟩
  · intro t state _ hwait
    cases hwait
  · intro t state _ hwait
    cases hwait
  · intro t state hcall hwait
    cases hcall
    cases hwait
    exact ⟨_, rfl, rfl⟩
  · intro t state _ hwait
    cases hwait

/-- The pin comes between the demotion's check and its write: the adapter is left pinned and cold,
as after no order of the two. -/
theorem demotion_overwrites_pin :
    (∀ i, (run ((adapterCalls ℚ 3).advance demoteAndPin) (.initial (warmAdapter "ephemeral"))
      [p₀, p₁, p₁, p₀]).progress i = .returned (.ok ())) ∧
    ((run ((adapterCalls ℚ 3).advance demoteAndPin) (.initial (warmAdapter "ephemeral"))
      [p₀, p₁, p₁, p₀]).shared.states.get? 3).map (fun r => (r.state, r.pinned)) =
        some (.cold, true) ∧
    ∀ order : List (Fin 2),
      ((run (fun m i => (m.wholeCall 3 (demoteAndPin i)).1) (warmAdapter "ephemeral")
        order).states.get? 3).map (fun r => (r.state, r.pinned)) ≠ some (.cold, true) := by
  refine ⟨?_, rfl, ?_⟩
  · intro i
    by_cases hi : i = p₀
    · subst i
      rfl
    · obtain rfl : i = p₁ := by
        revert hi
        revert i
        decide
      rfl
  · intro order horder
    have hstart : PinnedResident 3 (warmAdapter "ephemeral") := by
      intro r hget hpinned
      cases hget
      cases hpinned
    have hpinned := run_invariant (I := PinnedResident 3)
      (fun m i h => pinnedResident_wholeCall h (demoteAndPin i)) hstart order
    obtain ⟨r, hget, hr⟩ := Option.map_eq_some_iff.mp horder
    obtain ⟨hstate, hpin⟩ := Prod.mk.inj hr
    have hresident := hpinned r hget hpin
    rw [hstate] at hresident
    cases hresident

end Overlaps

end LifecycleManager

end AdapterOS.Lifecycle
