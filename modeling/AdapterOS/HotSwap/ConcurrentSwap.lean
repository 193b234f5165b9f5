import AdapterOS.HotSwap.TableInvariant

/-! Two swaps at once, cut at every lock acquisition and await point of `swap`. -/
namespace AdapterOS.HotSwap

open Library AdapterTable

structure SwapCall where
  addIds : List AdapterId
  removeIds : List AdapterId

/-- What a call has worked out before it commits. -/
structure SwapPlan where
  oldStack : Nat
  oldActive : AdapterMap
  newActive : AdapterMap
  vramDelta : Int
  addedCount : Nat

/-- Where a call stands, with its local variables. -/
inductive Phase where
  | start
  | rollbackGeneration (current : Nat)
  | rollbackStack (stack : Stack)
  | saved
  | validated
  | loaded (oldStack : Nat)
  | read (oldStack : Nat) (oldActive : AdapterMap)
  | vanished (id : AdapterId)
  | built (plan : SwapPlan)
  | registered (plan : SwapPlan)
  | committed (plan : SwapPlan) (previous : Nat)
  | collected (plan : SwapPlan) (previous : Nat)
      (entries : HashMap AdapterCacheKey AdapterRecord)
  | published (plan : SwapPlan) (previous : Nat)
  | done (result : Except AosError (Int × Nat))

/-- One uninterrupted stretch of `swap`. -/
def swapStep (call : SwapCall) (t : AdapterTable) : Phase → AdapterTable × Phase
  | .start => (t, .rollbackGeneration t.currentStack)
  | .rollbackGeneration current => (t, .rollbackStack ⟨current, t.active⟩)
  | .rollbackStack stack => ({ t with rollbackState := some stack }, .saved)
  | .saved =>
    match call.addIds.find? (· ∉ t.staged) with
    | some id => (t, .done (.error (notPreloadedError id)))
    | none => (t, .validated)
  | .validated => (t, .loaded t.currentStack)
  | .loaded oldStack => (t, .read oldStack t.active)
  | .read oldStack oldActive =>
    match nextActive oldActive t.staged call.addIds call.removeIds with
    | .error id => (t, .vanished id)
    | .ok (newActive, delta, count) => (t, .built ⟨oldStack, oldActive, newActive, delta, count⟩)
  | .vanished id => (t.unstage call.addIds, .done (.error (vanishedError id)))
  | .built plan => (t.ensureRefcounts plan.newActive.keys, .registered plan)
  | .registered plan =>
    (t.commit plan.newActive (plan.oldStack + 1), .committed plan t.currentStack)
  | .committed plan previous =>
    let entries := t.storeEntries t.heap plan.newActive.items
    ({ t with heap := entries.2 }, .collected plan previous (HashMap.collect entries.1))
  | .collected plan previous entries =>
    ({ t with store := t.store.install (plan.oldStack + 1) entries }, .published plan previous)
  | .published plan previous =>
    (t.retireIf (previous ≠ plan.oldStack + 1) previous plan.oldActive,
      .done (.ok (plan.vramDelta, plan.addedCount)))
  | .done result => (t, .done result)

def runAlone (call : SwapCall) (t : AdapterTable) : Nat → Phase → AdapterTable × Phase
  | 0, phase => (t, phase)
  | n + 1, phase => runAlone call (swapStep call t phase).1 n (swapStep call t phase).2

theorem runAlone_step {call : SwapCall} {t t' : AdapterTable} {phase phase' : Phase}
    (h : swapStep call t phase = (t', phase')) (n : Nat) :
    runAlone call t (n + 1) phase = runAlone call t' n phase' := by
  simp only [runAlone, h]

theorem runAlone_done (call : SwapCall) (t : AdapterTable) (n : Nat)
    (result : Except AosError (Int × Nat)) :
    runAlone call t n (.done result) = (t, .done result) := by
  induction n with
  | zero => rfl
  | succ n ih => exact ih

theorem runAlone_eq_swap (call : SwapCall) (t : AdapterTable) : runAlone call t 12 .start =
      ((t.swap call.addIds call.removeIds).2, .done (t.swap call.addIds call.removeIds).1) := by
  have hstart : runAlone call t 12 .start = runAlone call t.saveRollback 9 .saved := rfl
  rw [hstart]
  unfold swap
  dsimp only
  cases hf : call.addIds.find? (· ∉ t.saveRollback.staged) with
  | some id =>
    have hstep : swapStep call t.saveRollback .saved =
        (t.saveRollback, .done (.error (notPreloadedError id))) := by
      simp only [swapStep, hf]
    rw [runAlone_step hstep, runAlone_done]
  | none =>
    have hstep : swapStep call t.saveRollback .saved = (t.saveRollback, .validated) := by
      simp only [swapStep, hf]
    have hread : runAlone call t.saveRollback 8 .validated =
        runAlone call t.saveRollback 6 (.read t.currentStack t.active) := rfl
    rw [runAlone_step hstep, hread]
    cases hn : nextActive t.saveRollback.active t.saveRollback.staged call.addIds
        call.removeIds with
    | error id =>
      have hv : swapStep call t.saveRollback (.read t.currentStack t.saveRollback.active) =
          (t.saveRollback, .vanished id) := by
        simp only [swapStep, hn]
      rw [saveRollback_active] at hv
      rw [runAlone_step hv]
      exact runAlone_done call _ 4 _
    | ok r =>
      obtain ⟨active, delta, count⟩ := r
      have hb : swapStep call t.saveRollback (.read t.currentStack t.saveRollback.active) =
          (t.saveRollback, .built ⟨t.currentStack, t.active, active, delta, count⟩) := by
        simp only [swapStep, hn]
        rfl
      rw [saveRollback_active] at hb
      rw [runAlone_step hb]
      obtain ⟨rc, heap, he⟩ := ensureRefcounts_frame t.saveRollback active.keys
      simp only [installStack, he]
      have hr : swapStep call t.saveRollback
          (.built ⟨t.currentStack, t.active, active, delta, count⟩) =
          ({ t.saveRollback with refcounts := rc, heap := heap },
            .registered ⟨t.currentStack, t.active, active, delta, count⟩) := by
        simp only [swapStep, he]
      rw [runAlone_step hr]
      rfl

/-- Two calls of `swap` on one table. -/
structure Race where
  table : AdapterTable
  phase : Bool → Phase

def raceStep (calls : Bool → SwapCall) (r : Race) (i : Bool) : Race :=
  let next := swapStep (calls i) r.table (r.phase i)
  ⟨next.1, Function.update r.phase i next.2⟩

def raceAfter (calls : Bool → SwapCall) (t : AdapterTable) (schedule : List Bool) : Race :=
  run (raceStep calls) ⟨t, fun _ => .start⟩ schedule

def BothOk (r : Race) : Prop := ∀ i, ∃ x, r.phase i = .done (.ok x)

namespace Phase

def BeforeLoad : Phase → Prop
  | .start | .rollbackGeneration _ | .rollbackStack _ | .saved | .validated => True
  | _ => False

def Committed : Phase → Prop
  | .committed _ _ | .collected _ _ _ | .published _ _ | .done (.ok _) => True
  | _ => False

def Published : Phase → Prop
  | .published _ _ | .done (.ok _) => True
  | _ => False

def Loaded (g : Nat) : Phase → Prop
  | .loaded oldStack | .read oldStack _ => oldStack = g
  | .built plan | .registered plan => plan.oldStack = g
  | .committed _ _ | .collected _ _ _ | .published _ _ | .done (.ok _) => True
  | _ => False

/-- The call works on generation `g` with the active map `active` of that generation. -/
def Follows (call : SwapCall) (staged : AdapterMap) (g : Nat) (active : AdapterMap) :
    Phase → Prop
  | .loaded oldStack => oldStack = g
  | .read oldStack oldActive => oldStack = g ∧ oldActive = active
  | .built plan | .registered plan | .committed plan _ | .published plan _ =>
    plan.oldStack = g ∧ plan.newActive = swapActive active staged call.addIds call.removeIds
  | .collected plan _ entries =>
    plan.oldStack = g ∧ plan.newActive = swapActive active staged call.addIds call.removeIds ∧
      IndexOf plan.newActive entries
  | .done (.ok _) => True
  | _ => False

end Phase

section Steps

variable {call : SwapCall} {t : AdapterTable} {phase : Phase} {g : Nat} {active : AdapterMap}

/-- Only an aborting call changes the staging area, only a commit the active map and the
generation, and only an install the store. -/
theorem step_frame (call : SwapCall) (t : AdapterTable) (phase : Phase) :
    ((∀ id, phase ≠ .vanished id) → (swapStep call t phase).1.staged = t.staged) ∧
    ((∀ plan, phase ≠ .registered plan) → (swapStep call t phase).1.active = t.active ∧
      (swapStep call t phase).1.currentStack = t.currentStack) ∧
    ((∀ plan previous entries, phase ≠ .collected plan previous entries) →
      (swapStep call t phase).1.store = t.store) := by
  cases phase with
  | saved | read oldStack oldActive =>
    simp only [swapStep]
    split <;> exact ⟨fun _ => rfl, fun _ => ⟨rfl, rfl⟩, fun _ => rfl⟩
  | vanished id => exact ⟨fun h => (h id rfl).elim, fun _ => ⟨rfl, rfl⟩, fun _ => rfl⟩
  | built plan =>
    obtain ⟨rc, heap, he⟩ := ensureRefcounts_frame t plan.newActive.keys
    simp only [swapStep, he, and_self, implies_true]
  | registered plan => exact ⟨fun _ => rfl, fun h => (h plan rfl).elim, fun _ => rfl⟩
  | collected plan previous entries =>
    exact ⟨fun _ => rfl, fun _ => ⟨rfl, rfl⟩, fun h => (h plan previous entries rfl).elim⟩
  | published plan previous =>
    simp only [swapStep, retireIf]
    split <;> exact ⟨fun _ => rfl, fun _ => ⟨rfl, rfl⟩, fun _ => rfl⟩
  | _ => exact ⟨fun _ => rfl, fun _ => ⟨rfl, rfl⟩, fun _ => rfl⟩

section Staged

variable (hst : ∀ id ∈ call.addIds, id ∈ t.staged)

include hst

theorem step_read (oldStack : Nat) (oldActive : AdapterMap) :
    ∃ delta, swapStep call t (.read oldStack oldActive) = (t, .built ⟨oldStack, oldActive,
        swapActive oldActive t.staged call.addIds call.removeIds, delta,
        call.addIds.length⟩) := by
  obtain ⟨delta, hd⟩ := nextActive_ok hst oldActive call.removeIds
  exact ⟨delta, by simp only [swapStep, hd]⟩

theorem beforeLoad_step (h : phase.BeforeLoad) :
    (swapStep call t phase).2.BeforeLoad ∨ (swapStep call t phase).2 = .loaded t.currentStack := by
  have hf : call.addIds.find? (· ∉ t.staged) = none := by simpa using hst
  cases phase with
  | saved =>
    simp only [swapStep, hf]
    exact .inl trivial
  | _ => simp_all [swapStep, Phase.BeforeLoad]

theorem loaded_step (h : phase.Loaded g) : (swapStep call t phase).2.Loaded g := by
  rcases phase with _ | _ | _ | _ | _ | _ | ⟨oldStack, oldActive⟩ | _ | _ | _ | _ | _ | _ | _ | _
  case read =>
    obtain ⟨delta, he⟩ := step_read hst oldStack oldActive
    rw [he]
    exact h
  all_goals simp_all [swapStep, Phase.Loaded]

theorem follows_step (h : phase.Follows call t.staged g active)
    (hread : ∀ oldStack, phase = .loaded oldStack → t.active = active) :
    (swapStep call t phase).2.Follows call t.staged g active := by
  cases phase with
  | read oldStack oldActive =>
    obtain ⟨delta, he⟩ := step_read hst oldStack oldActive
    obtain ⟨rfl, rfl⟩ := h
    rw [he]
    exact ⟨rfl, rfl⟩
  | committed plan previous => exact ⟨h.1, h.2, indexOf_storeEntries t t.heap plan.newActive⟩
  | _ => simp_all [swapStep, Phase.Follows]

end Staged

theorem loaded_of_follows {staged : AdapterMap} (h : phase.Follows call staged g active) :
    phase.Loaded g := by
  cases phase with
  | done result => cases result <;> simp_all [Phase.Follows, Phase.Loaded]
  | _ => simp_all [Phase.Follows, Phase.Loaded]

theorem ne_vanished_of_beforeLoad (h : phase.BeforeLoad) (id : AdapterId) :
    phase ≠ .vanished id := by
  rintro rfl
  exact h

theorem ne_vanished_of_loaded (h : phase.Loaded g) (id : AdapterId) : phase ≠ .vanished id := by
  rintro rfl
  exact h

theorem not_beforeLoad_of_loaded (h : phase.Loaded g) : ¬ phase.BeforeLoad := by
  intro hb
  cases phase <;> first | exact h | exact hb

theorem not_committed_of_beforeLoad (h : phase.BeforeLoad) : ¬ phase.Committed := by
  intro hc
  cases phase <;> first | exact h | exact hc

theorem committed_step (h : phase.Committed) : (swapStep call t phase).2.Committed := by
  cases phase <;> simp_all [swapStep, Phase.Committed]

theorem published_step (h : phase.Published) : (swapStep call t phase).2.Published := by
  cases phase <;> simp_all [swapStep, Phase.Published]

theorem committed_of_step (hr : ∀ plan, phase ≠ .registered plan)
    (h : (swapStep call t phase).2.Committed) : phase.Committed := by
  cases phase with
  | saved | read oldStack oldActive =>
    simp only [swapStep] at h
    split at h <;> exact h.elim
  | _ => simp_all [swapStep, Phase.Committed]

theorem published_of_step (hc : ∀ plan previous entries, phase ≠ .collected plan previous entries)
    (h : (swapStep call t phase).2.Published) : phase.Published := by
  cases phase with
  | saved | read oldStack oldActive =>
    simp only [swapStep] at h
    split at h <;> exact h.elim
  | _ => simp_all [swapStep, Phase.Published]

end Steps

section Races

variable {calls : Bool → SwapCall} {t₀ : AdapterTable} {r : Race} {i : Bool}

def activeAfter (calls : Bool → SwapCall) (t₀ : AdapterTable) (i : Bool) : AdapterMap :=
  swapActive t₀.active t₀.staged (calls i).addIds (calls i).removeIds

def activeAfterBoth (calls : Bool → SwapCall) (t₀ : AdapterTable) (i : Bool) : AdapterMap :=
  swapActive (activeAfter calls t₀ i) t₀.staged (calls (!i)).addIds (calls (!i)).removeIds

/-- Nobody has committed. -/
structure Fresh (calls : Bool → SwapCall) (t₀ : AdapterTable) (r : Race) : Prop where
  staged_eq : r.table.staged = t₀.staged
  currentStack_eq : r.table.currentStack = t₀.currentStack
  active_eq : r.table.active = t₀.active
  store_eq : r.table.store = t₀.store
  phases : ∀ i, (r.phase i).BeforeLoad ∨
    ((r.phase i).Follows (calls i) t₀.staged t₀.currentStack t₀.active ∧
      ¬ (r.phase i).Committed)

/-- Both calls build on the same generation, and the first to commit is overwritten. -/
structure Overlap (t₀ : AdapterTable) (r : Race) : Prop where
  staged_eq : r.table.staged = t₀.staged
  currentStack_eq : r.table.currentStack = t₀.currentStack + 1
  phases : ∀ i, (r.phase i).Loaded t₀.currentStack

/-- Call `i` has committed, and the other one builds on what it left. -/
structure Serial (calls : Bool → SwapCall) (t₀ : AdapterTable) (i : Bool) (r : Race) : Prop where
  staged_eq : r.table.staged = t₀.staged
  first : (r.phase i).Committed ∧
    (r.phase i).Follows (calls i) t₀.staged t₀.currentStack t₀.active
  second : (r.phase (!i)).BeforeLoad ∨ (r.phase (!i)).Follows (calls (!i)) t₀.staged
    (t₀.currentStack + 1) (activeAfter calls t₀ i)
  pending : ¬ (r.phase (!i)).Committed →
    r.table.active = activeAfter calls t₀ i ∧ r.table.currentStack = t₀.currentStack + 1
  final : (r.phase (!i)).Committed →
    r.table.active = activeAfterBoth calls t₀ i ∧ r.table.currentStack = t₀.currentStack + 2
  unpublished : ¬ (r.phase (!i)).Published →
    r.table.store.current.generation ≤ t₀.currentStack + 1
  published : (r.phase (!i)).Published →
    r.table.store.current.generation = t₀.currentStack + 2 ∧
      IndexOf (activeAfterBoth calls t₀ i) r.table.store.current.entries

@[simp] theorem raceStep_phase_self :
    (raceStep calls r i).phase i = (swapStep (calls i) r.table (r.phase i)).2 :=
  Function.update_self _ _ _

@[simp] theorem raceStep_phase_other : (raceStep calls r i).phase (!i) = r.phase (!i) :=
  Function.update_of_ne (Bool.not_ne_self i) _ _

theorem forall_bool_iff {P : Bool → Prop} (i : Bool) : (∀ j, P j) ↔ P i ∧ P (!i) := by
  constructor
  · intro h
    exact ⟨h i, h (!i)⟩
  · rintro ⟨hi, hn⟩ j
    rcases Bool.eq_or_eq_not j i with rfl | rfl
    · exact hi
    · exact hn

@[simp] theorem raceStep_phase_first : (raceStep calls r (!i)).phase i = r.phase i :=
  Function.update_of_ne (Bool.not_ne_self i).symm _ _

theorem fresh_commit (hc : Coherent t₀) (h : Fresh calls t₀ r) {plan : SwapPlan}
    (hr : r.phase i = .registered plan) :
    Overlap t₀ (raceStep calls r i) ∨
      (Serial calls t₀ i (raceStep calls r i) ∧ (r.phase (!i)).BeforeLoad) := by
  obtain ⟨hstaged, hcur, -, hstore, hphases⟩ := h
  obtain ⟨hold, hnew⟩ : plan.oldStack = t₀.currentStack ∧
      plan.newActive = activeAfter calls t₀ i := by
    have hi := hphases i
    rw [hr] at hi
    exact (hi.resolve_left id).1
  have hself : (raceStep calls r i).phase i = .committed plan r.table.currentStack := by
    simp only [raceStep_phase_self, hr, swapStep]
  have htable : (raceStep calls r i).table =
      r.table.commit (activeAfter calls t₀ i) (t₀.currentStack + 1) := by
    simp only [raceStep, hr, swapStep, hold, hnew]
  have hgen : r.table.store.current.generation = t₀.currentStack := hstore ▸ hc.generation
  rcases hphases (!i) with hb | ⟨hf, _⟩
  · have hcom := not_committed_of_beforeLoad hb
    have hpub : ¬ (r.phase (!i)).Published := by
      intro hp
      cases hph : r.phase (!i) <;> rw [hph] at hb hp <;> first | exact hb.elim | exact hp.elim
    refine .inr ⟨⟨?_, ?_, ?_, ?_, ?_, ?_, ?_⟩, hb⟩ <;>
      simp_all [commit, Phase.Committed, Phase.Follows, activeAfter]
  · refine .inl ⟨htable ▸ hstaged, htable ▸ rfl, (forall_bool_iff i).mpr ?_⟩
    rw [hself, raceStep_phase_other]
    exact ⟨trivial, loaded_of_follows hf⟩

section Staged

variable (hst : ∀ i, ∀ id ∈ (calls i).addIds, id ∈ t₀.staged)
include hst

theorem overlap_step (h : Overlap t₀ r) (i : Bool) : Overlap t₀ (raceStep calls r i) := by
  have hl := h.phases i
  obtain ⟨hstaged, hshared, _⟩ := step_frame (calls i) r.table (r.phase i)
  refine ⟨(hstaged (ne_vanished_of_loaded hl)).trans h.staged_eq, ?_, (forall_bool_iff i).mpr ?_⟩
  · by_cases hr : ∃ plan, r.phase i = .registered plan
    · obtain ⟨plan, hr⟩ := hr
      rw [hr] at hl
      simp only [raceStep, hr, swapStep, commit]
      exact congrArg (· + 1) hl
    · push Not at hr
      exact (hshared hr).2.trans h.currentStack_eq
  · rw [raceStep_phase_self, raceStep_phase_other]
    exact ⟨loaded_step (h.staged_eq ▸ hst i) hl, h.phases (!i)⟩

theorem fresh_quiet (h : Fresh calls t₀ r) (hr : ∀ plan, r.phase i ≠ .registered plan) :
    Fresh calls t₀ (raceStep calls r i) := by
  have hs : ∀ id ∈ (calls i).addIds, id ∈ r.table.staged := h.staged_eq ▸ hst i
  have hv : ∀ id, r.phase i ≠ .vanished id := by
    rcases h.phases i with hb | ⟨hf, _⟩
    · exact ne_vanished_of_beforeLoad hb
    · exact ne_vanished_of_loaded (loaded_of_follows hf)
  have hn : ¬ (r.phase i).Committed := by
    rcases h.phases i with hb | ⟨_, hn⟩
    · exact not_committed_of_beforeLoad hb
    · exact hn
  have hcol : ∀ plan previous entries, r.phase i ≠ .collected plan previous entries :=
    fun _ _ _ he => hn (he ▸ trivial)
  obtain ⟨hstaged, hshared, hstore⟩ := step_frame (calls i) r.table (r.phase i)
  obtain ⟨hact, hcur⟩ := hshared hr
  refine ⟨(hstaged hv).trans h.staged_eq, hcur.trans h.currentStack_eq, hact.trans h.active_eq,
    (hstore hcol).trans h.store_eq, (forall_bool_iff i).mpr ?_⟩
  rw [raceStep_phase_self, raceStep_phase_other]
  refine ⟨?_, h.phases (!i)⟩
  rcases h.phases i with hb | ⟨hf, _⟩
  · rcases beforeLoad_step hs hb with hb' | hl
    · exact .inl hb'
    · rw [hl]
      exact .inr ⟨h.currentStack_eq, id⟩
  · obtain ⟨⟩ := h
    grind [follows_step, committed_of_step]

theorem serial_step_first (h : Serial calls t₀ i r) : Serial calls t₀ i (raceStep calls r i) := by
  obtain ⟨hcom, hf⟩ := h.first
  have hr : ∀ plan, r.phase i ≠ .registered plan := by
    intro plan he
    rw [he] at hcom
    exact hcom
  have hl : ∀ oldStack, r.phase i ≠ .loaded oldStack := by
    intro oldStack he
    rw [he] at hcom
    exact hcom
  have hf' := follows_step (t := r.table) (h.staged_eq ▸ hst i) (h.staged_eq ▸ hf)
    (fun oldStack he => absurd he (hl oldStack))
  obtain ⟨hstaged, hshared, hstore⟩ := step_frame (calls i) r.table (r.phase i)
  obtain ⟨hact, hcur⟩ := hshared hr
  -- the store changes only at an install of generation `g + 1`
  have hinstall : (raceStep calls r i).table.store = r.table.store ∨
      ∃ entries, (raceStep calls r i).table.store =
        r.table.store.install (t₀.currentStack + 1) entries := by
    by_cases hcol : ∃ plan previous entries, r.phase i = .collected plan previous entries
    · obtain ⟨plan, previous, entries, he⟩ := hcol
      rw [he] at hf
      exact .inr ⟨entries, by simp only [raceStep, he, swapStep, hf.1]⟩
    · push Not at hcol
      exact .inl (hstore hcol)
  have hgen : r.table.store.current.generation ≤ t₀.currentStack + 1 →
      (raceStep calls r i).table.store.current.generation ≤ t₀.currentStack + 1 := by
    grind [AdapterStore.install_of_le, AdapterStore.install_current_of_lt]
  have hkept : r.table.store.current.generation = t₀.currentStack + 2 →
      (raceStep calls r i).table.store = r.table.store := by grind [AdapterStore.install_of_le]
  refine ⟨(hstaged (ne_vanished_of_loaded (loaded_of_follows hf))).trans h.staged_eq,
    by rw [raceStep_phase_self]; exact ⟨committed_step hcom, h.staged_eq ▸ hf'⟩, ?_, ?_, ?_, ?_,
    ?_⟩ <;> rw [raceStep_phase_other]
  · exact h.second
  · exact fun hn => ⟨hact.trans (h.pending hn).1, hcur.trans (h.pending hn).2⟩
  · exact fun hc => ⟨hact.trans (h.final hc).1, hcur.trans (h.final hc).2⟩
  · exact fun hn => hgen (h.unpublished hn)
  · intro hp
    rw [hkept (h.published hp).1]
    exact h.published hp

theorem serial_second_phase (h : Serial calls t₀ i r) :
    (swapStep (calls (!i)) r.table (r.phase (!i))).2.BeforeLoad ∨
      (swapStep (calls (!i)) r.table (r.phase (!i))).2.Follows (calls (!i)) t₀.staged
        (t₀.currentStack + 1) (activeAfter calls t₀ i) := by
  have hs : ∀ id ∈ (calls (!i)).addIds, id ∈ r.table.staged := h.staged_eq ▸ hst (!i)
  rcases h.second with hb | hf
  · rcases beforeLoad_step hs hb with hb' | hl
    · exact .inl hb'
    · rw [hl]
      exact .inr (h.pending (not_committed_of_beforeLoad hb)).2
  · have hstep := follows_step (t := r.table) hs (h.staged_eq ▸ hf)
      (fun _ he => (h.pending (by rw [he]; exact id)).1)
    exact .inr (h.staged_eq ▸ hstep)

theorem serial_step_second (h : Serial calls t₀ i r) :
    Serial calls t₀ i (raceStep calls r (!i)) := by
  have hphase := serial_second_phase hst h
  have hv : ∀ id, r.phase (!i) ≠ .vanished id := by
    rcases h.second with hb | hf
    · exact ne_vanished_of_beforeLoad hb
    · exact ne_vanished_of_loaded (loaded_of_follows hf)
  obtain ⟨hstaged, hshared, hstore⟩ := step_frame (calls (!i)) r.table (r.phase (!i))
  obtain ⟨hst₀, hfirst, hsecond, hpending, hfinal, hunpub, hpub⟩ := h
  refine ⟨(hstaged hv).trans hst₀, by rwa [raceStep_phase_first],
    by rwa [raceStep_phase_self], ?_, ?_, ?_, ?_⟩ <;> rw [raceStep_phase_self]
  all_goals
    by_cases hr : ∃ plan, r.phase (!i) = .registered plan
    · obtain ⟨plan, hr⟩ := hr
      rw [hr] at hsecond hunpub
      obtain ⟨hold, hnew⟩ := hsecond.resolve_left id
      simp_all [raceStep, swapStep, commit, Phase.Committed, Phase.Published, activeAfterBoth]
    by_cases hc : ∃ plan previous entries, r.phase (!i) = .collected plan previous entries
    · obtain ⟨plan, previous, entries, hc⟩ := hc
      rw [hc] at hsecond hunpub hfinal
      obtain ⟨hold, hnew, hindex⟩ := hsecond.resolve_left id
      have hcur := AdapterStore.install_current_of_lt entries (Nat.lt_succ_of_le (hunpub id))
      simp_all [raceStep, swapStep, Phase.Committed, Phase.Published, activeAfterBoth]
    push Not at hr hc
    obtain ⟨hact, hcur⟩ := hshared hr
    have hstore : (raceStep calls r (!i)).table.store = r.table.store := hstore hc
    have hcom := @committed_step (calls (!i)) r.table (r.phase (!i))
    have hcom' := @committed_of_step (calls (!i)) r.table (r.phase (!i)) hr
    have hpub₁ := @published_step (calls (!i)) r.table (r.phase (!i))
    have hpub₂ := @published_of_step (calls (!i)) r.table (r.phase (!i)) hc
    change (raceStep calls r (!i)).table.active = _ at hact
    change (raceStep calls r (!i)).table.currentStack = _ at hcur
    grind

end Staged

/-- At some moment one call has committed and the other has not loaded the generation yet. -/
def Separated (calls : Bool → SwapCall) (t₀ : AdapterTable) (schedule : List Bool) : Prop :=
  ∃ pre, pre <+: schedule ∧ ∃ i, ((raceAfter calls t₀ pre).phase i).Committed ∧
    ((raceAfter calls t₀ pre).phase (!i)).BeforeLoad

theorem raceAfter_concat (schedule : List Bool) (i : Bool) :
    raceAfter calls t₀ (schedule ++ [i]) = raceStep calls (raceAfter calls t₀ schedule) i := by
  simp only [raceAfter, run_append, run_cons, run_nil]

theorem separated_concat {schedule : List Bool} :
    Separated calls t₀ (schedule ++ [i]) ↔ Separated calls t₀ schedule ∨
      ∃ j, ((raceAfter calls t₀ (schedule ++ [i])).phase j).Committed ∧
        ((raceAfter calls t₀ (schedule ++ [i])).phase (!j)).BeforeLoad := by
  constructor
  · rintro ⟨pre, hpre, hj⟩
    rcases List.prefix_concat_iff.mp hpre with rfl | hpre
    · exact Or.inr hj
    · exact Or.inl ⟨pre, hpre, hj⟩
  · rintro (⟨pre, hpre, hj⟩ | hj)
    · exact ⟨pre, hpre.trans (List.prefix_append _ _), hj⟩
    · exact ⟨_, List.prefix_refl _, hj⟩

theorem fresh_start (t₀ : AdapterTable) : Fresh calls t₀ ⟨t₀, fun _ => .start⟩ :=
  ⟨rfl, rfl, rfl, rfl, fun _ => Or.inl trivial⟩

theorem fresh_not_separated (h : Fresh calls t₀ r) :
    ¬ ∃ j, (r.phase j).Committed ∧ (r.phase (!j)).BeforeLoad := by
  rintro ⟨j, hcom, _⟩
  rcases h.phases j with hb | ⟨_, hn⟩
  · exact not_committed_of_beforeLoad hb hcom
  · exact hn hcom

theorem overlap_not_separated (h : Overlap t₀ r) :
    ¬ ∃ j, (r.phase j).Committed ∧ (r.phase (!j)).BeforeLoad := by
  rintro ⟨j, _, hb⟩
  exact not_beforeLoad_of_loaded (h.phases (!j)) hb

theorem race_cases (hc : Coherent t₀) (hst : ∀ i, ∀ id ∈ (calls i).addIds, id ∈ t₀.staged)
    (schedule : List Bool) :
    (¬ Separated calls t₀ schedule ∧ (Fresh calls t₀ (raceAfter calls t₀ schedule) ∨
      Overlap t₀ (raceAfter calls t₀ schedule))) ∨
    (Separated calls t₀ schedule ∧ ∃ i, Serial calls t₀ i (raceAfter calls t₀ schedule)) := by
  induction schedule using List.reverseRecOn with
  | nil =>
    have hf : Fresh calls t₀ (raceAfter calls t₀ []) := fresh_start t₀
    refine Or.inl ⟨?_, Or.inl hf⟩
    rintro ⟨pre, hpre, hj⟩
    rw [List.prefix_nil.mp hpre] at hj
    exact fresh_not_separated hf hj
  | append_singleton schedule k ih =>
    rw [separated_concat, raceAfter_concat]
    rcases ih with ⟨hn, hf | ho⟩ | ⟨hsep, i, hs⟩
    · by_cases hr : ∃ plan, (raceAfter calls t₀ schedule).phase k = .registered plan
      · obtain ⟨plan, hr⟩ := hr
        rcases fresh_commit hc hf hr with ho | ⟨hs, hb⟩
        · grind [overlap_not_separated]
        · refine Or.inr ⟨Or.inr ⟨k, hs.first.1, ?_⟩, k, hs⟩
          rw [raceStep_phase_other]
          exact hb
      all_goals grind [fresh_quiet, fresh_not_separated]
    · grind [overlap_step, overlap_not_separated]
    · refine Or.inr ⟨Or.inl hsep, i, ?_⟩
      rcases Bool.eq_or_eq_not k i with rfl | rfl
      · exact serial_step_first hst hs
      · exact serial_step_second hst hs

def swappedInOrder (calls : Bool → SwapCall) (t₀ : AdapterTable) (i : Bool) : AdapterTable :=
  ((t₀.swap (calls i).addIds (calls i).removeIds).2.swap (calls (!i)).addIds
    (calls (!i)).removeIds).2

/-- The outcome is that of some sequential order, and all three layers agree on it. -/
structure NoUpdateLost (calls : Bool → SwapCall) (t₀ t : AdapterTable) : Prop where
  active_eq : ∃ i, ∀ id, t.active.get? id = (swappedInOrder calls t₀ i).active.get? id
  generation_eq : t.currentStack = t₀.currentStack + 2
  store_generation : t.store.current.generation = t.currentStack
  store_ids : ∀ id, id ∈ t.active ↔ ∃ key record,
    t.store.current.entries.get? key = some record ∧ key.adapterId = id

theorem swappedInOrder_active (hst : ∀ i, ∀ id ∈ (calls i).addIds, id ∈ t₀.staged) (i : Bool) :
    (swappedInOrder calls t₀ i).active = activeAfterBoth calls t₀ i := by
  rcases AdapterTable.swap_cases t₀ (calls i).addIds (calls i).removeIds with
    ⟨⟨id, hid, hn⟩, _⟩ | ⟨_, h₁⟩
  · exact (hn (hst i id hid)).elim
  · have hstaged : (t₀.swap (calls i).addIds (calls i).removeIds).2.staged = t₀.staged :=
      h₁.staged_eq
    rcases AdapterTable.swap_cases (t₀.swap (calls i).addIds (calls i).removeIds).2
      (calls (!i)).addIds (calls (!i)).removeIds with ⟨⟨id, hid, hn⟩, _⟩ | ⟨_, h₂⟩
    · rw [hstaged] at hn
      exact (hn (hst (!i) id hid)).elim
    · rw [swappedInOrder, h₂.active_eq, h₁.active_eq, hstaged]
      rfl

theorem mem_iff_indexed {active : AdapterMap} {entries : HashMap AdapterCacheKey AdapterRecord}
    (h : IndexOf active entries) (id : AdapterId) :
    id ∈ active ↔ ∃ key record, entries.get? key = some record ∧ key.adapterId = id := by
  obtain ⟨⟩ := h
  grind [AList.mem_iff_get?]

theorem noUpdateLost_of_serial (hst : ∀ i, ∀ id ∈ (calls i).addIds, id ∈ t₀.staged)
    (h : Serial calls t₀ i r) (hdone : BothOk r) : NoUpdateLost calls t₀ r.table := by
  obtain ⟨x, hx⟩ := hdone (!i)
  have hcom : (r.phase (!i)).Committed := by rw [hx]; trivial
  have hpub : (r.phase (!i)).Published := by rw [hx]; trivial
  obtain ⟨ha, hg⟩ := h.final hcom
  obtain ⟨hsg, hidx⟩ := h.published hpub
  refine ⟨⟨i, ?_⟩, hg, hsg.trans hg.symm, ?_⟩
  · intro id
    rw [swappedInOrder_active hst, ha]
  · rw [ha]
    exact mem_iff_indexed hidx

end Races

/-- `swap` reads the generation, awaits and writes, without holding a lock across: nothing is
lost exactly when the two calls do not overlap between load and commit. -/
theorem concurrent_swaps_iff {t₀ : AdapterTable} (hr : Reachable t₀) (calls : Bool → SwapCall)
    (hst : ∀ i, ∀ id ∈ (calls i).addIds, id ∈ t₀.staged) (schedule : List Bool)
    (hdone : BothOk (raceAfter calls t₀ schedule)) :
    NoUpdateLost calls t₀ (raceAfter calls t₀ schedule).table ↔ Separated calls t₀ schedule := by
  rcases race_cases (coherent_reachable hr) hst schedule with ⟨hn, hf | ho⟩ | ⟨hs, i, hser⟩
  · obtain ⟨x, hx⟩ := hdone true
    rcases hf.phases true with hb | ⟨_, hcom⟩
    · rw [hx] at hb
      exact hb.elim
    · rw [hx] at hcom
      exact (hcom trivial).elim
  · refine ⟨fun h => ?_, fun h => (hn h).elim⟩
    have hg := h.generation_eq
    have hg' := ho.currentStack_eq
    omega
  · exact ⟨fun _ => hs, fun _ => noUpdateLost_of_serial hst hser hdone⟩

def twoStaged : AdapterTable :=
  tableAfter testIdentity [.preload "a" 1 10 0, .preload "b" 2 10 1]

def addEach (i : Bool) : SwapCall := ⟨[if i then "b" else "a"], []⟩

theorem concurrent_swaps_in_turn : NoUpdateLost addEach twoStaged (raceAfter addEach twoStaged
      (List.replicate 12 false ++ List.replicate 12 true)).table := by
  apply (concurrent_swaps_iff (reachable_tableAfter _ _) addEach _ _ _).mpr
  · exact ⟨List.replicate 12 false, List.prefix_append _ _, false, trivial, trivial⟩
  · intro i
    cases i <;> decide
  · intro i
    cases i <;> exact ⟨_, rfl⟩

/-- The call that adds `b` runs while the other one waits for the counters: both succeed, `b`
is lost and the generation has grown by one only. -/
theorem concurrent_swap_lost : BothOk (raceAfter addEach twoStaged
      (List.replicate 8 false ++ List.replicate 12 true ++ List.replicate 4 false)) ∧
    ¬ NoUpdateLost addEach twoStaged (raceAfter addEach twoStaged
      (List.replicate 8 false ++ List.replicate 12 true ++ List.replicate 4 false)).table := by
  refine ⟨?_, ?_⟩
  · intro i
    cases i <;> exact ⟨_, rfl⟩
  · intro h
    have hg := h.generation_eq
    revert hg
    decide

end AdapterOS.HotSwap
