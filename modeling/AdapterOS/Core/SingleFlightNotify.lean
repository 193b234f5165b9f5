import AdapterOS.Core.SingleFlightAsync

/-! Whether the waiters of an asynchronous single flight hear from their leader. -/
namespace AdapterOS.SingleFlight

open Library

variable {n : Nat} {K R : Type*}

namespace AsyncPc

def waiter? : AsyncPc K R → Option (Flight K)
  | .fetched f | .joined f | .registered f | .woken f | .checkMap f => some f
  | _ => none

def pending? : AsyncPc K R → Option Nat
  | .fetched f | .joined f | .registered f => some f.entry
  | _ => none

def unregistered? : AsyncPc K R → Option Nat
  | .fetched f | .joined f => some f.entry
  | _ => none

def owes? : AsyncPc K R → Option Nat
  | .loading f | .storing f _ | .notifying f _ | .cancelNotify f => some f.entry
  | _ => none

def leaving? : AsyncPc K R → Option K
  | .removing f _ | .cancelRemove f => some f.key
  | _ => none

theorem owes?_wake (e : Nat) (pc : AsyncPc K R) : (pc.wake e).owes? = pc.owes? :=
  view_wake owes? (fun _ => rfl) e pc

variable {pc : AsyncPc K R}

theorem leads_of_owes {e : Nat} (h : pc.owes? = some e) :
    ∃ f, pc.leads? = some f ∧ f.entry = e := by
  cases pc <;> first | exact ⟨_, rfl, Option.some.inj h⟩ | cases h

theorem owes_of_leads {f : Flight K} (h : pc.leads? = some f) :
    pc.owes? = some f.entry ∨ pc.leaving? = some f.key := by
  cases pc <;> cases h <;> first | exact .inl rfl | exact .inr rfl

theorem pending_of_wake {e d : Nat} (h : (pc.wake e).pending? = some d) :
    pc.pending? = some d ∧ (d = e → pc.unregistered? = some e) := by
  cases pc with
  | registered f =>
    simp only [wake] at h
    split at h
    · cases h
    · rename_i hne
      exact ⟨h, fun hd => absurd ((Option.some.inj h).trans hd) hne⟩
  | fetched f => exact ⟨h, fun hd => hd ▸ h⟩
  | joined f => exact ⟨h, fun hd => hd ▸ h⟩
  | _ => cases h

end AsyncPc

variable [DecidableEq K] {c c' : SingleFlight n K R} {t : Fin n} {e : Nat}

def LeaderDone (c : SingleFlight n K R) (e : Nat) : Prop :=
  (e < c.allocated ∧ 1 ≤ (c.entries e).waiterCount) ∧
    ∀ t f, (c.pc t).leads? = some f → f.entry ≠ e

def Shared (c : SingleFlight n K R) : Prop :=
  ∀ t f r, c.pc t = .returned f r → (c.entries f.entry).result = some r

/-- Once the leader is done nobody is left registered on its entry, and if it has a result each of
its waiters returns it with its next step, whatever the others do before. -/
structure Heard (c : SingleFlight n K R) : Prop where
  not_registered : ∀ t f, c.pc t = .registered f → ¬ c.LeaderDone f.entry
  returns : ∀ t f r, (c.pc t).waiter? = some f → c.LeaderDone f.entry →
    (c.entries f.entry).result = some r → ∀ others : List (AsyncAction n K R),
      (∀ a ∈ others, a.task ≠ t) →
      ((run step c others).step (.advance t)).pc t = .returned f r

def OrderlyAt (c : SingleFlight n K R) : AsyncPc K R → Prop
  -- nobody fetches an entry whose leader has notified
  | .entering key => ∀ u, (c.pc u).leaving? ≠ some key
  -- a leader notifies while every task on its entry is registered
  | .notifying f _ | .cancelNotify f => ∀ u, (c.pc u).unregistered? ≠ some f.entry
  -- a task without a result looks for its key when it is gone
  | .checkMap f => f.key ∉ c.inFlight
  | _ => True

def Orderly (c : SingleFlight n K R) : AsyncAction n K R → Prop
  | .advance t => c.OrderlyAt (c.pc t)
  | _ => True

def Led (c : SingleFlight n K R) : Prop :=
  ∀ t e, (c.pc t).pending? = some e → 1 ≤ (c.entries e).waiterCount → ∃ u, (c.pc u).owes? = some e

section Led

variable {p q : AsyncPc K R} {f : Flight K}

omit [DecidableEq K] in
theorem Led.goto (hl : c.Led) (hsame : c'.pc = c.pc) (hpc : c.pc t = q)
    (howes : ∀ e, q.owes? = some e → p.owes? = some e)
    (hown : ∀ e, p.pending? = some e → 1 ≤ (c'.entries e).waiterCount →
      ∃ u, (c.pc u).owes? = some e)
    (hothers : ∀ u e, u ≠ t → (c.pc u).pending? = some e → 1 ≤ (c'.entries e).waiterCount →
      1 ≤ (c.entries e).waiterCount ∨ p.owes? = some e) : (c'.goto t p).Led := by
  simp only [Led, SingleFlight.goto, Function.update_apply, hsame] at hl ⊢
  grind

theorem led_move {a : AsyncAction n K R} (h : c.Inv) (hl : c.Led) (ho : c.Orderly a)
    (hpc : c.pc a.task = q) (hm : c.Moves a q p) : (c.goto a.task p).Led := by
  have hown := h.fits a.task
  rw [hpc] at hown
  refine hl.goto rfl hpc (fun e he => ?_) (fun e he hcount => ?_) (fun _ _ _ _ => .inl)
  · cases hm with
    | call hq =>
      obtain ⟨f, hf, _⟩ := AsyncPc.leads_of_owes he
      rw [AsyncPc.leads_of_ended hq] at hf
      cases hf
    | leave hq => rcases hq with rfl | rfl <;> cases he
    | abandon hsome => cases hsome.symm.trans (hown _ rfl)
    | _ => exact he
  · refine hl a.task e ?_ hcount
    rw [hpc]
    cases hm with
    | register => exact he
    | rewait hkey =>
      simp only [AsyncAction.task] at hpc
      simp only [Orderly, hpc] at ho
      exact absurd hkey ho
    | _ => cases he

theorem led_fetch {key : K} (h : c.Inv) (hl : c.Led) (ho : c.Orderly (.advance t))
    (hpc : c.pc t = .entering key) (hslot : c.inFlight.get? key = some e) :
    (c.goto t (.fetched ⟨key, e⟩)).Led := by
  refine hl.goto rfl hpc nofun ?_ (fun _ _ _ _ => .inl)
  rintro d ⟨⟩ hcount
  obtain ⟨u, hu⟩ := (h.mapped key e hslot).2.2 hcount
  simp only [Orderly, hpc] at ho
  rcases AsyncPc.owes_of_leads hu with howes | hleaving
  · exact ⟨u, howes⟩
  · exact absurd hleaving (ho u)

omit [DecidableEq K] in
theorem led_notify (hl : c.Led) (ho : c.Orderly (.advance t)) (hpc : c.pc t = q)
    (hn : Notifies q p f) : ((c.notifyWaiters f.entry).goto t p).Led := by
  have howes : (c.pc t).owes? = some f.entry := by
    cases hn <;> rw [hpc] <;> rfl
  have hregistered : ∀ u, (c.pc u).unregistered? ≠ some f.entry := by
    simp only [Orderly, hpc] at ho
    cases hn <;> exact ho
  have hp : p.pending? = none := by
    cases hn <;> rfl
  have hwake := @AsyncPc.pending_of_wake K R
  simp only [Led, SingleFlight.goto, notifyWaiters, Function.update_apply] at hl ⊢
  grind [AsyncPc.owes?_wake]

theorem allocated_of_pending (h : c.Inv) (hp : (c.pc t).pending? = some e) : e < c.allocated := by
  have hfetched := h.fetched t
  have hcounted := h.counted t
  cases hpc : c.pc t <;> rw [hpc] at hp <;> cases hp <;> simp_all [AsyncPc.counted?]

theorem led_effect {a : AsyncAction n K R} (h : c.Inv) (hl : c.Led) (ho : c.Orderly a)
    (heffect : c.Effect a c') : c'.Led := by
  cases heffect with
  | rest => exact hl
  | move hpc hm => exact led_move h hl ho hpc hm
  | fetch hpc hslot => exact led_fetch h hl ho hpc hslot
  | @insert t key hpc hslot =>
    refine hl.goto rfl hpc of_none ?_ (fun u d _ hu hcount => .inl ?_)
    · -- nobody is counted on the new entry
      rintro d ⟨⟩ hcount
      simp [insertNew, setEntry] at hcount
    · have hd := allocated_of_pending h hu
      simpa [insertNew, setEntry, hd.ne] using hcount
  | @lead t f hpc hzero =>
    refine hl.goto rfl hpc of_none of_none (fun u d _ hu hcount => ?_)
    by_cases hd : d = f.entry
    · exact .inr (hd ▸ rfl)
    · exact .inl (by simpa [addWaiter, setEntry, hd] using hcount)
  | @join t f hpc hone =>
    refine hl.goto rfl hpc of_none ?_ (fun u d _ hu hcount => .inl ?_)
    · rintro d ⟨⟩ _
      exact hl t f.entry (hpc ▸ rfl) hone
    · by_cases hd : d = f.entry
      · exact hd ▸ hone
      · simpa [addWaiter, setEntry, hd] using hcount
  | @store t f r hpc =>
    refine hl.goto rfl hpc (fun _ => id) of_none (fun u d _ hu hcount => .inl ?_)
    by_cases hd : d = f.entry
    · subst hd
      simpa [setResult, setEntry] using hcount
    · simpa [setResult, setEntry, hd] using hcount
  | notify hpc hn => exact led_notify hl ho hpc hn
  | remove hpc hr => cases hr <;> exact hl.goto rfl hpc of_none of_none (fun _ _ _ _ => .inl)

end Led

section Others

variable {a : AsyncAction n K R} {f : Flight K}

theorem pc_of_effect (heffect : c.Effect a c') (ht : t ≠ a.task) :
    c'.pc t = c.pc t ∨ ∃ g, (c.pc a.task).leads? = some g ∧ c'.pc t = (c.pc t).wake g.entry := by
  have hother : ∀ (d : SingleFlight n K R) (p : AsyncPc K R), (d.goto a.task p).pc t = d.pc t := by
    intro d p
    rw [goto_pc, if_neg ht]
  cases heffect with
  | rest => exact .inl rfl
  | @notify u q p g hpc hn =>
    refine .inr ⟨g, ?_, hother _ p⟩
    simp only [AsyncAction.task, hpc]
    exact hn.leads.1
  | _ => exact .inl (hother _ _)

theorem entries_of_effect (heffect : c.Effect a c') (he : e < c.allocated) :
    e < c'.allocated ∧ (c.entries e).waiterCount ≤ (c'.entries e).waiterCount ∧
      ∀ r, (c.entries e).result = some r → (c'.entries e).result = some r := by
  cases heffect with
  | rest => exact ⟨he, le_rfl, fun _ => id⟩
  | _ =>
    simp only [SingleFlight.goto, insertNew, addWaiter, setResult, setEntry, notifyWaiters,
      SingleFlight.remove, Function.update_apply]
    grind

theorem leads_of_effect (heffect : c.Effect a c') {u : Fin n} {g : Flight K}
    (hg : (c'.pc u).leads? = some g) :
    (c.pc u).leads? = some g ∨ (c.entries g.entry).waiterCount = 0 := by
  have hnotifies := @Notifies.leads K R
  have hremoves := @Removes.leads K R
  cases heffect with (try rw [goto_pc] at hg)
  | move hpc hm => cases hm <;> grind [AsyncPc.leads?]
  | _ =>
    grind [AsyncPc.leads?, AsyncPc.leads?_wake, notifyWaiters, SingleFlight.remove, insertNew,
      addWaiter, setResult, setEntry]

theorem LeaderDone.step (hd : c.LeaderDone e) : (c.step a).LeaderDone e := by
  obtain ⟨⟨halloc, hcount⟩, hleft⟩ := hd
  obtain ⟨halloc', hmono, _⟩ := entries_of_effect (effect_step a) halloc
  refine ⟨⟨halloc', hcount.trans hmono⟩, fun u g hg => ?_⟩
  rcases leads_of_effect (effect_step a) hg with hg | hzero
  · exact hleft u g hg
  · rintro rfl
    omega

theorem woken_step {r : R} (ht : a.task ≠ t) (halloc : f.entry < c.allocated)
    (hpc : c.pc t = .woken f) (hres : (c.entries f.entry).result = some r) :
    f.entry < (c.step a).allocated ∧ (c.step a).pc t = .woken f ∧
      ((c.step a).entries f.entry).result = some r := by
  obtain ⟨halloc', _, hresult⟩ := entries_of_effect (effect_step a) halloc
  refine ⟨halloc', ?_, hresult r hres⟩
  rcases pc_of_effect (effect_step a) ht.symm with hsame | ⟨g, _, hwake⟩
  · exact hsame.trans hpc
  · rw [hwake, hpc]
    rfl

theorem registered_step (hd : c.LeaderDone f.entry) (hpc : c.pc t = .registered f)
    (ha : a ≠ .drop t) : (c.step a).pc t = .registered f := by
  by_cases ht : t = a.task
  · cases a with
    | call u key | finishLoad u r =>
      obtain rfl : t = u := ht
      simp only [step, hpc]
    | drop u =>
      obtain rfl : t = u := ht
      exact absurd rfl ha
    | advance u =>
      obtain rfl : t = u := ht
      simp only [step, advance, hpc]
  · rcases pc_of_effect (effect_step a) ht with hsame | ⟨g, hg, hwake⟩
    · exact hsame.trans hpc
    · rw [hwake, hpc, AsyncPc.wake, if_neg]
      exact fun heq => hd.2 a.task g hg heq.symm

theorem registered_run (hd : c.LeaderDone f.entry) (hpc : c.pc t = .registered f)
    {later : List (AsyncAction n K R)} (hlater : .drop t ∉ later) :
    (run step c later).pc t = .registered f := by
  have hrun := run_invariant_of_forall (A := fun a : AsyncAction n K R => a ≠ .drop t)
    (I := fun c : SingleFlight n K R => c.LeaderDone f.entry ∧ c.pc t = .registered f)
    (fun c a hi ha => ⟨hi.1.step, registered_step hi.1 hi.2 ha⟩) ⟨hd, hpc⟩
    (fun a hmem heq => hlater (heq ▸ hmem))
  exact hrun.2

end Others

theorem Inv.shared (h : c.Inv) : c.Shared := by
  intro t f r hpc
  have hfits := h.fits t f (hpc ▸ rfl)
  rwa [hpc] at hfits

omit [DecidableEq K] in
theorem not_pending_of_done (hl : c.Led) (hd : c.LeaderDone e) : (c.pc t).pending? ≠ some e := by
  intro hp
  obtain ⟨u, hu⟩ := hl t e hp hd.1.2
  obtain ⟨f, hf, he⟩ := AsyncPc.leads_of_owes hu
  exact hd.2 u f hf he

theorem woken_of_done {f : Flight K} {r : R} (h : c.Inv) (hl : c.Led)
    (hw : (c.pc t).waiter? = some f) (hd : c.LeaderDone f.entry)
    (hres : (c.entries f.entry).result = some r) : c.pc t = .woken f := by
  have hpending := not_pending_of_done (t := t) hl hd
  have hfits := h.fits t f
  cases hpc : c.pc t <;> rw [hpc] at hw hpending hfits <;> cases hw <;>
    simp_all [AsyncPc.pending?, AsyncPc.counted?, AsyncPc.Fits]

theorem Led.heard (h : c.Inv) (hl : c.Led) : c.Heard where
  not_registered t f hpc hd :=
    not_pending_of_done hl hd (hpc ▸ rfl : (c.pc t).pending? = some f.entry)
  returns t f r hw hd hres others hothers := by
    have hrun := run_invariant_of_forall (A := fun a : AsyncAction n K R => a.task ≠ t)
      (I := fun c : SingleFlight n K R => f.entry < c.allocated ∧ c.pc t = .woken f ∧
        (c.entries f.entry).result = some r)
      (fun c a hi ha => woken_step ha hi.1 hi.2.1 hi.2.2)
      ⟨hd.1.1, woken_of_done h hl hw hd hres, hres⟩ hothers
    obtain ⟨_, hpc, hres⟩ := hrun
    simp only [step, advance, hpc, hres]
    rw [goto_pc, if_pos rfl]

/-- Tasks, keys, results, cancellations and interleavings are arbitrary. Callers get the result of
their entry; waiters are notified if tasks register before the notification, fetch no entry after
it, and look for the key of a cancelled leader after its removal. -/
theorem singleFlight_waiters_heard (actions : List (AsyncAction n K R)) :
    Always step Shared (new n K R) actions ∧
      (Guarded step Orderly (new n K R) actions → Always step Heard (new n K R) actions) := by
  constructor
  · exact always_of_guarded (G := fun _ _ => True) (fun _ a h _ => inv_step h a)
      (fun _ h => h.shared) inv_new (guarded_of_forall fun _ _ _ => trivial)
  · intro ho
    exact always_of_guarded (I := fun c => c.Inv ∧ c.Led)
      (fun _ a h ho => ⟨inv_step h.1 a, led_effect h.1 h.2 ho (effect_step a)⟩)
      (fun _ h => h.2.heard h.1) ⟨inv_new, nofun⟩ ho

instance (c : SingleFlight n K R) : DecidablePred c.OrderlyAt
  | .entering key => inferInstanceAs (Decidable (∀ u, (c.pc u).leaving? ≠ some key))
  | .notifying f _ | .cancelNotify f =>
    inferInstanceAs (Decidable (∀ u, (c.pc u).unregistered? ≠ some f.entry))
  | .checkMap f => inferInstanceAs (Decidable (f.key ∉ c.inFlight))
  | .idle | .fetched _ | .loading _ | .storing .. | .removing .. | .cancelRemove _ | .joined _
  | .registered _ | .woken _ | .returned .. | .panicked _ | .dropped => .isTrue trivial

instance (c : SingleFlight n K R) : DecidablePred c.Orderly
  | .advance t => inferInstanceAs (Decidable (c.OrderlyAt (c.pc t)))
  | .call .. | .finishLoad .. | .drop _ => .isTrue trivial

/-- A waiter hears of a load that returns, then of a leader that is cancelled. -/
def heardActions : List (AsyncAction 2 Unit Nat) :=
  [.call p₀ (), .advance p₀, .advance p₀, .call p₁ (), .advance p₁, .advance p₁, .advance p₁,
    .finishLoad p₀ 7, .advance p₀, .advance p₀, .advance p₀, .advance p₁, .call p₁ (), .advance p₁,
    .advance p₁, .call p₀ (), .advance p₀, .advance p₀, .advance p₀, .drop p₁, .advance p₁,
    .advance p₁, .advance p₀, .advance p₀]

theorem heardActions_heard : Always step Shared (new 2 Unit Nat) heardActions ∧
      Always step Heard (new 2 Unit Nat) heardActions := by
  obtain ⟨hshared, hheard⟩ := singleFlight_waiters_heard heardActions
  exact ⟨hshared, hheard (by decide +kernel)⟩

/-- The waiter joins, the leader stores, notifies and removes, and the waiter registers. -/
def missedActions : List (AsyncAction 2 Unit Nat) :=
  [.call p₀ (), .advance p₀, .advance p₀, .call p₁ (), .advance p₁, .advance p₁, .finishLoad p₀ 7,
    .advance p₀, .advance p₀, .advance p₀, .advance p₁]

theorem missedActions_registered_forever : (run step (new 2 Unit Nat) missedActions).LeaderDone 0 ∧
      ((run step (new 2 Unit Nat) missedActions).entries 0).result = some 7 ∧
      (∀ later, .drop 1 ∉ later →
        (run step (new 2 Unit Nat) (missedActions ++ later)).pc 1 = .registered ⟨(), 0⟩) ∧
      ¬ Always step Heard (new 2 Unit Nat) missedActions := by
  have hdone : (run step (new 2 Unit Nat) missedActions).LeaderDone 0 := by
    refine ⟨by decide, fun t f => ?_⟩
    have hleads : ∀ t, ((run step (new 2 Unit Nat) missedActions).pc t).leads?.isNone := by
      decide
    rw [Option.isNone_iff_eq_none.mp (hleads t)]
    exact nofun
  have hregistered : (run step (new 2 Unit Nat) missedActions).pc 1 = .registered ⟨(), 0⟩ := rfl
  refine ⟨hdone, rfl, fun later hlater => ?_, fun halways => ?_⟩
  · rw [run_append]
    exact registered_run hdone hregistered hlater
  · exact (halways.initial (List.prefix_refl _)).not_registered 1 _ hregistered hdone

end AdapterOS.SingleFlight
