import AdapterOS.Core.CircuitBreaker

/-! When the breaker recovers: a slot taken by a call must be given back. A call gives its slot back
only if it finds the breaker half-open when its operation ends, so slots leak when others have moved
the breaker meanwhile. -/
namespace AdapterOS.CircuitBreaker

open Library

variable {n : Nat} {c : SharedBreaker n} {t : Fin n}

def Admission.hasSlot : Admission → Bool
  | .unlimited => false
  | .trial _ | .late => true

namespace Pc

def holds : Pc → Bool
  | .executing admission | .settling admission _ | .countSuccess admission
  | .releaseSuccess admission _ | .releaseFailure admission => admission.hasSlot
  | _ => false

def resets : Pc → Bool
  | .closing | .closedFailures | .closedSuccesses | .closedRequests => true
  | _ => false

end Pc

namespace SharedBreaker

def Quiet (c : SharedBreaker n) : Prop := ∀ t, (c.pc t).Ended

/-- Where no call is under way and the breaker is half-open or past its deadline, the next call runs
its operation. -/
def Recovers (c : SharedBreaker n) : Prop :=
  c.Quiet → c.breaker.state.Probing c.now →
    ∀ t, ∃ admission,
      (run step c [.call t, .advance t, .advance t]).pc t = .executing admission

/-- The slot of a call that looks at the state after its operation is given back, or it does not
matter: the count is about to be set to zero, or already lower than the slots that are held. -/
def Returnable (c : SharedBreaker n) : Pc → Prop
  | .settling admission _ =>
    admission.hasSlot = true →
      c.breaker.state.Probing c.now ∨
      0 < tally Pc.resets c.pc ∨ c.breaker.halfOpenRequests < tally Pc.holds c.pc
  | _ => True

/-- A call that ends with a slot finds the breaker half-open or the slot does not matter. -/
def GivesBack (c : SharedBreaker n) : Action n → Prop
  | .advance t => c.Returnable (c.pc t)
  | _ => True

instance (c : SharedBreaker n) : Decidable c.Quiet :=
  inferInstanceAs (Decidable (∀ t, (c.pc t).Ended))

instance (c : SharedBreaker n) : DecidablePred c.Returnable
  | .settling admission _ =>
    inferInstanceAs (Decidable (admission.hasSlot = true →
      c.breaker.state.Probing c.now ∨
      0 < tally Pc.resets c.pc ∨ c.breaker.halfOpenRequests < tally Pc.holds c.pc))
  | .idle | .loading | .acquiring _ | .executing _ | .forgetFailures | .countSuccess _
  | .releaseSuccess .. | .releaseFailure _ | .countFailure | .calculateTimeout | .opening _
  | .openedFailures | .openedSuccesses | .closing | .closedFailures | .closedSuccesses
  | .closedRequests | .returned _ => .isTrue trivial

instance (c : SharedBreaker n) : (a : Action n) → Decidable (c.GivesBack a)
  | .advance t => inferInstanceAs (Decidable (c.Returnable (c.pc t)))
  | .call _ | .finish .. | .elapse _ => .isTrue trivial

def Counted (c : SharedBreaker n) : Prop :=
  0 < tally Pc.resets c.pc ∨ c.breaker.halfOpenRequests ≤ tally Pc.holds c.pc

section Step

variable {b : StandardCircuitBreaker} {pc : Pc}

theorem counted_goto_zero (h : b.halfOpenRequests = 0) : (c.goto t (b, pc)).Counted := by
  right
  change b.halfOpenRequests ≤ _
  omega

theorem Counted.goto (h : c.Counted) (hresets : (c.pc t).resets = true → pc.resets = true)
    (hholds : b.halfOpenRequests + (c.pc t).holds.toNat ≤
      c.breaker.halfOpenRequests + pc.holds.toNat) : (c.goto t (b, pc)).Counted := by
  have hr := tally_update Pc.resets c.pc t pc
  have hh := tally_update Pc.holds c.pc t pc
  have hle : (c.pc t).resets.toNat ≤ pc.resets.toNat := Bool.toNat_le_toNat hresets
  simp only [Counted, SharedBreaker.goto] at h ⊢
  omega

theorem Counted.release (h : c.Counted) (hresets : (c.pc t).resets = false)
    (hpc : pc.holds = false) (hb : b.halfOpenRequests = c.breaker.halfOpenRequests - 1) :
    (c.goto t (b, pc)).Counted := by
  by_cases hzero : c.breaker.halfOpenRequests = 0
  · refine counted_goto_zero ?_
    omega
  · refine h.goto (by simp [hresets]) ?_
    have hone := Bool.toNat_le (c.pc t).holds
    rw [hpc, hb]
    simp only [Bool.toNat_false]
    omega

theorem counted_leave (hresets : (c.pc t).resets = false)
    (hpc : pc.resets = false) (hb : b.halfOpenRequests = c.breaker.halfOpenRequests)
    (hleft : 0 < tally Pc.resets c.pc ∨ c.breaker.halfOpenRequests < tally Pc.holds c.pc) :
    (c.goto t (b, pc)).Counted := by
  have hr := tally_update Pc.resets c.pc t pc
  have hh := tally_update Pc.holds c.pc t pc
  have hone := Bool.toNat_le (c.pc t).holds
  rw [hresets, hpc] at hr
  simp only [Counted, SharedBreaker.goto]
  omega

theorem Counted.settle {admission : Admission} (h : c.Counted) (next : CircuitState → Pc)
    (hpc : (c.pc t).resets = false) (hslot : (c.pc t).holds = admission.hasSlot)
    (hnext : ∀ state, (next state).resets = false)
    (hhalf : (next .halfOpen).holds = admission.hasSlot)
    (hback : admission.hasSlot = true → c.breaker.state.Probing c.now ∨
      0 < tally Pc.resets c.pc ∨ c.breaker.halfOpenRequests < tally Pc.holds c.pc) :
    (c.goto t ((c.breaker.stateAsync c.now).2, next (c.breaker.stateAsync c.now).1)).Counted := by
  rw [← StandardCircuitBreaker.stateAsync_eq_halfOpen] at hback
  by_cases hread : (c.breaker.stateAsync c.now).1 = .halfOpen
  · refine h.goto (by simp [hpc]) ?_
    rw [hread, hhalf, hslot, StandardCircuitBreaker.halfOpenRequests_stateAsync]
  · cases hhas : admission.hasSlot with
    | false =>
      refine h.goto (by simp [hpc]) ?_
      rw [hslot, hhas, StandardCircuitBreaker.halfOpenRequests_stateAsync]
      simp
    | true =>
      refine counted_leave hpc (hnext _) (by simp) ?_
      exact (hback hhas).resolve_left hread

theorem Counted.advance (h : c.Counted) (hback : c.GivesBack (.advance t)) :
    (c.step (.advance t)).Counted := by
  rw [step_advance]
  cases hpc : c.pc t with
    (simp only [StandardCircuitBreaker.advance]; simp only [GivesBack, Returnable, hpc] at hback)
  | acquiring current =>
    have hslot : c.breaker.slot.hasSlot = true := by
      unfold StandardCircuitBreaker.slot
      split <;> rfl
    split_ifs with hmax hfree <;>
      exact h.goto (by simp [hpc, Pc.resets]) (by simp_all [Pc.holds])
  | settling admission ok =>
    cases ok with
    | true =>
      refine h.settle (onSuccess admission) (by simp [hpc, Pc.resets])
        (by simp [hpc, Pc.holds]) (fun state => ?_) rfl hback
      cases state <;> rfl
    | false =>
      refine h.settle (onFailure admission) (by simp [hpc, Pc.resets])
        (by simp [hpc, Pc.holds]) (fun state => ?_) rfl hback
      cases state <;> rfl
  | releaseSuccess admission successes =>
    refine h.release (by simp [hpc, Pc.resets]) ?_ rfl
    split_ifs <;> rfl
  | releaseFailure admission => exact h.release (by simp [hpc, Pc.resets]) rfl rfl
  | closedRequests => exact counted_goto_zero rfl
  | _ => exact h.goto (by simp [hpc, Pc.resets]) (by simp [hpc, Pc.holds])

theorem Counted.call (h : c.Counted) : (c.step (.call t)).Counted := by
  have hbegin : (c.pc t).resets = false → (c.pc t).holds = false →
      (c.goto t (c.breaker.call c.now)).Counted := by
    intro hresets hholds
    have hrequests : (c.breaker.call c.now).1.halfOpenRequests = c.breaker.halfOpenRequests := by
      rw [StandardCircuitBreaker.call_fst, StandardCircuitBreaker.halfOpenRequests_stateAsync]
    rcases hcall : c.breaker.call c.now with ⟨b, pc⟩
    rw [hcall] at hrequests
    refine h.goto (by simp [hresets]) ?_
    rw [hrequests, hholds]
    simp
  grind [SharedBreaker.step, Pc.resets, Pc.holds]

theorem Counted.finish (h : c.Counted) (ok : Bool) : (c.step (.finish t ok)).Counted := by
  simp only [SharedBreaker.step]
  split
  · next hpc => exact h.goto (by simp [hpc, Pc.resets]) (by simp [hpc, Pc.holds])
  · exact h

theorem Counted.step (h : c.Counted) (a : Action n) (hback : c.GivesBack a) :
    (c.step a).Counted := by
  cases a with
  | call t => exact h.call
  | advance t => exact h.advance hback
  | finish t ok => exact h.finish ok
  | elapse ms => exact h

end Step

section Recovery

variable {a : Action n} {actions : List (Action n)}

theorem config_advance (b : StandardCircuitBreaker) (now : Nat) (pc : Pc) :
    (b.advance now pc).1.config = b.config := by
  cases pc with
  | acquiring current =>
    simp only [StandardCircuitBreaker.advance]
    split_ifs <;> rfl
  | settling admission ok => cases ok <;> simp [StandardCircuitBreaker.advance]
  | _ => rfl

theorem config_step (c : SharedBreaker n) (a : Action n) :
    (c.step a).breaker.config = c.breaker.config := by
  cases a with
  | call t =>
    simp only [SharedBreaker.step]
    split
    · simp [StandardCircuitBreaker.call_fst]
    · simp [StandardCircuitBreaker.call_fst]
    · rfl
  | advance t => exact config_advance _ _ _
  | finish t ok =>
    simp only [SharedBreaker.step]
    split <;> rfl
  | elapse ms => rfl

theorem Quiet.tally_eq_zero (h : c.Quiet) {p : Pc → Bool}
    (hp : ∀ pc : Pc, pc.Ended → p pc = false) :
    tally p c.pc = 0 := by
  rw [Library.tally_eq_zero]
  exact fun t => hp _ (h t)

theorem runs_of_room (hended : (c.pc t).Ended) (hstate : c.breaker.state.Probing c.now)
    (hroom : c.breaker.halfOpenRequests < c.breaker.config.halfOpenMaxRequests) :
    ∃ admission, (run step c [.call t, .advance t, .advance t]).pc t = .executing admission := by
  have hcall : c.step (.call t) = c.goto t ((c.breaker.stateAsync c.now).2, .loading) := by
    grind [StandardCircuitBreaker.stateAsync_eq_halfOpen, SharedBreaker.step, Pc.Ended,
      StandardCircuitBreaker.call_of_halfOpen]
  refine ⟨(c.breaker.stateAsync c.now).2.slot, ?_⟩
  simp only [run_cons, run_nil, hcall, step_advance, pc_goto, breaker_goto,
    Function.update_self, StandardCircuitBreaker.advance,
    StandardCircuitBreaker.halfOpenRequests_stateAsync, StandardCircuitBreaker.config_stateAsync]
  rw [if_neg (by omega), if_pos trivial]

theorem Counted.recovers (h : c.Counted) (hmax : 1 ≤ c.breaker.config.halfOpenMaxRequests) :
    c.Recovers := by
  intro hquiet hstate t
  refine runs_of_room (hquiet t) hstate ?_
  have hresets : tally Pc.resets c.pc = 0 := by
    refine hquiet.tally_eq_zero fun pc hended => ?_
    cases pc <;> first | rfl | exact hended.elim
  have hholds : tally Pc.holds c.pc = 0 := by
    refine hquiet.tally_eq_zero fun pc hended => ?_
    cases pc <;> first | rfl | exact hended.elim
  rw [Counted] at h
  omega

/-- In a run in which every call gives its slot back, the breaker recovers from every state. -/
theorem recovers_of_givesBack {name : String} {config : CircuitBreakerConfig} {now : Nat}
    (hmax : 1 ≤ config.halfOpenMaxRequests)
    (hback : Guarded step GivesBack (new n name config now) actions) :
    Always step Recovers (new n name config now) actions := by
  refine always_of_guarded (G := GivesBack)
    (I := fun c => c.Counted ∧ 1 ≤ c.breaker.config.halfOpenMaxRequests) ?_ ?_ ?_ hback
  · rintro c a ⟨hcounted, hone⟩ hgives
    refine ⟨hcounted.step a hgives, ?_⟩
    rw [config_step]
    exact hone
  · rintro c ⟨hcounted, hone⟩
    exact hcounted.recovers hone
  · exact ⟨.inr (Nat.zero_le _), hmax⟩

end Recovery

section Leak

variable {u : Fin n} {pc : Pc}

/-- A breaker without a free slot, whose calls have ended or are on their way to a refusal. -/
structure Full (c : SharedBreaker n) : Prop where
  halfOpen : c.breaker.state = .halfOpen
  noRoom : c.breaker.config.halfOpenMaxRequests ≤ c.breaker.halfOpenRequests
  refused : ∀ t, (c.pc t).Ended ∨ c.pc t = .loading ∨ c.pc t = .acquiring c.breaker.halfOpenRequests

theorem Full.goto (h : c.Full)
    (hpc : pc.Ended ∨ pc = .loading ∨ pc = .acquiring c.breaker.halfOpenRequests) :
    (c.goto u (c.breaker, pc)).Full := by
  have hrefused := h.refused
  refine ⟨h.halfOpen, h.noRoom, ?_⟩
  simp only [SharedBreaker.goto, Function.update_apply]
  grind

theorem Full.not_executing (h : c.Full) (t : Fin n) (admission : Admission) :
    c.pc t ≠ .executing admission := by
  intro hexec
  have hrefused := h.refused t
  simp_all [Pc.Ended]

theorem Full.step (h : c.Full) (a : Action n) : (c.step a).Full := by
  cases a with
  | call u =>
    have hcall : c.breaker.call c.now = (c.breaker, .loading) := by
      simp [StandardCircuitBreaker.call, StandardCircuitBreaker.stateAsync, h.halfOpen]
    simp only [SharedBreaker.step, hcall]
    split <;> first | exact h | exact h.goto (.inr (.inl rfl))
  | advance u =>
    rw [step_advance]
    rcases h.refused u with hended | hload | hacquire
    · cases hpc : c.pc u <;> rw [hpc] at hended <;>
        first | exact hended.elim | exact h.goto (.inl trivial)
    · rw [hload]
      exact h.goto (.inr (.inr rfl))
    · rw [hacquire, StandardCircuitBreaker.advance, if_pos h.noRoom]
      exact h.goto (.inl trivial)
  | finish u ok =>
    simp only [SharedBreaker.step]
    split
    · next hpc => exact absurd hpc (h.not_executing u _)
    · exact h
  | elapse ms => exact ⟨h.halfOpen, h.noRoom, h.refused⟩

theorem not_executing_of_full (h : c.Full) (actions : List (Action n)) (t : Fin n)
    (admission : Admission) : (run step c actions).pc t ≠ .executing admission := by
  have hfull : (run step c actions).Full :=
    run_invariant (I := Full) (fun _ a hfull => hfull.step a) h actions
  exact hfull.not_executing t admission

/-- One failure opens, one success closes, and one call at a time is let through in between. -/
def sampleConfig : CircuitBreakerConfig := ⟨1, 1, 10, 1⟩

/-- A call fails while the breaker is closed and opens it, until ten milliseconds have passed. -/
def opened : List (Action 2) :=
  [.call p₀, .finish p₀ false, .advance p₀, .advance p₀, .advance p₀, .advance p₀, .advance p₀,
    .advance p₀, .elapse 10]

/-- One call is let through and closes the breaker again. -/
theorem recovers_after_success : Always step Recovers (new 2 "s" sampleConfig 0)
      (opened ++ [.call p₀, .advance p₀, .advance p₀, .finish p₀ true, .advance p₀, .advance p₀,
        .advance p₀, .advance p₀, .advance p₀, .advance p₀, .advance p₀]) :=
  recovers_of_givesBack (by decide) (by decide)

/-- The first call fails and gives its slot back; the second is let through before the first has
opened the breaker and ends when it is open. -/
def leak : List (Action 2) :=
  opened ++ [.call p₀, .advance p₀, .advance p₀, .finish p₀ false, .advance p₀, .advance p₀,
    .call p₁, .advance p₁, .advance p₁,
    .advance p₀, .advance p₀, .advance p₀, .advance p₀,
    .finish p₁ true, .advance p₁, .advance p₁, .elapse 10]

/-- After the leak no call is under way and the deadline has passed, but the next call is refused,
and so is every later one. -/
theorem not_recovers_after_leak : 1 ≤ sampleConfig.halfOpenMaxRequests ∧
    ¬ Always step Recovers (new 2 "s" sampleConfig 0) leak ∧
    ∀ actions t admission, (run step (new 2 "s" sampleConfig 0)
        (leak ++ [.call p₀, .advance p₀, .advance p₀] ++ actions)).pc t ≠ .executing admission := by
  refine ⟨by decide, ?_, ?_⟩
  · intro halways
    have hrecovers : (run step (new 2 "s" sampleConfig 0) leak).Recovers :=
      halways.initial (List.prefix_refl leak)
    obtain ⟨admission, hexec⟩ := hrecovers (by decide) (by decide) p₀
    have hrefused : (run step (run step (new 2 "s" sampleConfig 0) leak)
        [.call p₀, .advance p₀, .advance p₀]).pc p₀ = .returned (.circuitBreakerHalfOpen "s") := by
      decide
    rw [hrefused] at hexec
    cases hexec
  · intro actions t admission
    rw [run_append]
    refine not_executing_of_full ⟨by decide, by decide, ?_⟩ actions t admission
    intro t
    exact .inl ((by decide : ∀ t, ((run step (new 2 "s" sampleConfig 0)
      (leak ++ [.call p₀, .advance p₀, .advance p₀])).pc t).Ended) t)

end Leak

end SharedBreaker

end AdapterOS.CircuitBreaker
