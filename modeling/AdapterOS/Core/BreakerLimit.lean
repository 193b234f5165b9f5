import AdapterOS.Core.CircuitBreaker

/-! How many operations of one half-open period run at the same time. The count of slots is shared by
all calls, and a call from outside the period gives back a slot that it never took. -/
namespace AdapterOS.CircuitBreaker

open Library

variable {n : Nat} {c : SharedBreaker n} {t : Fin n}

namespace Pc

def runsIn (p : Nat) : Pc → Bool
  | .executing admission => admission = .trial p
  | _ => false

def holdsIn (p : Nat) : Pc → Bool
  | .executing admission | .settling admission _ | .countSuccess admission
  | .releaseSuccess admission _ | .releaseFailure admission => admission = .trial p
  | _ => false

theorem holdsIn_of_runsIn {p : Nat} {pc : Pc} (h : pc.runsIn p = true) : pc.holdsIn p = true := by
  cases pc with
  | executing admission => exact h
  | _ => cases h

end Pc

namespace SharedBreaker

def WithinLimit (c : SharedBreaker n) : Prop :=
  ∀ p, tally (Pc.runsIn p) c.pc ≤ c.breaker.config.halfOpenMaxRequests

/-- A call about to lower the count has a slot of the present half-open period, or no call has. -/
def OwnSlot (c : SharedBreaker n) : Pc → Prop
  | .releaseSuccess admission _ | .releaseFailure admission =>
    c.breaker.state = .halfOpen →
      admission = .trial c.breaker.periods ∨ tally (Pc.holdsIn c.breaker.periods) c.pc = 0
  | .closedRequests =>
    c.breaker.state = .halfOpen → tally (Pc.holdsIn c.breaker.periods) c.pc = 0
  | _ => True

def LowersOwn (c : SharedBreaker n) : Action n → Prop
  | .advance t => c.OwnSlot (c.pc t)
  | _ => True

instance (c : SharedBreaker n) : DecidablePred c.OwnSlot
  | .releaseSuccess admission _ | .releaseFailure admission =>
    inferInstanceAs (Decidable (c.breaker.state = .halfOpen →
      admission = .trial c.breaker.periods ∨ tally (Pc.holdsIn c.breaker.periods) c.pc = 0))
  | .closedRequests =>
    inferInstanceAs (Decidable (c.breaker.state = .halfOpen →
      tally (Pc.holdsIn c.breaker.periods) c.pc = 0))
  | .idle | .loading | .acquiring _ | .executing _ | .settling .. | .forgetFailures
  | .countSuccess _ | .countFailure | .calculateTimeout | .opening _ | .openedFailures
  | .openedSuccesses | .closing | .closedFailures | .closedSuccesses
  | .returned _ => .isTrue trivial

instance (c : SharedBreaker n) : (a : Action n) → Decidable (c.LowersOwn a)
  | .advance t => inferInstanceAs (Decidable (c.OwnSlot (c.pc t)))
  | .call _ | .finish .. | .elapse _ => .isTrue trivial

/-- The invariant: while the breaker is half-open, the slots of the period are counted. -/
structure Limited (c : SharedBreaker n) : Prop where
  requests : c.breaker.halfOpenRequests ≤ c.breaker.config.halfOpenMaxRequests
  counted : c.breaker.state = .halfOpen →
    tally (Pc.holdsIn c.breaker.periods) c.pc ≤ c.breaker.halfOpenRequests
  bounded : ∀ p, tally (Pc.holdsIn p) c.pc ≤ c.breaker.config.halfOpenMaxRequests
  future : ∀ p, c.breaker.periods < p → tally (Pc.holdsIn p) c.pc = 0

section Step

variable {b : StandardCircuitBreaker} {pc : Pc}

theorem tally_goto_le {p : Nat} (h : pc.holdsIn p = true → (c.pc t).holdsIn p = true) :
    tally (Pc.holdsIn p) (Function.update c.pc t pc) ≤ tally (Pc.holdsIn p) c.pc := by
  have hupdate := tally_update (Pc.holdsIn p) c.pc t pc
  have hle : (pc.holdsIn p).toNat ≤ ((c.pc t).holdsIn p).toNat := Bool.toNat_le_toNat h
  omega

variable (h : c.Limited)

include h

/-- A step by which no call gains a slot; where the breaker is half-open, the count must still
cover the slots of the period. -/
theorem Limited.lower (hconfig : b.config = c.breaker.config)
    (hperiods : b.periods = c.breaker.periods)
    (hrequests : b.halfOpenRequests ≤ c.breaker.halfOpenRequests)
    (hpc : ∀ p, pc.holdsIn p = true → (c.pc t).holdsIn p = true)
    (hcounted : b.state = .halfOpen →
      tally (Pc.holdsIn c.breaker.periods) (Function.update c.pc t pc) ≤ b.halfOpenRequests) :
    (c.goto t (b, pc)).Limited := by
  have htally := fun p => tally_goto_le (c := c) (hpc p)
  obtain ⟨⟩ := h
  constructor <;> simp only [SharedBreaker.goto] <;> grind

theorem Limited.goto (hconfig : b.config = c.breaker.config)
    (hperiods : b.periods = c.breaker.periods)
    (hrequests : b.halfOpenRequests = c.breaker.halfOpenRequests)
    (hstate : b.state = .halfOpen → c.breaker.state = .halfOpen)
    (hpc : ∀ p, pc.holdsIn p = true → (c.pc t).holdsIn p = true) :
    (c.goto t (b, pc)).Limited := by
  refine h.lower hconfig hperiods (le_of_eq hrequests) hpc ?_
  intro hhalf
  rw [hrequests]
  exact (tally_goto_le (hpc _)).trans (h.counted (hstate hhalf))

theorem Limited.stateAsync :
    ({ c with breaker := (c.breaker.stateAsync c.now).2 } : SharedBreaker n).Limited := by
  rcases c.breaker.stateAsync_cases c.now with hread | hread <;> rw [hread]
  · exact h
  · obtain ⟨⟩ := h
    constructor <;> grind

theorem Limited.read (hpc : ∀ p, pc.holdsIn p = true → (c.pc t).holdsIn p = true) :
    (c.goto t ((c.breaker.stateAsync c.now).2, pc)).Limited := by
  have hread : (({ c with breaker := (c.breaker.stateAsync c.now).2 } : SharedBreaker n).goto t
      ((c.breaker.stateAsync c.now).2, pc)).Limited := h.stateAsync.goto rfl rfl rfl id hpc
  exact hread

theorem Limited.acquire (hpc : ∀ p, (c.pc t).holdsIn p = false)
    (hroom : c.breaker.halfOpenRequests < c.breaker.config.halfOpenMaxRequests) :
    (c.goto t ({ c.breaker with halfOpenRequests := c.breaker.halfOpenRequests + 1 },
      .executing c.breaker.slot)).Limited := by
  have hupdate : ∀ p, tally (Pc.holdsIn p) (Function.update c.pc t (.executing c.breaker.slot)) =
      tally (Pc.holdsIn p) c.pc + if c.breaker.slot = .trial p then 1 else 0 := by
    grind [tally_update, Pc.holdsIn]
  have hslot : ∀ p, c.breaker.slot = .trial p → c.breaker.state = .halfOpen ∧
      p = c.breaker.periods := by
    unfold StandardCircuitBreaker.slot
    grind
  obtain ⟨⟩ := h
  constructor <;> simp only [SharedBreaker.goto, hupdate] <;> grind

theorem Limited.release {admission : Admission}
    (hconfig : b.config = c.breaker.config) (hperiods : b.periods = c.breaker.periods)
    (hstate : b.state = c.breaker.state)
    (hrequests : b.halfOpenRequests = c.breaker.halfOpenRequests - 1)
    (hold : ∀ p, (c.pc t).holdsIn p = decide (admission = .trial p))
    (hpc : ∀ p, pc.holdsIn p = false)
    (hown : c.breaker.state = .halfOpen →
      admission = .trial c.breaker.periods ∨ tally (Pc.holdsIn c.breaker.periods) c.pc = 0) :
    (c.goto t (b, pc)).Limited := by
  refine h.lower hconfig hperiods (by omega) (by simp [hpc]) ?_
  obtain ⟨⟩ := h
  grind [tally_update]

theorem Limited.advance (hown : c.LowersOwn (.advance t)) : (c.step (.advance t)).Limited := by
  rw [step_advance]
  cases hpc : c.pc t with
    (simp only [StandardCircuitBreaker.advance]; simp only [LowersOwn, OwnSlot, hpc] at hown)
  | acquiring current =>
    split_ifs with hmax hfree
    · exact h.goto rfl rfl rfl id (by simp [Pc.holdsIn])
    · rw [← hfree]
      exact h.acquire (by simp [hpc, Pc.holdsIn]) (by omega)
    · exact h.goto rfl rfl rfl id (by simp [Pc.holdsIn])
  | settling admission ok =>
    cases ok <;> refine h.read fun p => ?_ <;>
      cases (c.breaker.stateAsync c.now).1 <;> simp [hpc, onSuccess, onFailure, Pc.holdsIn]
  | releaseSuccess admission successes =>
    exact h.release rfl rfl rfl rfl (by simp [hpc, Pc.holdsIn]) (fun p => by split_ifs <;> rfl) hown
  | releaseFailure admission =>
    exact h.release rfl rfl rfl rfl (by simp [hpc, Pc.holdsIn]) (fun _ => rfl) hown
  | closedRequests =>
    refine h.lower rfl rfl (Nat.zero_le _) (by simp [Pc.holdsIn]) fun hhalf => ?_
    exact (tally_goto_le (by simp [Pc.holdsIn])).trans (hown hhalf).le
  | countFailure =>
    refine h.goto rfl rfl rfl id fun p hp => ?_
    split_ifs at hp <;> cases hp
  | opening deadline => exact h.goto rfl rfl rfl (by simp) (by simp [Pc.holdsIn])
  | closing => exact h.goto rfl rfl rfl (by simp) (by simp [Pc.holdsIn])
  | _ => exact h.goto rfl rfl rfl id (by simp [hpc, Pc.holdsIn])

theorem Limited.call : (c.step (.call t)).Limited := by
  have hbegin : (c.goto t (c.breaker.call c.now)).Limited := by
    have hnone : ∀ p, (c.breaker.call c.now).2.holdsIn p = true → (c.pc t).holdsIn p = true := by
      intro p hp
      rcases c.breaker.call_snd c.now with hpc | hpc | ⟨result, hpc⟩ <;> rw [hpc] at hp <;> cases hp
    have hread := h.read hnone
    rw [← StandardCircuitBreaker.call_fst] at hread
    exact hread
  simp only [SharedBreaker.step]
  split <;> first | exact hbegin | exact h

theorem Limited.step (a : Action n) (hown : c.LowersOwn a) : (c.step a).Limited := by
  cases a with
  | call t => exact h.call
  | advance t => exact h.advance hown
  | finish t ok =>
    simp only [SharedBreaker.step]
    split
    · next hpc => exact h.goto rfl rfl rfl id (by simp [hpc, Pc.holdsIn])
    · exact h
  | elapse ms => exact ⟨h.requests, h.counted, h.bounded, h.future⟩

end Step

/-- In a run in which no call lowers the count for a slot of the present half-open period that it
does not have, the limit is kept. -/
theorem withinLimit_of_lowersOwn {name : String} {config : CircuitBreakerConfig} {now : Nat}
    {actions : List (Action n)}
    (hown : Guarded step LowersOwn (new n name config now) actions) :
    Always step WithinLimit (new n name config now) actions := by
  refine always_of_guarded (I := Limited) (fun c a h => h.step a) ?_ ?_ hown
  · intro c h p
    exact (tally_le_of_imp (fun _ => Pc.holdsIn_of_runsIn) c.pc).trans (h.bounded p)
  · have hnone : ∀ p, tally (Pc.holdsIn p) (fun _ : Fin n => Pc.idle) = 0 :=
      fun p => tally_const _ rfl
    exact ⟨Nat.zero_le _, nofun, fun p => (hnone p).le.trans (Nat.zero_le _), fun p _ => hnone p⟩

/-- One failure opens, two successes close, and one call at a time is let through in between. -/
def limitConfig : CircuitBreakerConfig := ⟨1, 2, 10, 1⟩

/-- The second call fails while the breaker is closed and opens it; then its next call is let
through in the half-open period. -/
def probing (first : List (Action 2)) : List (Action 2) :=
  first ++ [.call p₁, .finish p₁ false, .advance p₁, .advance p₁, .advance p₁, .advance p₁,
    .advance p₁, .advance p₁, .elapse 10, .call p₁, .advance p₁, .advance p₁]

/-- Only one call at a time. -/
theorem withinLimit_alone : Always step WithinLimit (new 2 "s" limitConfig 0)
      (probing [] ++ [.finish p₁ true, .advance p₁, .advance p₁, .advance p₁, .call p₀, .advance p₀,
        .advance p₀]) :=
  withinLimit_of_lowersOwn (by decide)

/-- A call from before the breaker opened ends in the half-open period and gives back the slot of
the call that is running, so that a second one is let through. -/
theorem not_withinLimit_lateCall : ¬ Always step WithinLimit (new 2 "s" limitConfig 0)
      (probing [.call p₀] ++ [.finish p₀ true, .advance p₀, .advance p₀, .advance p₀, .call p₀,
        .advance p₀, .advance p₀]) := by
  intro halways
  have hlimit := halways.initial (List.prefix_refl _) 1
  revert hlimit
  decide

end SharedBreaker

end AdapterOS.CircuitBreaker
