import AdapterOS.Library.Run
import AdapterOS.Library.Tally

/-! The circuit breaker under concurrent calls. A step is one hold of the state lock or one access to
an atomic counter; the operation of a call runs for any time in between. -/
namespace AdapterOS.CircuitBreaker

structure CircuitBreakerConfig where
  failureThreshold : Nat := 5
  successThreshold : Nat := 3
  timeoutMs : Nat := 60000
  halfOpenMaxRequests : Nat := 10

inductive CircuitState where
  | closed
  | opened (deadline : Nat)
  | halfOpen
  deriving DecidableEq

def CircuitState.Probing (now : Nat) : CircuitState → Prop
  | .closed => False
  | .opened deadline => deadline ≤ now
  | .halfOpen => True

instance (now : Nat) : DecidablePred (CircuitState.Probing now)
  | .closed => .isFalse id
  | .opened deadline => inferInstanceAs (Decidable (deadline ≤ now))
  | .halfOpen => .isTrue trivial

/-- Under what an operation was let through. -/
inductive Admission where
  -- the breaker was closed, and no slot is taken
  | unlimited
  -- a slot was taken in a half-open period
  | trial (period : Nat)
  -- a slot was taken when the breaker was half-open no longer
  | late
  deriving DecidableEq

structure StandardCircuitBreaker where
  name : String
  config : CircuitBreakerConfig
  state : CircuitState := .closed
  consecutiveFailures : Nat := 0
  consecutiveSuccesses : Nat := 0
  halfOpenRequests : Nat := 0
  /-- The half-open periods that have begun; no branch depends on it. -/
  periods : Nat := 0

inductive CallResult where
  | ok
  | err
  | circuitBreakerOpen (service : String)
  | circuitBreakerHalfOpen (service : String)
  deriving DecidableEq

/-- Where a call stands: the access it makes next. -/
inductive Pc where
  | idle
  | loading
  | acquiring (current : Nat)
  | executing (admission : Admission)
  -- on_success and on_failure
  | settling (admission : Admission) (ok : Bool)
  | forgetFailures
  | countSuccess (admission : Admission)
  | releaseSuccess (admission : Admission) (successes : Nat)
  | releaseFailure (admission : Admission)
  | countFailure
  | calculateTimeout
  -- transition_to: the lock, then the counters one by one
  | opening (deadline : Nat)
  | openedFailures
  | openedSuccesses
  | closing
  | closedFailures
  | closedSuccesses
  | closedRequests
  | returned (result : CallResult)
  deriving DecidableEq

def Pc.Ended : Pc → Prop
  | .idle | .returned _ => True
  | _ => False

instance : DecidablePred Pc.Ended
  | .idle | .returned _ => .isTrue trivial
  | .loading | .acquiring _ | .executing _ | .settling .. | .forgetFailures | .countSuccess _
  | .releaseSuccess .. | .releaseFailure _ | .countFailure | .calculateTimeout | .opening _
  | .openedFailures | .openedSuccesses | .closing | .closedFailures | .closedSuccesses
  | .closedRequests => .isFalse id

def onSuccess (admission : Admission) : CircuitState → Pc
  | .closed => .forgetFailures
  | .halfOpen => .countSuccess admission
  | .opened _ => .forgetFailures

def onFailure (admission : Admission) : CircuitState → Pc
  | .closed => .countFailure
  | .halfOpen => .releaseFailure admission
  | .opened _ => .returned .err

namespace StandardCircuitBreaker

variable (b : StandardCircuitBreaker) (now : Nat)

/-- A breaker whose deadline has passed becomes half-open; its slots are left as they are. -/
def stateAsync : CircuitState × StandardCircuitBreaker :=
  match b.state with
  | .opened deadline =>
    if deadline ≤ now then
      (.halfOpen, { b with state := .halfOpen, periods := b.periods + 1 })
    else (.opened deadline, b)
  | state => (state, b)

def slot : Admission :=
  match b.state with
  | .halfOpen => .trial b.periods
  | _ => .late

def call : StandardCircuitBreaker × Pc :=
  match b.stateAsync now with
  | (.opened _, b') => (b', .returned (.circuitBreakerOpen b.name))
  | (.halfOpen, b') => (b', .loading)
  | (.closed, b') => (b', .executing .unlimited)

/-- The next access of a call that has begun; an operation under way ends by itself. -/
def advance : Pc → StandardCircuitBreaker × Pc
  | .loading => (b, .acquiring b.halfOpenRequests)
  | .acquiring current =>
    if b.config.halfOpenMaxRequests ≤ current then
      (b, .returned (.circuitBreakerHalfOpen b.name))
    else if b.halfOpenRequests = current then
      ({ b with halfOpenRequests := current + 1 }, .executing b.slot)
    else (b, .acquiring b.halfOpenRequests)
  | .settling admission true =>
    ((b.stateAsync now).2, onSuccess admission (b.stateAsync now).1)
  | .settling admission false =>
    ((b.stateAsync now).2, onFailure admission (b.stateAsync now).1)
  | .forgetFailures => ({ b with consecutiveFailures := 0 }, .returned .ok)
  | .countSuccess admission =>
    ({ b with consecutiveSuccesses := b.consecutiveSuccesses + 1 },
      .releaseSuccess admission (b.consecutiveSuccesses + 1))
  | .releaseSuccess _ successes =>
    ({ b with halfOpenRequests := b.halfOpenRequests - 1 },
      if b.config.successThreshold ≤ successes then .closing else .returned .ok)
  | .releaseFailure _ => ({ b with halfOpenRequests := b.halfOpenRequests - 1 }, .calculateTimeout)
  | .countFailure =>
    ({ b with consecutiveFailures := b.consecutiveFailures + 1 },
      if b.config.failureThreshold ≤ b.consecutiveFailures + 1 then .calculateTimeout
      else .returned .err)
  | .calculateTimeout => (b, .opening (now + b.config.timeoutMs))
  | .opening deadline => ({ b with state := .opened deadline }, .openedFailures)
  | .openedFailures => ({ b with consecutiveFailures := 0 }, .openedSuccesses)
  | .openedSuccesses => ({ b with consecutiveSuccesses := 0 }, .returned .err)
  | .closing => ({ b with state := .closed }, .closedFailures)
  | .closedFailures => ({ b with consecutiveFailures := 0 }, .closedSuccesses)
  | .closedSuccesses => ({ b with consecutiveSuccesses := 0 }, .closedRequests)
  | .closedRequests => ({ b with halfOpenRequests := 0 }, .returned .ok)
  | pc => (b, pc)

end StandardCircuitBreaker

structure SharedBreaker (n : Nat) where
  breaker : StandardCircuitBreaker
  now : Nat
  pc : Fin n → Pc

inductive Action (n : Nat) where
  | call (t : Fin n)
  | advance (t : Fin n)
  -- the operation of a call returns
  | finish (t : Fin n) (ok : Bool)
  | elapse (ms : Nat)
  deriving DecidableEq

namespace SharedBreaker

variable {n : Nat}

def new (n : Nat) (name : String) (config : CircuitBreakerConfig) (now : Nat) : SharedBreaker n :=
  ⟨{ name, config }, now, fun _ => .idle⟩

def goto (c : SharedBreaker n) (t : Fin n) (next : StandardCircuitBreaker × Pc) : SharedBreaker n :=
  { c with breaker := next.1, pc := Function.update c.pc t next.2 }

def step (c : SharedBreaker n) : Action n → SharedBreaker n
  | .call t =>
    match c.pc t with
    | .idle | .returned _ => c.goto t (c.breaker.call c.now)
    | _ => c
  | .advance t => c.goto t (c.breaker.advance c.now (c.pc t))
  | .finish t ok =>
    match c.pc t with
    | .executing admission => c.goto t (c.breaker, .settling admission ok)
    | _ => c
  | .elapse ms => { c with now := c.now + ms }

end SharedBreaker

section Lemmas

variable {b : StandardCircuitBreaker} {now : Nat} {n : Nat} {c : SharedBreaker n} {t : Fin n}

namespace StandardCircuitBreaker

theorem stateAsync_cases (b : StandardCircuitBreaker) (now : Nat) :
    b.stateAsync now = (b.state, b) ∨
    b.stateAsync now = (.halfOpen, { b with state := .halfOpen, periods := b.periods + 1 }) := by
  unfold stateAsync
  cases hstate : b.state with
  | closed => exact .inl rfl
  | halfOpen => exact .inl rfl
  | opened deadline =>
    by_cases hpast : deadline ≤ now
    · exact .inr (if_pos hpast)
    · exact .inl (if_neg hpast)

@[simp] theorem halfOpenRequests_stateAsync :
    (b.stateAsync now).2.halfOpenRequests = b.halfOpenRequests := by
  rcases b.stateAsync_cases now with h | h <;> rw [h]

@[simp] theorem config_stateAsync : (b.stateAsync now).2.config = b.config := by
  rcases b.stateAsync_cases now with h | h <;> rw [h]

theorem stateAsync_eq_halfOpen : (b.stateAsync now).1 = .halfOpen ↔ b.state.Probing now := by
  unfold stateAsync
  cases hstate : b.state with
  | closed => simp [CircuitState.Probing]
  | halfOpen => simp [CircuitState.Probing]
  | opened deadline => grind [CircuitState.Probing]

theorem call_fst : (b.call now).1 = (b.stateAsync now).2 := by
  unfold call
  rcases hread : b.stateAsync now with ⟨state, b'⟩
  cases state <;> rfl

theorem call_snd (now : Nat) : (b.call now).2 = .loading ∨ (b.call now).2 = .executing .unlimited ∨
    ∃ result, (b.call now).2 = .returned result := by
  unfold call
  rcases hread : b.stateAsync now with ⟨state, b'⟩
  cases state with
  | closed => exact .inr (.inl rfl)
  | halfOpen => exact .inl rfl
  | opened _ => exact .inr (.inr ⟨_, rfl⟩)

theorem call_of_halfOpen (h : (b.stateAsync now).1 = .halfOpen) :
    b.call now = ((b.stateAsync now).2, .loading) := by
  unfold call
  rcases hread : b.stateAsync now with ⟨state, b'⟩
  rw [hread] at h
  cases h
  rfl

end StandardCircuitBreaker

namespace SharedBreaker

theorem step_advance (c : SharedBreaker n) (t : Fin n) :
    c.step (.advance t) = c.goto t (c.breaker.advance c.now (c.pc t)) := rfl

variable (next : StandardCircuitBreaker × Pc)

@[simp] theorem breaker_goto : (c.goto t next).breaker = next.1 := rfl

@[simp] theorem now_goto : (c.goto t next).now = c.now := rfl

@[simp] theorem pc_goto : (c.goto t next).pc = Function.update c.pc t next.2 := rfl

end SharedBreaker

end Lemmas

end AdapterOS.CircuitBreaker
