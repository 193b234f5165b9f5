import AdapterOS.Server.Idempotency

/-! The locks of the idempotency store, under calls that come one after another. -/
namespace AdapterOS.Server.IdempotencyStore

open Library

inductive StoreCall where
  | markInProgress (key : String)
  | storeResponse (key : String) (response : CachedResponse)
  | remove (key : String)
  | cleanupExpired (now : Timestamp)

def storeStep (s : IdempotencyStore) : StoreCall → IdempotencyStore
  | .markInProgress key => (s.markInProgress key).1
  | .storeResponse key response => s.storeResponse key response
  | .remove key => s.remove key
  | .cleanupExpired now => (s.cleanupExpired now).1

def LocksMatch (s : IdempotencyStore) : Prop :=
  ∀ key, s.hasLock key = true ↔ s.check key = .inProgress

def FreshMark (s : IdempotencyStore) : StoreCall → Prop
  | .markInProgress key => s.check key ≠ .inProgress
  | _ => True

/-- Responses are with the completed entries. -/
structure Inv (s : IdempotencyStore) : Prop where
  locks : s.LocksMatch
  response : ∀ key entry, s.cache.get? key = some entry → entry.status = .inProgress →
    entry.response = none

variable {s : IdempotencyStore}

theorem inv_new : Inv new := ⟨fun _ => by simp [hasLock, check, new], fun _ _ h => by cases h⟩

theorem inv_step (h : Inv s) (c : StoreCall) (hfresh : s.FreshMark c) : Inv (storeStep s c) := by
  obtain ⟨hlocks, hresponse⟩ := h
  simp only [LocksMatch, hasLock, check] at hlocks
  cases c with
  | markInProgress key =>
    simp only [FreshMark, check] at hfresh
    cases hkey : s.cache.get? key with
    | none =>
      constructor
      · intro k
        simp only [storeStep, markInProgress, hkey, hasLock, check]
        grind
      · simp only [storeStep, markInProgress, hkey]
        grind
    | some entry =>
      constructor
      · intro k
        simp only [storeStep, markInProgress, hkey, hasLock, check]
        grind
      · simpa only [storeStep, markInProgress, hkey] using hresponse
  | storeResponse key response =>
    constructor
    · intro k
      simp only [storeStep, storeResponse, hasLock, check]
      grind
    · simp only [storeStep, storeResponse]
      grind
  | remove key =>
    constructor
    · intro k
      simp only [storeStep, remove, hasLock, check]
      grind
    · simp only [storeStep, remove]
      grind
  | cleanupExpired now =>
    constructor
    · intro k
      have hk := hlocks k
      simp only [storeStep, cleanupExpired, hasLock, check, AList.get?_retain]
      cases hkey : s.cache.get? k with
      | none => simp_all
      | some entry =>
        have hkeep : entry.status = .inProgress → keeps now entry = true := by
          intro hbusy
          simp [keeps, hresponse k entry hkey hbusy, hbusy]
        simp only [hkey] at hk
        cases hlock : s.locks.get? k <;> cases hdrop : keeps now entry <;> simp_all [Option.filter]
    · simp only [storeStep, cleanupExpired]
      grind

theorem freshMark_of_locksMatch (c : StoreCall) (hstep : LocksMatch (storeStep s c)) :
    s.FreshMark c := by
  cases c with
  | markInProgress key =>
    intro hbusy
    have hkey := hstep key
    simp only [check] at hbusy
    cases hget : s.cache.get? key with
    | none => simp [hget] at hbusy
    | some entry =>
      rw [hget] at hbusy
      simp [storeStep, markInProgress, hasLock, check, hget, hbusy, AList.get?_erase] at hkey
  | _ => trivial

theorem locksMatch_iff (calls : List StoreCall) :
    Always storeStep LocksMatch new calls ↔ Guarded storeStep FreshMark new calls :=
  always_iff_guarded_of_kept (fun _ c h hfresh => inv_step h c hfresh) (fun _ h => h.locks)
    (fun _ c _ hstep => freshMark_of_locksMatch c hstep) inv_new

theorem second_mark_unlocks :
    let s := run storeStep new [.markInProgress "k", .markInProgress "k"]
    s.check "k" = .inProgress ∧ s.hasLock "k" = false := by
  decide

end AdapterOS.Server.IdempotencyStore
