import AdapterOS.Library.HashMap
import AdapterOS.Library.Run
import Mathlib.Data.Fintype.Basic

/-! The blocking single flight: threads that ask for a key while it is being loaded wait for the
one that loads it. A step is one mutex, atomic or condvar operation; a critical section of the
in-flight map is one step, since nothing else touches what it touches. -/
namespace AdapterOS.SingleFlight

open Library

variable {n : Nat} {K R : Type*}

theorem of_none {α : Type*} {P : α → Prop} (a : α) (h : none = some a) : P a := nomatch h

/-- The key of a call and the in-flight entry it works on. -/
structure Flight (K : Type*) where
  key : K
  entry : Nat

/-- An in-flight entry; `holder` is the thread that has its result locked. Threads parked on its
condvar are found by where they stand. -/
structure InFlightEntrySync (n : Nat) (R : Type*) where
  result : Option R := none
  holder : Option (Fin n) := none
  waiterCount : Nat := 0
  leaderPanicked : Bool := false

/-- Where a thread stands in `get_or_load`. -/
inductive SyncPc (K R : Type*) where
  | idle
  | entering (key : K)
  -- the leader: its load, then the result and the notification
  | loading (f : Flight K)
  | storing (f : Flight K) (r : R)
  | notifying (f : Flight K) (r : R)
  | unlocking (f : Flight K) (r : R)
  | removing (f : Flight K) (r : R)
  -- the cleanup guard of a leader whose load panics
  | unwinding (f : Flight K)
  | unwindNotify (f : Flight K)
  | unwindRemove (f : Flight K)
  -- a waiter, from the lock of the result to its return
  | joined (f : Flight K)
  | checkResult (f : Flight K)
  | checkPanicked (f : Flight K)
  | waiting (f : Flight K)
  | parked (f : Flight K)
  | woken (f : Flight K)
  | cloned (f : Flight K) (r : R)
  | poisoned (f : Flight K)
  -- the end of a call
  | returned (f : Flight K) (r : R)
  | panicked (f : Flight K)

inductive Outcome (R : Type*) where
  | returns (r : R)
  | panics

inductive SyncAction (n : Nat) (K R : Type*) where
  | call (t : Fin n) (key : K)
  | finishLoad (t : Fin n) (outcome : Outcome R)
  | advance (t : Fin n)

structure SingleFlightSync (n : Nat) (K R : Type*) where
  inFlight : HashMap K Nat
  entries : Nat → InFlightEntrySync n R
  allocated : Nat
  pc : Fin n → SyncPc K R

namespace SyncPc

def wake (e : Nat) : SyncPc K R → SyncPc K R
  | .parked f => if f.entry = e then .woken f else .parked f
  | pc => pc

def flight? : SyncPc K R → Option (Flight K)
  | .idle | .entering _ => none
  | .loading f | .storing f _ | .notifying f _ | .unlocking f _ | .removing f _ | .unwinding f
  | .unwindNotify f | .unwindRemove f | .joined f | .checkResult f | .checkPanicked f | .waiting f
  | .parked f | .woken f | .cloned f _ | .poisoned f | .returned f _ | .panicked f => some f

def leads? : SyncPc K R → Option (Flight K)
  | .loading f | .storing f _ | .notifying f _ | .unlocking f _ | .removing f _ | .unwinding f
  | .unwindNotify f | .unwindRemove f => some f
  | _ => none

def holds? : SyncPc K R → Option Nat
  | .notifying f _ | .unlocking f _ | .checkResult f | .checkPanicked f | .waiting f | .cloned f _
  | .poisoned f => some f.entry
  | _ => none

def undecided? : SyncPc K R → Option Nat
  | .loading f | .storing f _ | .unwinding f => some f.entry
  | _ => none

/-- What the result and the panic mark of its entry are where a thread stands. -/
def Fits (x : InFlightEntrySync n R) : SyncPc K R → Prop
  | .loading _ | .storing .. | .unwinding _ => x.result = none ∧ x.leaderPanicked = false
  | .notifying _ r | .unlocking _ r | .removing _ r => x.result = some r ∧ x.leaderPanicked = false
  | .unwindNotify _ | .unwindRemove _ | .poisoned _ | .panicked _ =>
    x.result = none ∧ x.leaderPanicked = true
  | .checkPanicked _ | .waiting _ => x.result = none
  | .cloned _ r | .returned _ r => x.result = some r
  | .idle | .entering _ | .joined _ | .checkResult _ | .parked _ | .woken _ => True

variable {pc : SyncPc K R}

theorem Fits.congr {x y : InFlightEntrySync n R} (h : pc.Fits x)
    (hresult : y.result = x.result) (hflag : y.leaderPanicked = x.leaderPanicked) : pc.Fits y := by
  cases pc <;> simp only [Fits, hresult, hflag] at h ⊢ <;> exact h

theorem view_wake {α : Sort*} (view : SyncPc K R → α)
    (hview : ∀ f, view (.woken f) = view (.parked f)) (e : Nat) (pc : SyncPc K R) :
    view (pc.wake e) = view pc := by
  cases pc with
  | parked f =>
    simp only [wake]
    split
    · exact hview f
    · rfl
  | _ => rfl

section Wake

variable (e : Nat) (pc)

@[simp] theorem flight?_wake : (pc.wake e).flight? = pc.flight? :=
  view_wake flight? (fun _ => rfl) e pc

@[simp] theorem leads?_wake : (pc.wake e).leads? = pc.leads? :=
  view_wake leads? (fun _ => rfl) e pc

@[simp] theorem holds?_wake : (pc.wake e).holds? = pc.holds? :=
  view_wake holds? (fun _ => rfl) e pc

@[simp] theorem undecided?_wake : (pc.wake e).undecided? = pc.undecided? :=
  view_wake undecided? (fun _ => rfl) e pc

@[simp] theorem fits_wake (x : InFlightEntrySync n R) : (pc.wake e).Fits x ↔ pc.Fits x :=
  iff_of_eq (view_wake (Fits x) (fun _ => rfl) e pc)

end Wake

theorem leads_of_undecided {e : Nat} (h : pc.undecided? = some e) :
    ∃ f, pc.leads? = some f ∧ f.entry = e := by
  cases pc with
  | loading f => exact ⟨f, rfl, by simpa [undecided?] using h⟩
  | storing f _ => exact ⟨f, rfl, by simpa [undecided?] using h⟩
  | unwinding f => exact ⟨f, rfl, by simpa [undecided?] using h⟩
  | _ => cases h

theorem flight_of_leads {f : Flight K} (h : pc.leads? = some f) : pc.flight? = some f := by
  cases pc <;> first | exact h | cases h

theorem flight_of_holds {e : Nat} (h : pc.holds? = some e) :
    ∃ f, pc.flight? = some f ∧ f.entry = e := by
  cases pc <;> first | exact ⟨_, rfl, Option.some.inj h⟩ | cases h

end SyncPc

namespace SingleFlightSync

variable [DecidableEq K] (c : SingleFlightSync n K R) (t : Fin n)

def new (n : Nat) (K R : Type*) : SingleFlightSync n K R := ⟨∅, fun _ => {}, 0, fun _ => .idle⟩

def goto (pc : SyncPc K R) : SingleFlightSync n K R := { c with pc := Function.update c.pc t pc }

def setEntry (e : Nat) (entry : InFlightEntrySync n R) : SingleFlightSync n K R :=
  { c with entries := Function.update c.entries e entry }

def setHolder (e : Nat) (holder : Option (Fin n)) : SingleFlightSync n K R :=
  c.setEntry e { c.entries e with holder }

def lock (e : Nat) : SingleFlightSync n K R := c.setHolder e (some t)

def unlock (e : Nat) : SingleFlightSync n K R := c.setHolder e none

def notifyAll (e : Nat) : SingleFlightSync n K R := { c with pc := fun u => (c.pc u).wake e }

/-- Get or insert the in-flight entry; whoever counts as its first waiter leads. -/
def enter (key : K) : SingleFlightSync n K R :=
  match c.inFlight.get? key with
  | some e =>
    let count := (c.entries e).waiterCount + 1
    (c.setEntry e { c.entries e with waiterCount := count }).goto t
      (if count = 1 then .loading ⟨key, e⟩ else .joined ⟨key, e⟩)
  | none =>
    { c.setEntry c.allocated { waiterCount := 1 } with
      inFlight := c.inFlight.insert key c.allocated
      allocated := c.allocated + 1 }.goto t (.loading ⟨key, c.allocated⟩)

/-- One operation of a thread; one that needs a mutex another thread has does not move. -/
def advance : SingleFlightSync n K R :=
  match c.pc t with
  | .entering key => c.enter t key
  | .storing f r =>
    if (c.entries f.entry).holder = none then
      (c.setEntry f.entry { c.entries f.entry with result := some r, holder := some t }).goto t
        (.notifying f r)
    else c
  | .notifying f r => (c.notifyAll f.entry).goto t (.unlocking f r)
  | .unlocking f r => (c.unlock f.entry).goto t (.removing f r)
  | .removing f r => { c with inFlight := c.inFlight.erase f.key }.goto t (.returned f r)
  | .unwinding f =>
    (c.setEntry f.entry { c.entries f.entry with leaderPanicked := true }).goto t (.unwindNotify f)
  | .unwindNotify f => (c.notifyAll f.entry).goto t (.unwindRemove f)
  | .unwindRemove f => { c with inFlight := c.inFlight.erase f.key }.goto t (.panicked f)
  | .joined f | .woken f =>
    if (c.entries f.entry).holder = none then (c.lock t f.entry).goto t (.checkResult f) else c
  | .checkResult f =>
    c.goto t (match (c.entries f.entry).result with
      | some r => .cloned f r
      | none => .checkPanicked f)
  | .checkPanicked f =>
    c.goto t (if (c.entries f.entry).leaderPanicked then .poisoned f else .waiting f)
  | .waiting f => (c.unlock f.entry).goto t (.parked f)
  | .cloned f r => (c.unlock f.entry).goto t (.returned f r)
  | .poisoned f => (c.unlock f.entry).goto t (.panicked f)
  | .idle | .loading _ | .parked _ | .returned .. | .panicked _ => c

def step (c : SingleFlightSync n K R) : SyncAction n K R → SingleFlightSync n K R
  | .call t key =>
    match c.pc t with
    | .idle | .returned .. | .panicked _ => c.goto t (.entering key)
    | _ => c
  | .finishLoad t outcome =>
    match c.pc t, outcome with
    | .loading f, .returns r => c.goto t (.storing f r)
    | .loading f, .panics => c.goto t (.unwinding f)
    | _, _ => c
  | .advance t => c.advance t

structure Inv : Prop where
  /-- A leader's entry is the one in the map under its key. -/
  slot : ∀ t f, (c.pc t).leads? = some f → c.inFlight.get? f.key = some f.entry
  led : ∀ k e, c.inFlight.get? k = some e → ∃ t, (c.pc t).leads? = some ⟨k, e⟩
  sole : ∀ t u f g, (c.pc t).leads? = some f → (c.pc u).leads? = some g → f.entry = g.entry → t = u
  allocated : ∀ t f, (c.pc t).flight? = some f → f.entry < c.allocated
  counted : ∀ k e, c.inFlight.get? k = some e → 1 ≤ (c.entries e).waiterCount
  holder : ∀ t e, (c.pc t).holds? = some e ↔ (c.entries e).holder = some t
  fits : ∀ t f, (c.pc t).flight? = some f → (c.pc t).Fits (c.entries f.entry)
  undecided : ∀ e, e < c.allocated → (c.entries e).result = none →
    (c.entries e).leaderPanicked = false → ∃ t, (c.pc t).undecided? = some e

section Frame

variable {c t}
variable {p q : SyncPc K R} {e : Nat}

omit [DecidableEq K] in
theorem goto_pc (u : Fin n) : (c.goto t p).pc u = if u = t then p else c.pc u := by
  simp [goto, Function.update_apply]

theorem Inv.notifyAll (h : c.Inv) (e : Nat) : (c.notifyAll e).Inv := by
  obtain ⟨⟩ := h
  constructor <;> simpa [SingleFlightSync.notifyAll]

/-- A move of one thread that leads as before, on entries with the same results. -/
theorem Inv.move {entries : Nat → InFlightEntrySync n R} (h : c.Inv)
    (hresult : ∀ e, (entries e).result = (c.entries e).result)
    (hflag : ∀ e, (entries e).leaderPanicked = (c.entries e).leaderPanicked)
    (hcount : ∀ e, (c.entries e).waiterCount ≤ (entries e).waiterCount)
    (hpc : c.pc t = q) (hleads : p.leads? = q.leads?) (hund : p.undecided? = q.undecided?)
    (hfits : ∀ f, p.flight? = some f → f.entry < c.allocated ∧ p.Fits (c.entries f.entry))
    (hown : ∀ e, p.holds? = some e ↔ (entries e).holder = some t)
    (hothers : ∀ u e, u ≠ t → ((c.entries e).holder = some u ↔ (entries e).holder = some u)) :
    ({ c with entries }.goto t p).Inv := by
  obtain ⟨⟩ := h
  constructor <;> simp only [goto, Function.update_apply] <;> grind [SyncPc.Fits.congr]

section Moves

variable (h : c.Inv) (hpc : c.pc t = q) (hleads : p.leads? = q.leads?)
  (hund : p.undecided? = q.undecided?)
include h hpc hleads hund

theorem Inv.stay (hholds : p.holds? = q.holds?)
    (hfits : ∀ f, p.flight? = some f → f.entry < c.allocated ∧ p.Fits (c.entries f.entry)) :
    (c.goto t p).Inv := by
  have hholder := h.holder
  refine h.move (fun _ => rfl) (fun _ => rfl) (fun _ => le_rfl) hpc hleads hund hfits ?_ ?_ <;> grind

theorem Inv.acquire (hfree : (c.entries e).holder = none) (hbefore : q.holds? = none)
    (hholds : p.holds? = some e)
    (hfits : ∀ f, p.flight? = some f → f.entry < c.allocated ∧ p.Fits (c.entries f.entry)) :
    ((c.lock t e).goto t p).Inv := by
  have hholder := h.holder
  refine h.move ?_ ?_ ?_ hpc hleads hund hfits ?_ ?_ <;> grind [Function.update_apply]

theorem Inv.release (hbefore : q.holds? = some e) (hholds : p.holds? = none)
    (hfits : ∀ f, p.flight? = some f → f.entry < c.allocated ∧ p.Fits (c.entries f.entry)) :
    ((c.unlock e).goto t p).Inv := by
  have hholder := h.holder
  refine h.move ?_ ?_ ?_ hpc hleads hund hfits ?_ ?_ <;> grind [Function.update_apply]

end Moves

end Frame

section Steps

variable {c t}
variable (h : c.Inv) {f : Flight K} {p : SyncPc K R}
include h

/-- A leader puts a result or a panic mark into its entry: no other thread stands where it relies on
there being neither. -/
theorem fits_decide {u : Fin n} {x : InFlightEntrySync n R} (hu : u ≠ t)
    (hlead : (c.pc t).leads? = some f) (hnone : (c.entries f.entry).result = none)
    (hfalse : (c.entries f.entry).leaderPanicked = false)
    (hfree : x.result = none ∨ (c.entries f.entry).holder = none) {g : Flight K}
    (hg : (c.pc u).flight? = some g) (hne : g.entry = f.entry) : (c.pc u).Fits x := by
  have hfits := hne ▸ h.fits u g hg
  have hother : (c.pc u).leads? ≠ some g := fun heq => hu (h.sole u t g f heq hlead hne)
  have hheld : x.result = none ∨ (c.pc u).holds? ≠ some f.entry := by
    obtain ⟨⟩ := h
    grind
  cases hpc : c.pc u <;> rw [hpc] at hg hfits hother hheld <;> cases hg <;>
    simp_all [SyncPc.Fits, SyncPc.leads?, SyncPc.holds?]

/-- The step by which a leader decides its entry. -/
theorem inv_decide {x : InFlightEntrySync n R}
    (hlead : (c.pc t).leads? = some f) (hnone : (c.entries f.entry).result = none)
    (hfalse : (c.entries f.entry).leaderPanicked = false)
    (hcount : x.waiterCount = (c.entries f.entry).waiterCount)
    (hdecided : x.result = none → x.leaderPanicked = true) (hleads : p.leads? = some f)
    (hfits : p.Fits x) (hfree : x.result = none ∨ (c.entries f.entry).holder = none)
    (hown : ∀ d, p.holds? = some d ↔ ((c.setEntry f.entry x).entries d).holder = some t)
    (hothers : ∀ u, u ≠ t → ((c.entries f.entry).holder = some u ↔ x.holder = some u)) :
    ((c.setEntry f.entry x).goto t p).Inv := by
  have hflight := SyncPc.flight_of_leads hleads
  have hmine := SyncPc.flight_of_leads hlead
  have hund := @SyncPc.leads_of_undecided K R
  have hdecide := fun u hu g hg => fits_decide h (u := u) hu hlead hnone hfalse hfree (g := g) hg
  obtain ⟨⟩ := h
  simp only [setEntry, Function.update_apply] at hown
  constructor <;> simp only [goto, setEntry, Function.update_apply] <;> grind

theorem inv_remove (hlead : (c.pc t).leads? = some f)
    (hund : (c.pc t).undecided? = none) (hholds : (c.pc t).holds? = none)
    (hleads : p.leads? = none) (hflight : p.flight? = some f) (hp : p.holds? = none)
    (hfits : p.Fits (c.entries f.entry)) :
    ({ c with inFlight := c.inFlight.erase f.key }.goto t p).Inv := by
  have hmine := SyncPc.flight_of_leads hlead
  obtain ⟨⟩ := h
  constructor <;> simp only [goto, Function.update_apply] <;> grind

theorem not_holder (hpc : c.pc t = p) (hp : p.holds? = none) (e : Nat) :
    (c.entries e).holder ≠ some t := by
  rw [Ne, ← h.holder, hpc, hp]
  exact nofun

theorem inv_join {key : K} {e : Nat} (hpc : c.pc t = .entering key)
    (hslot : c.inFlight.get? key = some e) :
    ((c.setEntry e { c.entries e with waiterCount := (c.entries e).waiterCount + 1 }).goto t
      (.joined ⟨key, e⟩)).Inv := by
  have hholds := not_holder h hpc rfl
  obtain ⟨v, hv⟩ := h.led key e hslot
  have halloc := h.allocated v _ (SyncPc.flight_of_leads hv)
  refine h.move ?_ ?_ ?_ hpc rfl rfl (by rintro f ⟨⟩; exact ⟨halloc, trivial⟩) ?_ ?_ <;>
    grind [Function.update_apply, SyncPc.holds?]

theorem inv_insert {key : K} (hpc : c.pc t = .entering key) (hslot : c.inFlight.get? key = none) :
    ({ c.setEntry c.allocated { waiterCount := 1 } with
      inFlight := c.inFlight.insert key c.allocated
      allocated := c.allocated + 1 }.goto t (.loading ⟨key, c.allocated⟩)).Inv := by
  have hflight := @SyncPc.flight_of_leads K R
  have hholds := @SyncPc.flight_of_holds K R
  obtain ⟨⟩ := h
  constructor <;> simp only [goto, setEntry, Function.update_apply]
  all_goals grind [SyncPc.leads?, SyncPc.flight?, SyncPc.holds?, SyncPc.undecided?, SyncPc.Fits]

theorem inv_enter {key : K} (hpc : c.pc t = .entering key) : (c.enter t key).Inv := by
  unfold enter
  split
  · rename_i e hslot
    have hcount := h.counted key e hslot
    simp only [if_neg (show ¬ (c.entries e).waiterCount + 1 = 1 by omega)]
    exact inv_join h hpc hslot
  · exact inv_insert h hpc ‹_›

theorem inv_store {r : R} (hpc : c.pc t = .storing f r)
    (hfree : (c.entries f.entry).holder = none) :
    ((c.setEntry f.entry { c.entries f.entry with result := some r, holder := some t }).goto t
      (.notifying f r)).Inv := by
  obtain ⟨hnone, hfalse⟩ : SyncPc.Fits (c.entries f.entry) (.storing f r) :=
    hpc ▸ h.fits t f (hpc ▸ rfl)
  have hnot := not_holder h hpc rfl
  refine inv_decide h (hpc ▸ rfl) hnone hfalse rfl nofun rfl ⟨rfl, hfalse⟩ (.inr hfree) ?_ ?_
  · simp only [setEntry, Function.update_apply]
    grind [SyncPc.holds?]
  · grind

theorem inv_unwind (hpc : c.pc t = .unwinding f) :
    ((c.setEntry f.entry { c.entries f.entry with leaderPanicked := true }).goto t
      (.unwindNotify f)).Inv := by
  obtain ⟨hnone, hfalse⟩ : SyncPc.Fits (c.entries f.entry) (.unwinding f) :=
    hpc ▸ h.fits t f (hpc ▸ rfl)
  have hnot := not_holder h hpc rfl
  refine inv_decide h (hpc ▸ rfl) hnone hfalse rfl (fun _ => rfl) rfl ⟨hnone, rfl⟩ (.inl hnone)
    ?_ (fun _ _ => Iff.rfl)
  simp only [setEntry, Function.update_apply]
  grind [SyncPc.holds?]

theorem inv_advance : (c.advance t).Inv := by
  have halloc := h.allocated t
  have hfits := h.fits t
  cases hpc : c.pc t with (simp only [advance, hpc]; rw [hpc] at halloc hfits)
  | idle | loading _ | parked _ | returned _ _ | panicked _ => exact h
  | entering key => exact inv_enter h hpc
  | storing f r =>
    split
    · exact inv_store h hpc ‹_›
    · exact h
  | notifying f r | unwindNotify f =>
    have hpc' : (c.notifyAll f.entry).pc t = c.pc t := by simp [notifyAll, hpc, SyncPc.wake]
    exact (h.notifyAll f.entry).stay (hpc'.trans hpc) rfl rfl rfl fun g hg =>
      ⟨halloc g hg, hfits g hg⟩
  | removing f r => exact inv_remove h (hpc ▸ rfl) (hpc ▸ rfl) (hpc ▸ rfl) rfl rfl rfl (hfits f rfl).1
  | unwindRemove f => exact inv_remove h (hpc ▸ rfl) (hpc ▸ rfl) (hpc ▸ rfl) rfl rfl rfl (hfits f rfl)
  | unwinding f => exact inv_unwind h hpc
  | joined f | woken f =>
    split
    · exact h.acquire hpc rfl rfl ‹_› rfl rfl fun g hg => ⟨halloc g hg, trivial⟩
    · exact h
  | checkResult f =>
    split <;> refine h.stay hpc rfl rfl rfl ?_ <;> rintro g ⟨⟩ <;> exact ⟨halloc f rfl, ‹_›⟩
  | checkPanicked f =>
    split <;> refine h.stay hpc rfl rfl rfl ?_ <;> rintro g ⟨⟩
    · exact ⟨halloc f rfl, hfits f rfl, ‹_›⟩
    · exact ⟨halloc f rfl, hfits f rfl⟩
  | waiting f => exact h.release hpc rfl rfl rfl rfl fun g hg => ⟨halloc g hg, trivial⟩
  | unlocking f r | cloned f r | poisoned f =>
    exact h.release hpc rfl rfl rfl rfl fun g hg => ⟨halloc g hg, hfits g hg⟩

theorem inv_step (a : SyncAction n K R) : (c.step a).Inv := by
  cases a with
  | call t key =>
    simp only [step]
    split <;> rename_i hpc <;> first | exact h | exact h.stay hpc rfl rfl rfl nofun
  | finishLoad t outcome =>
    have halloc := h.allocated t
    have hfits := h.fits t
    simp only [step]
    split
    · rename_i hpc
      rw [hpc] at halloc hfits
      exact h.stay hpc rfl rfl rfl fun g hg => ⟨halloc g hg, hfits g hg⟩
    · rename_i hpc
      rw [hpc] at halloc hfits
      exact h.stay hpc rfl rfl rfl fun g hg => ⟨halloc g hg, hfits g hg⟩
    · exact h
  | advance t => exact inv_advance h

end Steps

end SingleFlightSync

end AdapterOS.SingleFlight
