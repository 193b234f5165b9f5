import AdapterOS.Core.SingleFlightSync

/-! The asynchronous single flight, over a notification that reaches only the tasks already
registered for it. A step is one access to the map, the waiter count, the result or the
notification. -/
namespace AdapterOS.SingleFlight

variable {n : Nat} {K R : Type*}

structure InFlightEntry (R : Type*) where
  result : Option R := none
  waiterCount : Nat := 0

/-- Where a task stands in `get_or_load`. -/
inductive AsyncPc (K R : Type*) where
  | idle
  | entering (key : K)
  -- the task has the entry and is not counted yet
  | fetched (f : Flight K)
  -- the leader
  | loading (f : Flight K)
  | storing (f : Flight K) (r : R)
  | notifying (f : Flight K) (r : R)
  | removing (f : Flight K) (r : R)
  -- the cleanup guard of a leader that is cancelled or panics
  | cancelNotify (f : Flight K)
  | cancelRemove (f : Flight K)
  -- a waiter
  | joined (f : Flight K)
  | registered (f : Flight K)
  | woken (f : Flight K)
  | checkMap (f : Flight K)
  -- the end of a call
  | returned (f : Flight K) (r : R)
  | panicked (f : Flight K)
  | dropped

inductive AsyncAction (n : Nat) (K R : Type*) where
  | call (t : Fin n) (key : K)
  | finishLoad (t : Fin n) (r : R)
  -- the task is cancelled, or its load panics
  | drop (t : Fin n)
  | advance (t : Fin n)

def AsyncAction.task : AsyncAction n K R → Fin n
  | .call t _ | .finishLoad t _ | .drop t | .advance t => t

namespace AsyncPc

def wake (e : Nat) : AsyncPc K R → AsyncPc K R
  | .registered f => if f.entry = e then .woken f else .registered f
  | pc => pc

/-- The flight of a task that counts among the waiters of its entry. -/
def counted? : AsyncPc K R → Option (Flight K)
  | .idle | .entering _ | .fetched _ | .dropped => none
  | .loading f | .storing f _ | .notifying f _ | .removing f _ | .cancelNotify f | .cancelRemove f
  | .joined f | .registered f | .woken f | .checkMap f | .returned f _ | .panicked f => some f

def leads? : AsyncPc K R → Option (Flight K)
  | .loading f | .storing f _ | .notifying f _ | .removing f _ | .cancelNotify f
  | .cancelRemove f => some f
  | _ => none

def undecided? : AsyncPc K R → Option Nat
  | .loading f | .storing f _ => some f.entry
  | _ => none

/-- The entry whose notification a task has had and found without a result, or not looked yet. -/
def notified? : AsyncPc K R → Option Nat
  | .woken f | .checkMap f | .panicked f => some f.entry
  | _ => none

def Ended : AsyncPc K R → Prop
  | .idle | .returned .. | .panicked _ | .dropped => True
  | _ => False

/-- What the result of its entry is where a task stands. -/
def Fits (x : InFlightEntry R) : AsyncPc K R → Prop
  | .loading _ | .storing .. | .cancelNotify _ | .cancelRemove _ | .checkMap _ | .panicked _ =>
    x.result = none
  | .notifying _ r | .removing _ r | .returned _ r => x.result = some r
  | .idle | .entering _ | .fetched _ | .joined _ | .registered _ | .woken _ | .dropped => True

variable {pc : AsyncPc K R}

theorem Fits.congr {x y : InFlightEntry R} (h : pc.Fits x)
    (hresult : y.result = x.result) : pc.Fits y := by
  cases pc <;> simp only [Fits, hresult] at h ⊢ <;> exact h

theorem view_wake {α : Sort*} (view : AsyncPc K R → α)
    (hview : ∀ f, view (.woken f) = view (.registered f)) (e : Nat) (pc : AsyncPc K R) :
    view (pc.wake e) = view pc := by
  cases pc with
  | registered f =>
    simp only [wake]
    split
    · exact hview f
    · rfl
  | _ => rfl

section Wake

variable (e : Nat) (pc)

@[simp] theorem counted?_wake : (pc.wake e).counted? = pc.counted? :=
  view_wake counted? (fun _ => rfl) e pc

@[simp] theorem leads?_wake : (pc.wake e).leads? = pc.leads? :=
  view_wake leads? (fun _ => rfl) e pc

@[simp] theorem undecided?_wake : (pc.wake e).undecided? = pc.undecided? :=
  view_wake undecided? (fun _ => rfl) e pc

variable {e pc}

theorem fetched_of_wake {f : Flight K} (h : pc.wake e = .fetched f) : pc = .fetched f := by
  cases pc with
  | registered g =>
    simp only [wake] at h
    split at h <;> cases h
  | _ => exact h

theorem notified_of_wake {d : Nat} (h : (pc.wake e).notified? = some d) :
    pc.notified? = some d ∨ d = e := by
  cases pc with
  | registered f =>
    simp only [wake] at h
    split at h
    · rename_i he
      exact .inr ((Option.some.inj h).symm.trans he)
    · cases h
  | _ => exact .inl h

theorem fits_wake {x : InFlightEntry R} : (pc.wake e).Fits x ↔ pc.Fits x :=
  iff_of_eq (view_wake (Fits x) (fun _ => rfl) e pc)

end Wake

theorem counted_of_leads {f : Flight K} (h : pc.leads? = some f) : pc.counted? = some f := by
  cases pc <;> first | exact h | cases h

theorem leads_of_ended (h : pc.Ended) : pc.leads? = none := by
  cases pc <;> first | rfl | cases h

theorem leads_of_undecided {e : Nat} (h : pc.undecided? = some e) :
    ∃ f, pc.leads? = some f ∧ f.entry = e := by
  cases pc <;> first | exact ⟨_, rfl, Option.some.inj h⟩ | cases h

theorem counted_of_notified {e : Nat} (h : pc.notified? = some e) :
    ∃ f, pc.counted? = some f ∧ f.entry = e := by
  cases pc <;> first | exact ⟨_, rfl, Option.some.inj h⟩ | cases h

end AsyncPc

end AdapterOS.SingleFlight

structure AdapterOS.SingleFlight (n : Nat) (K R : Type*) where
  inFlight : Library.HashMap K Nat
  entries : Nat → SingleFlight.InFlightEntry R
  allocated : Nat
  pc : Fin n → SingleFlight.AsyncPc K R

namespace AdapterOS.SingleFlight

open Library

variable {n : Nat} {K R : Type*} [DecidableEq K] (c : SingleFlight n K R) (t : Fin n)

def new (n : Nat) (K R : Type*) : SingleFlight n K R := ⟨∅, fun _ => {}, 0, fun _ => .idle⟩

def goto (pc : AsyncPc K R) : SingleFlight n K R := { c with pc := Function.update c.pc t pc }

def setEntry (e : Nat) (entry : InFlightEntry R) : SingleFlight n K R :=
  { c with entries := Function.update c.entries e entry }

def notifyWaiters (e : Nat) : SingleFlight n K R := { c with pc := fun u => (c.pc u).wake e }

def remove (key : K) : SingleFlight n K R := { c with inFlight := c.inFlight.erase key }

def insertNew (key : K) : SingleFlight n K R :=
  { c.setEntry c.allocated {} with
    inFlight := c.inFlight.insert key c.allocated
    allocated := c.allocated + 1 }

def setResult (e : Nat) (r : R) : SingleFlight n K R :=
  c.setEntry e { c.entries e with result := (c.entries e).result.or (some r) }

def addWaiter (e : Nat) : SingleFlight n K R :=
  c.setEntry e { c.entries e with waiterCount := (c.entries e).waiterCount + 1 }

def advance : SingleFlight n K R :=
  match c.pc t with
  | .entering key =>
    match c.inFlight.get? key with
    | some e => c.goto t (.fetched ⟨key, e⟩)
    | none => (c.insertNew key).goto t (.fetched ⟨key, c.allocated⟩)
  | .fetched f =>
    (c.addWaiter f.entry).goto t
      (if (c.entries f.entry).waiterCount + 1 = 1 then .loading f else .joined f)
  | .storing f r => (c.setResult f.entry r).goto t (.notifying f r)
  | .notifying f r => (c.notifyWaiters f.entry).goto t (.removing f r)
  | .removing f r => (c.remove f.key).goto t (.returned f r)
  | .cancelNotify f => (c.notifyWaiters f.entry).goto t (.cancelRemove f)
  | .cancelRemove f => (c.remove f.key).goto t .dropped
  | .joined f => c.goto t (.registered f)
  | .woken f =>
    c.goto t (match (c.entries f.entry).result with
      | some r => .returned f r
      | none => .checkMap f)
  | .checkMap f =>
    -- with the key still in the map the wake-up counts as spurious
    c.goto t (if f.key ∈ c.inFlight then .registered f else .panicked f)
  | .idle | .loading _ | .registered _ | .returned .. | .panicked _ | .dropped => c

def step (c : SingleFlight n K R) : AsyncAction n K R → SingleFlight n K R
  | .call t key =>
    match c.pc t with
    | .idle | .returned .. | .panicked _ | .dropped => c.goto t (.entering key)
    | _ => c
  | .finishLoad t r =>
    match c.pc t with
    | .loading f => c.goto t (.storing f r)
    | _ => c
  | .drop t =>
    -- a task is dropped where it awaits: at its load, or at the notification
    match c.pc t with
    | .loading f =>
      c.goto t (match (c.entries f.entry).result with
        | none => .cancelNotify f
        | some _ => .dropped)
    | .registered _ | .woken _ => c.goto t .dropped
    | _ => c
  | .advance t => c.advance t

/-- The steps that only move their task. -/
inductive Moves : AsyncAction n K R → AsyncPc K R → AsyncPc K R → Prop
  | call {t key q} : q.Ended → Moves (.call t key) q (.entering key)
  | finishLoad {t f r} : Moves (.finishLoad t r) (.loading f) (.storing f r)
  | cancel {t f} : (c.entries f.entry).result = none →
      Moves (.drop t) (.loading f) (.cancelNotify f)
  | abandon {t f r} : (c.entries f.entry).result = some r → Moves (.drop t) (.loading f) .dropped
  | leave {t f q} : q = .registered f ∨ q = .woken f → Moves (.drop t) q .dropped
  | register {t f} : Moves (.advance t) (.joined f) (.registered f)
  | read {t f r} : (c.entries f.entry).result = some r →
      Moves (.advance t) (.woken f) (.returned f r)
  | empty {t f} : (c.entries f.entry).result = none → Moves (.advance t) (.woken f) (.checkMap f)
  | rewait {t f} : f.key ∈ c.inFlight → Moves (.advance t) (.checkMap f) (.registered f)
  | giveUp {t f} : f.key ∉ c.inFlight → Moves (.advance t) (.checkMap f) (.panicked f)

/-- The step by which a leader notifies, with a result or cancelled. -/
inductive Notifies : AsyncPc K R → AsyncPc K R → Flight K → Prop
  | result {f r} : Notifies (.notifying f r) (.removing f r) f
  | cancel {f} : Notifies (.cancelNotify f) (.cancelRemove f) f

inductive Removes : AsyncPc K R → AsyncPc K R → Flight K → Prop
  | result {f r} : Removes (.removing f r) (.returned f r) f
  | cancel {f} : Removes (.cancelRemove f) .dropped f

section Leader

variable {p q : AsyncPc K R} {f : Flight K}

omit [DecidableEq K]

theorem Notifies.leads (h : Notifies q p f) : q.leads? = some f ∧ p.leads? = some f := by
  cases h <;> exact ⟨rfl, rfl⟩

theorem Notifies.quiet (h : Notifies q p f) : p.notified? = none ∧ p.undecided? = none := by
  cases h <;> exact ⟨rfl, rfl⟩

theorem Notifies.decided (h : Notifies q p f) : q.undecided? = none := by
  cases h <;> rfl

theorem Notifies.fits {x : InFlightEntry R} {g : Flight K} (h : Notifies q p f) (hq : q.Fits x)
    (hg : p.counted? = some g) : g = f ∧ p.Fits x := by
  cases h <;> cases hg <;> exact ⟨rfl, hq⟩

theorem Removes.leads (h : Removes q p f) : q.leads? = some f ∧ p.leads? = none := by
  cases h <;> exact ⟨rfl, rfl⟩

theorem Removes.quiet (h : Removes q p f) : p.notified? = none ∧ p.undecided? = none := by
  cases h <;> exact ⟨rfl, rfl⟩

theorem Removes.ne_fetched (h : Removes q p f) (g : Flight K) : p ≠ .fetched g := by
  rintro rfl
  cases h

theorem Removes.fits {x : InFlightEntry R} {g : Flight K} (h : Removes q p f) (hq : q.Fits x)
    (hg : p.counted? = some g) : g = f ∧ p.Fits x := by
  cases h <;> cases hg
  exact ⟨rfl, hq⟩

end Leader

/-- Everything a step can do. -/
inductive Effect : AsyncAction n K R → SingleFlight n K R → Prop
  | rest {a} : Effect a c
  | move {a q p} : c.pc a.task = q → c.Moves a q p → Effect a (c.goto a.task p)
  | fetch {t key e} : c.pc t = .entering key → c.inFlight.get? key = some e →
      Effect (.advance t) (c.goto t (.fetched ⟨key, e⟩))
  | insert {t key} : c.pc t = .entering key → c.inFlight.get? key = none →
      Effect (.advance t) ((c.insertNew key).goto t (.fetched ⟨key, c.allocated⟩))
  | lead {t f} : c.pc t = .fetched f → (c.entries f.entry).waiterCount = 0 →
      Effect (.advance t) ((c.addWaiter f.entry).goto t (.loading f))
  | join {t f} : c.pc t = .fetched f → 1 ≤ (c.entries f.entry).waiterCount →
      Effect (.advance t) ((c.addWaiter f.entry).goto t (.joined f))
  | store {t f r} : c.pc t = .storing f r →
      Effect (.advance t) ((c.setResult f.entry r).goto t (.notifying f r))
  | notify {t q p f} : c.pc t = q → Notifies q p f →
      Effect (.advance t) ((c.notifyWaiters f.entry).goto t p)
  | remove {t q p f} : c.pc t = q → Removes q p f →
      Effect (.advance t) ((c.remove f.key).goto t p)

section Effects

variable {c t}

theorem effect_advance : c.Effect (.advance t) (c.advance t) := by
  cases hpc : c.pc t with simp only [advance, hpc]
  | entering key =>
    split
    · exact .fetch hpc ‹_›
    · exact .insert hpc ‹_›
  | fetched f =>
    split
    · exact .lead hpc (by omega)
    · exact .join hpc (by omega)
  | storing f r => exact .store hpc
  | notifying f r => exact .notify hpc .result
  | removing f r => exact .remove hpc .result
  | cancelNotify f => exact .notify hpc .cancel
  | cancelRemove f => exact .remove hpc .cancel
  | joined f => exact .move (a := .advance t) hpc .register
  | woken f =>
    split
    · exact .move (a := .advance t) hpc (.read ‹_›)
    · exact .move (a := .advance t) hpc (.empty ‹_›)
  | checkMap f =>
    split
    · exact .move (a := .advance t) hpc (.rewait ‹_›)
    · exact .move (a := .advance t) hpc (.giveUp ‹_›)
  | idle | loading _ | registered _ | returned _ _ | panicked _ | dropped => exact .rest

theorem effect_step (a : AsyncAction n K R) : c.Effect a (c.step a) := by
  cases a with
  | call t key =>
    simp only [step]
    split <;> rename_i hpc <;>
      first | exact .rest | exact .move (a := .call t key) hpc (.call trivial)
  | finishLoad t r =>
    simp only [step]
    split
    · rename_i hpc
      exact .move (a := .finishLoad t r) hpc .finishLoad
    · exact .rest
  | drop t =>
    simp only [step]
    split
    · rename_i hpc
      split
      · exact .move (a := .drop t) hpc (.cancel ‹_›)
      · exact .move (a := .drop t) hpc (.abandon ‹_›)
    · rename_i hpc
      exact .move (a := .drop t) hpc (.leave (.inl rfl))
    · rename_i hpc
      exact .move (a := .drop t) hpc (.leave (.inr rfl))
    · exact .rest
  | advance t => exact effect_advance

end Effects

structure Inv : Prop where
  slot : ∀ t f, (c.pc t).leads? = some f → c.inFlight.get? f.key = some f.entry
  sole : ∀ t u f g, (c.pc t).leads? = some f → (c.pc u).leads? = some g → f.entry = g.entry → t = u
  /-- An entry is in the map under one key, and has a leader once a task has been counted. -/
  mapped : ∀ k e, c.inFlight.get? k = some e → e < c.allocated ∧
    (∀ k', c.inFlight.get? k' = some e → k' = k) ∧
    (1 ≤ (c.entries e).waiterCount → ∃ t, (c.pc t).leads? = some ⟨k, e⟩)
  fetched : ∀ t f, c.pc t = .fetched f → f.entry < c.allocated ∧
    ((c.entries f.entry).waiterCount = 0 → c.inFlight.get? f.key = some f.entry)
  counted : ∀ t f, (c.pc t).counted? = some f →
    f.entry < c.allocated ∧ 1 ≤ (c.entries f.entry).waiterCount
  fits : ∀ t f, (c.pc t).counted? = some f → (c.pc t).Fits (c.entries f.entry)
  untouched : ∀ e, (c.entries e).waiterCount = 0 → (c.entries e).result = none
  quiet : ∀ t u e, (c.pc t).notified? = some e → (c.pc u).undecided? ≠ some e

section Steps

variable {c t}
variable {p q : AsyncPc K R} {f : Flight K}

omit [DecidableEq K] in
theorem goto_pc (u : Fin n) : (c.goto t p).pc u = if u = t then p else c.pc u := by
  simp [goto, Function.update_apply]

variable (h : c.Inv)
include h

/-- A move of one task that leads as before, over a map that stays. -/
theorem Inv.goto {entries : Nat → InFlightEntry R}
    (hzero : ∀ e, (entries e).waiterCount = 0 ↔ (c.entries e).waiterCount = 0)
    (hresult : ∀ e, (c.entries e).waiterCount = 0 → (entries e).result = none)
    (hleads : (c.pc t).leads? = p.leads?)
    (hfetched : ∀ f, p = .fetched f → c.inFlight.get? f.key = some f.entry)
    (hown : ∀ f, p.counted? = some f →
      (f.entry < c.allocated ∧ 1 ≤ (c.entries f.entry).waiterCount) ∧ p.Fits (entries f.entry))
    (hothers : ∀ u f, u ≠ t → (c.pc u).counted? = some f → (c.pc u).Fits (entries f.entry))
    (hnot : ∀ d, p.notified? = some d → (c.pc t).notified? = some d)
    (hund : ∀ d, p.undecided? = some d → ∀ u, (c.pc u).notified? ≠ some d) :
    ({ c with entries }.goto t p).Inv := by
  obtain ⟨⟩ := h
  constructor <;> simp only [SingleFlight.goto, Function.update_apply] <;> grind

theorem inv_move {a : AsyncAction n K R} (hpc : c.pc a.task = q) (hm : c.Moves a q p) :
    (c.goto a.task p).Inv := by
  have hown := h.fits a.task
  rw [hpc] at hown
  have hleads : q.leads? = p.leads? := by
    cases hm with
    | call hq => exact AsyncPc.leads_of_ended hq
    | leave hq => rcases hq with rfl | rfl <;> rfl
    | abandon hsome => cases hsome.symm.trans (hown _ rfl)
    | _ => rfl
  have hcounted : ∀ g, p.counted? = some g → q.counted? = some g ∧ p.Fits (c.entries g.entry) := by
    intro g hg
    cases hm <;> cases hg
    case finishLoad => exact ⟨rfl, hown _ rfl⟩
    case cancel hnone => exact ⟨rfl, hnone⟩
    case register => exact ⟨rfl, trivial⟩
    case read hsome => exact ⟨rfl, hsome⟩
    case empty hnone => exact ⟨rfl, hnone⟩
    case rewait => exact ⟨rfl, trivial⟩
    case giveUp => exact ⟨rfl, hown _ rfl⟩
  have hundecided : ∀ e, p.undecided? = some e → q.undecided? = some e := by
    intro e he
    cases hm <;> first | exact he | cases he
  have hnotified : ∀ e, p.notified? = some e → q.notified? = some e := by
    intro e he
    cases hm <;> first | exact he | cases he
  have hfetched : ∀ g, p ≠ .fetched g := by
    rintro g rfl
    cases hm
  subst hpc
  exact h.goto (fun _ => Iff.rfl) h.untouched hleads (fun g hg => absurd hg (hfetched g))
    (fun g hg => ⟨h.counted _ g (hcounted g hg).1, (hcounted g hg).2⟩) (fun u g _ => h.fits u g)
    hnotified (fun d hd u hu => h.quiet u _ d hu (hundecided d hd))

theorem decided_of_notifies (hpc : c.pc t = q) (hn : Notifies q p f) (v : Fin n) :
    (c.pc v).undecided? ≠ some f.entry := by
  intro hv
  obtain ⟨g, hg, hge⟩ := AsyncPc.leads_of_undecided hv
  cases h.sole v t g f hg (hpc ▸ hn.leads.1) hge
  rw [hpc, hn.decided] at hv
  cases hv

theorem inv_notify (hpc : c.pc t = q) (hn : Notifies q p f) :
    ((c.notifyWaiters f.entry).goto t p).Inv := by
  have hlead : (c.pc t).leads? = some f := hpc ▸ hn.leads.1
  have hcounted := AsyncPc.counted_of_leads hlead
  have hfits := fun g => hn.fits (g := g) (hpc ▸ h.fits t f hcounted)
  have hdecided := decided_of_notifies h hpc hn
  have hfetched := @AsyncPc.fetched_of_wake K R
  have hnotified := @AsyncPc.notified_of_wake K R
  obtain ⟨_, hleads⟩ := hn.leads
  obtain ⟨hnot, hund⟩ := hn.quiet
  have hne : ∀ g, p ≠ .fetched g := by
    rintro g rfl
    cases hleads
  obtain ⟨⟩ := h
  constructor <;> simp only [SingleFlight.goto, notifyWaiters, Function.update_apply]
  all_goals grind [AsyncPc.counted?_wake, AsyncPc.leads?_wake, AsyncPc.undecided?_wake,
    AsyncPc.fits_wake]

theorem inv_fetch {key : K} {e : Nat} (hpc : c.pc t = .entering key)
    (hslot : c.inFlight.get? key = some e) : (c.goto t (.fetched ⟨key, e⟩)).Inv := by
  refine h.goto (fun _ => Iff.rfl) h.untouched (hpc ▸ rfl) ?_ nofun (fun u f _ => h.fits u f) nofun
    nofun
  rintro f ⟨⟩
  exact hslot

theorem inv_join (hpc : c.pc t = .fetched f) (hcount : 1 ≤ (c.entries f.entry).waiterCount) :
    ((c.addWaiter f.entry).goto t (.joined f)).Inv := by
  have hresult : ∀ d, ((c.addWaiter f.entry).entries d).result = (c.entries d).result := by
    intro d
    by_cases hd : d = f.entry <;> simp [addWaiter, setEntry, hd]
  refine h.goto (fun d => ?_) (fun d hd => ?_) (hpc ▸ rfl) nofun ?_ (fun u g _ hg => ?_) nofun nofun
  · grind [Function.update_apply]
  · exact (hresult d).trans (h.untouched d hd)
  · rintro g ⟨⟩
    exact ⟨⟨(h.fetched t f hpc).1, hcount⟩, trivial⟩
  · exact (h.fits u g hg).congr (hresult _)

theorem fits_setResult {u : Fin n} {r : R} (hu : u ≠ t) (hpc : c.pc t = .storing f r) {g : Flight K}
    (hg : (c.pc u).counted? = some g) :
    (c.pc u).Fits ((c.setResult f.entry r).entries g.entry) := by
  have hfits := h.fits u g hg
  by_cases hne : g.entry = f.entry
  · have hnone : AsyncPc.Fits (c.entries f.entry) (.storing f r) := hpc ▸ h.fits t f (hpc ▸ rfl)
    have hother : (c.pc u).leads? ≠ some g := fun heq => hu (h.sole u t g f heq (hpc ▸ rfl) hne)
    have hquiet : (c.pc u).notified? ≠ some g.entry := by
      intro hn
      refine h.quiet u t g.entry hn ?_
      rw [hpc, hne]
      rfl
    simp only [setResult, setEntry, hne, Function.update_self]
    rw [hne] at hfits
    cases hu' : c.pc u <;> rw [hu'] at hg hfits hother hquiet <;> cases hg <;>
      simp_all [AsyncPc.Fits, AsyncPc.leads?, AsyncPc.notified?]
  · simpa only [setResult, setEntry, Function.update_of_ne hne] using hfits

theorem inv_store {r : R} (hpc : c.pc t = .storing f r) :
    ((c.setResult f.entry r).goto t (.notifying f r)).Inv := by
  have hcount := h.counted t f (hpc ▸ rfl)
  have hnone : AsyncPc.Fits (c.entries f.entry) (.storing f r) := hpc ▸ h.fits t f (hpc ▸ rfl)
  have huntouched := h.untouched
  refine h.goto ?_ ?_ (hpc ▸ rfl) nofun ?_ (fun u g hu hg => fits_setResult h hu hpc hg) nofun nofun
  · grind [Function.update_apply]
  · grind [Function.update_apply]
  · rintro g ⟨⟩
    refine ⟨hcount, ?_⟩
    simp_all [AsyncPc.Fits]

theorem inv_lead (hpc : c.pc t = .fetched f) (hcount : (c.entries f.entry).waiterCount = 0) :
    ((c.addWaiter f.entry).goto t (.loading f)).Inv := by
  have hleads := @AsyncPc.counted_of_leads K R
  have hnotified := @AsyncPc.counted_of_notified K R
  have hown : (AsyncPc.loading f : AsyncPc K R).leads? = some ⟨f.key, f.entry⟩ := rfl
  obtain ⟨⟩ := h
  constructor <;> simp only [SingleFlight.goto, addWaiter, setEntry, Function.update_apply]
  all_goals grind [AsyncPc.leads?, AsyncPc.counted?, AsyncPc.undecided?, AsyncPc.notified?,
    AsyncPc.Fits]

theorem inv_insert {key : K} (hpc : c.pc t = .entering key) (hslot : c.inFlight.get? key = none) :
    ((c.insertNew key).goto t (.fetched ⟨key, c.allocated⟩)).Inv := by
  have hleads := @AsyncPc.counted_of_leads K R
  have hnotified := @AsyncPc.counted_of_notified K R
  obtain ⟨⟩ := h
  constructor <;> simp only [SingleFlight.goto, insertNew, setEntry, Function.update_apply]
  all_goals grind [AsyncPc.leads?, AsyncPc.counted?, AsyncPc.undecided?, AsyncPc.notified?]

theorem inv_remove (hpc : c.pc t = q) (hr : Removes q p f) : ((c.remove f.key).goto t p).Inv := by
  have hlead : (c.pc t).leads? = some f := hpc ▸ hr.leads.1
  have hcounted := AsyncPc.counted_of_leads hlead
  have hfits := fun g => hr.fits (g := g) (hpc ▸ h.fits t f hcounted)
  obtain ⟨_, hleads⟩ := hr.leads
  obtain ⟨hnot, hund⟩ := hr.quiet
  have hne := hr.ne_fetched
  obtain ⟨⟩ := h
  constructor <;> simp only [SingleFlight.goto, SingleFlight.remove, Function.update_apply]
  all_goals grind

theorem inv_effect {a : AsyncAction n K R} {c' : SingleFlight n K R} (heffect : c.Effect a c') :
    c'.Inv := by
  cases heffect with
  | rest => exact h
  | move hpc hm => exact inv_move h hpc hm
  | fetch hpc hslot => exact inv_fetch h hpc hslot
  | insert hpc hslot => exact inv_insert h hpc hslot
  | lead hpc hcount => exact inv_lead h hpc hcount
  | join hpc hcount => exact inv_join h hpc hcount
  | store hpc => exact inv_store h hpc
  | notify hpc hn => exact inv_notify h hpc hn
  | remove hpc hr => exact inv_remove h hpc hr

theorem inv_step (a : AsyncAction n K R) : (c.step a).Inv := inv_effect h (effect_step a)

end Steps

theorem inv_new : (new n K R).Inv where
  slot _ _ := nofun
  sole _ _ _ _ := nofun
  mapped _ _ := nofun
  fetched _ _ := nofun
  counted _ _ := nofun
  fits _ _ := nofun
  untouched _ _ := rfl
  quiet _ _ _ := nofun

end AdapterOS.SingleFlight
