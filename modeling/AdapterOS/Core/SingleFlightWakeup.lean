import AdapterOS.Core.SingleFlightSync

/-! Who loads, what the callers of a blocking single flight get, and whether they wake up. -/
namespace AdapterOS.SingleFlight

open Library

variable {n : Nat} {K R : Type*}

namespace SyncPc

def waiter? : SyncPc K R → Option (Flight K)
  | .joined f | .checkResult f | .checkPanicked f | .waiting f | .parked f | .woken f | .cloned f _
  | .poisoned f => some f
  | _ => none

def sleeps? : SyncPc K R → Option Nat
  | .waiting f | .parked f => some f.entry
  | _ => none

def waits? : SyncPc K R → Option Nat
  | .waiting f => some f.entry
  | _ => none

def owes? : SyncPc K R → Option Nat
  | .loading f | .storing f _ | .notifying f _ | .unwinding f | .unwindNotify f => some f.entry
  | _ => none

variable {pc : SyncPc K R}

theorem owes_of_undecided {e : Nat} (h : pc.undecided? = some e) : pc.owes? = some e := by
  cases pc <;> first | exact h | cases h

theorem leads_of_owes {e : Nat} (h : pc.owes? = some e) :
    ∃ f, pc.leads? = some f ∧ f.entry = e := by
  cases pc <;> first | exact ⟨_, rfl, Option.some.inj h⟩ | cases h

theorem owes?_wake (e : Nat) (pc : SyncPc K R) : (pc.wake e).owes? = pc.owes? :=
  view_wake owes? (fun _ => rfl) e pc

theorem sleeps_of_wake {e d : Nat} (h : (pc.wake e).sleeps? = some d) :
    pc.sleeps? = some d ∧ (d = e → pc.waits? = some e) := by
  cases pc with
  | parked f =>
    simp only [wake] at h
    split at h
    · cases h
    · rename_i hne
      exact ⟨h, fun hd => absurd ((Option.some.inj h).trans hd) hne⟩
  | waiting f => exact ⟨h, fun hd => hd ▸ h⟩
  | _ => cases h

end SyncPc

namespace SingleFlightSync

variable [DecidableEq K] {c c' : SingleFlightSync n K R} {t : Fin n} {e : Nat}

def LeaderDone (c : SingleFlightSync n K R) (e : Nat) : Prop :=
  e < c.allocated ∧ ∀ t f, (c.pc t).leads? = some f → f.entry ≠ e

/-- One loader a key, and every caller gets what its leader produced. -/
structure Safe (c : SingleFlightSync n K R) : Prop where
  one_loader : ∀ t u f g, c.pc t = .loading f → c.pc u = .loading g → f.key = g.key → t = u
  returned_result : ∀ t f r, c.pc t = .returned f r → (c.entries f.entry).result = some r
  panicked_no_result : ∀ t f, c.pc t = .panicked f → (c.entries f.entry).result = none

/-- Once the leader is done nobody sleeps on its entry and every waiter can return. -/
structure Wakes (c : SingleFlightSync n K R) : Prop where
  not_parked : ∀ t f, c.pc t = .parked f → ¬ c.LeaderDone f.entry
  returns : ∀ t f, (c.pc t).waiter? = some f → c.LeaderDone f.entry →
    ∃ actions, (∃ r, (run step c actions).pc t = .returned f r) ∨
      (run step c actions).pc t = .panicked f

/-- A panic notifies while no thread is between its look at the panic mark and its wait. -/
def QuietPanic (c : SingleFlightSync n K R) : SyncAction n K R → Prop
  | .advance t => ∀ f, c.pc t = .unwindNotify f → ∀ u, (c.pc u).waits? ≠ some f.entry
  | _ => True

def Led (c : SingleFlightSync n K R) : Prop :=
  ∀ t e, (c.pc t).sleeps? = some e → ∃ u, (c.pc u).owes? = some e

theorem Inv.safe (h : c.Inv) : c.Safe where
  one_loader t u f g hf hg hkey := by
    have hft := h.slot t f (hf ▸ rfl)
    have hgu := h.slot u g (hg ▸ rfl)
    rw [hkey, hgu] at hft
    exact h.sole t u f g (hf ▸ rfl) (hg ▸ rfl) (Option.some.inj hft).symm
  returned_result t f r hpc := by
    have hfits := h.fits t f (hpc ▸ rfl)
    rwa [hpc] at hfits
  panicked_no_result t f hpc := by
    have hfits := h.fits t f (hpc ▸ rfl)
    rw [hpc] at hfits
    exact hfits.1

section Led

omit [DecidableEq K] in
theorem Led.goto {p q : SyncPc K R} (hl : c.Led) (hsame : c'.pc = c.pc) (hpc : c.pc t = q)
    (howes : ∀ e, q.owes? = some e → p.owes? = some e)
    (hsleeps : ∀ e, p.sleeps? = some e → q.sleeps? = some e ∨ ∃ v, (c.pc v).owes? = some e) :
    (c'.goto t p).Led := by
  simp only [Led, goto_pc, hsame] at hl ⊢
  grind

omit [DecidableEq K] in
theorem led_notifyAll {p : SyncPc K R} {f : Flight K} (hl : c.Led)
    (howes : (c.pc t).owes? = some f.entry) (hquiet : ∀ u, (c.pc u).waits? ≠ some f.entry)
    (hp : p.sleeps? = none) : ((c.notifyAll f.entry).goto t p).Led := by
  have hwake := @SyncPc.sleeps_of_wake K R
  simp only [Led, goto_pc, notifyAll] at hl ⊢
  grind [SyncPc.owes?_wake]

theorem led_advance (h : c.Inv) (hl : c.Led) (hq : c.QuietPanic (.advance t)) :
    (c.advance t).Led := by
  cases hpc : c.pc t with simp only [advance, hpc]
  | idle | loading _ | parked _ | returned _ _ | panicked _ => exact hl
  | entering key =>
    rw [enter]
    split
    · refine hl.goto rfl hpc of_none fun e he => ?_
      split at he <;> cases he
    · exact hl.goto rfl hpc of_none of_none
  | storing f r =>
    split
    · exact hl.goto rfl hpc (fun _ => id) of_none
    · exact hl
  | notifying f r =>
    refine led_notifyAll hl (hpc ▸ rfl) (fun u hu => ?_) rfl
    -- the leader has the result locked, and so does a thread that is about to wait
    have hmine := (h.holder t f.entry).mp (hpc ▸ rfl)
    have hits : (c.pc u).holds? = some f.entry := by
      cases hu' : c.pc u <;> rw [hu'] at hu <;> first | exact hu | cases hu
    rw [(h.holder u f.entry).mp hits] at hmine
    cases hmine
    rw [hpc] at hu
    cases hu
  | unwindNotify f => exact led_notifyAll hl (hpc ▸ rfl) (hq f hpc) rfl
  | unwinding f => exact hl.goto rfl hpc (fun _ => id) of_none
  | unlocking f r | removing f r | unwindRemove f | cloned f r | poisoned f =>
    exact hl.goto rfl hpc of_none of_none
  | joined f | woken f =>
    split
    · exact hl.goto rfl hpc of_none of_none
    · exact hl
  | checkResult f =>
    refine hl.goto rfl hpc of_none fun e he => ?_
    split at he <;> cases he
  | checkPanicked f =>
    have hnone : SyncPc.Fits (c.entries f.entry) (.checkPanicked f) := hpc ▸ h.fits t f (hpc ▸ rfl)
    refine hl.goto rfl hpc of_none fun e he => ?_
    split at he <;> cases he
    obtain ⟨v, hv⟩ := h.undecided f.entry (h.allocated t f (hpc ▸ rfl)) hnone (by simp_all)
    exact .inr ⟨v, SyncPc.owes_of_undecided hv⟩
  | waiting f => exact hl.goto rfl hpc of_none fun _ => .inl

theorem led_step {a : SyncAction n K R} (h : c.Inv) (hl : c.Led) (hq : c.QuietPanic a) :
    (c.step a).Led := by
  cases a with
  | call t key =>
    simp only [step]
    split <;> rename_i hpc <;> first | exact hl | exact hl.goto rfl hpc of_none of_none
  | finishLoad t outcome =>
    simp only [step]
    split <;> rename_i hpc <;> first | exact hl | exact hl.goto rfl hpc (fun _ => id) of_none
  | advance t => exact led_advance h hl hq

end Led

section Returns

variable {p : SyncPc K R}

omit [DecidableEq K] in
theorem LeaderDone.goto (hd : c.LeaderDone e) (halloc : c'.allocated = c.allocated)
    (hsame : c'.pc = c.pc) (hp : p.leads? = none) : (c'.goto t p).LeaderDone e := by
  refine ⟨halloc ▸ hd.1, fun u f => ?_⟩
  have hothers := hd.2 u f
  grind [goto_pc]

theorem panicked_of_done (h : c.Inv) (hd : c.LeaderDone e) (hnone : (c.entries e).result = none) :
    (c.entries e).leaderPanicked = true := by
  by_contra hflag
  obtain ⟨u, hu⟩ := h.undecided e hd.1 hnone (by simpa using hflag)
  obtain ⟨f, hf, he⟩ := SyncPc.leads_of_undecided hu
  exact hd.2 u f hf he

/-- A waiter has gone through the result's mutex to its return; nobody else has moved. -/
structure Ends (c c' : SingleFlightSync n K R) (t : Fin n) (f : Flight K) : Prop where
  inv : c'.Inv
  done : c'.LeaderDone f.entry
  others : ∀ u, u ≠ t → c'.pc u = c.pc u
  free : (c'.entries f.entry).holder = none
  ended : (∃ r, c'.pc t = .returned f r) ∨ c'.pc t = .panicked f

variable {f : Flight K}

omit [DecidableEq K] in
theorem goto_self : (c.goto t p).pc t = p := by
  rw [goto_pc, if_pos rfl]

omit [DecidableEq K] in
theorem goto_others (hsame : c'.pc = c.pc) (u : Fin n) (hu : u ≠ t) :
    (c'.goto t p).pc u = c.pc u := by
  rw [goto_pc, if_neg hu, hsame]

theorem ends_unlock (h : c.Inv) (hd : c.LeaderDone f.entry)
    (hpc : (∃ r, c.pc t = .cloned f r) ∨ c.pc t = .poisoned f) :
    Ends c (c.step (.advance t)) t f := by
  have hinv := inv_step h (.advance t)
  rcases hpc with ⟨r, hpc⟩ | hpc <;> simp only [step, advance, hpc] at hinv ⊢
  · refine ⟨hinv, hd.goto rfl rfl rfl, goto_others rfl, ?_, .inl ⟨r, goto_self⟩⟩
    simp [SingleFlightSync.goto, unlock, setHolder, setEntry]
  · refine ⟨hinv, hd.goto rfl rfl rfl, goto_others rfl, ?_, .inr goto_self⟩
    simp [SingleFlightSync.goto, unlock, setHolder, setEntry]

theorem Ends.before (h : c.Inv) (hd : c.LeaderDone f.entry)
    (hstep : c.step (.advance t) = c'.goto t p) (hp : p.leads? = none) (hsame : c'.pc = c.pc)
    (halloc : c'.allocated = c.allocated)
    (hends : (c'.goto t p).Inv → (c'.goto t p).LeaderDone f.entry → (c'.goto t p).pc t = p →
      ∃ actions, Ends (c'.goto t p) (run step (c'.goto t p) actions) t f) :
    ∃ actions, Ends c (run step c actions) t f := by
  obtain ⟨actions, hends⟩ :=
    hends (hstep ▸ inv_step h (.advance t)) (hd.goto halloc hsame hp) goto_self
  refine ⟨.advance t :: actions, ?_⟩
  rw [run_cons, hstep]
  exact ⟨hends.inv, hends.done, fun u hu => (hends.others u hu).trans (goto_others hsame u hu),
    hends.free, hends.ended⟩

theorem ends_checkPanicked (h : c.Inv) (hd : c.LeaderDone f.entry)
    (hpc : c.pc t = .checkPanicked f) : ∃ actions, Ends c (run step c actions) t f := by
  have hnone : SyncPc.Fits (c.entries f.entry) (.checkPanicked f) := hpc ▸ h.fits t f (hpc ▸ rfl)
  have hstep : c.step (.advance t) = c.goto t (.poisoned f) := by
    simp [step, advance, hpc, panicked_of_done h hd hnone]
  exact Ends.before h hd hstep rfl rfl rfl fun hinv hd hpc =>
    ⟨[.advance t], ends_unlock hinv hd (.inr hpc)⟩

theorem ends_checkResult (h : c.Inv) (hd : c.LeaderDone f.entry)
    (hpc : c.pc t = .checkResult f) : ∃ actions, Ends c (run step c actions) t f := by
  cases hres : (c.entries f.entry).result with
  | some r =>
    have hstep : c.step (.advance t) = c.goto t (.cloned f r) := by simp [step, advance, hpc, hres]
    exact Ends.before h hd hstep rfl rfl rfl fun hinv hd hpc =>
      ⟨[.advance t], ends_unlock hinv hd (.inl ⟨r, hpc⟩)⟩
  | none =>
    have hstep : c.step (.advance t) = c.goto t (.checkPanicked f) := by
      simp [step, advance, hpc, hres]
    exact Ends.before h hd hstep rfl rfl rfl ends_checkPanicked

omit [DecidableEq K] in
theorem not_waits_of_done (hl : c.Led) (hd : c.LeaderDone e) : (c.pc t).sleeps? ≠ some e := by
  intro hs
  obtain ⟨u, hu⟩ := hl t e hs
  obtain ⟨f, hf, he⟩ := SyncPc.leads_of_owes hu
  exact hd.2 u f hf he

theorem ends_of_holds (h : c.Inv) (hl : c.Led) (hd : c.LeaderDone f.entry)
    (hw : (c.pc t).waiter? = some f) (hholds : (c.pc t).holds? = some f.entry) :
    ∃ actions, Ends c (run step c actions) t f := by
  have hsleeps := not_waits_of_done (t := t) hl hd
  cases hpc : c.pc t <;> rw [hpc] at hw hholds hsleeps <;> cases hw <;> try cases hholds
  case checkResult => exact ends_checkResult h hd hpc
  case checkPanicked => exact ends_checkPanicked h hd hpc
  case waiting => exact absurd rfl hsleeps
  case cloned r => exact ⟨[.advance t], ends_unlock h hd (.inl ⟨r, hpc⟩)⟩
  case poisoned => exact ⟨[.advance t], ends_unlock h hd (.inr hpc)⟩

theorem ends_of_free (h : c.Inv) (hd : c.LeaderDone f.entry)
    (hpc : c.pc t = .joined f ∨ c.pc t = .woken f) (hfree : (c.entries f.entry).holder = none) :
    ∃ actions, Ends c (run step c actions) t f := by
  have hstep : c.step (.advance t) = (c.lock t f.entry).goto t (.checkResult f) := by
    rcases hpc with hpc | hpc <;> simp [step, advance, hpc, hfree]
  exact Ends.before h hd hstep rfl rfl rfl ends_checkResult

theorem ends_of_wants (h : c.Inv) (hl : c.Led) (hd : c.LeaderDone f.entry)
    (hpc : c.pc t = .joined f ∨ c.pc t = .woken f) :
    ∃ actions, (∃ r, (run step c actions).pc t = .returned f r) ∨
      (run step c actions).pc t = .panicked f := by
  cases hholder : (c.entries f.entry).holder with
  | none =>
    obtain ⟨actions, hends⟩ := ends_of_free h hd hpc hholder
    exact ⟨actions, hends.ended⟩
  | some u =>
    have hholds := (h.holder u f.entry).mpr hholder
    have hne : t ≠ u := by
      rintro rfl
      rcases hpc with hpc | hpc <;> rw [hpc] at hholds <;> cases hholds
    -- the leader is gone, so the holder is a waiter
    obtain ⟨g, hw, hg⟩ : ∃ g, (c.pc u).waiter? = some g ∧ g.entry = f.entry := by
      have hleft := hd.2 u
      cases hu : c.pc u <;> rw [hu] at hholds hleft <;>
        simp_all [SyncPc.holds?, SyncPc.leads?, SyncPc.waiter?]
    obtain ⟨first, hfirst⟩ := ends_of_holds h hl (hg ▸ hd) hw (hg ▸ hholds)
    have hpc' : (run step c first).pc t = .joined f ∨ (run step c first).pc t = .woken f := by
      rwa [hfirst.others t hne]
    obtain ⟨second, hsecond⟩ := ends_of_free hfirst.inv (hg ▸ hfirst.done) hpc' (hg ▸ hfirst.free)
    refine ⟨first ++ second, ?_⟩
    rw [run_append]
    exact hsecond.ended

theorem Led.wakes (h : c.Inv) (hl : c.Led) : c.Wakes where
  not_parked t f hpc hd := not_waits_of_done hl hd (hpc ▸ rfl : (c.pc t).sleeps? = some f.entry)
  returns t f hw hd := by
    by_cases hwants : c.pc t = .joined f ∨ c.pc t = .woken f
    · exact ends_of_wants h hl hd hwants
    · have hsleeps := not_waits_of_done (t := t) hl hd
      have hholds : (c.pc t).holds? = some f.entry := by
        cases hpc : c.pc t <;> rw [hpc] at hw hsleeps hwants <;> cases hw <;> try rfl
        all_goals simp_all [SyncPc.sleeps?]
      obtain ⟨actions, hends⟩ := ends_of_holds h hl hd hw hholds
      exact ⟨actions, hends.ended⟩

end Returns

section Asleep

theorem advance_others {u : Fin n} (hu : u ≠ t) : (c.advance t).pc u = c.pc u ∨
      ∃ e, (c.pc t).owes? = some e ∧ (c.advance t).pc u = (c.pc u).wake e := by
  unfold advance enter
  split <;> (try split) <;>
    simp_all [goto_pc, setEntry, lock, unlock, setHolder, notifyAll, SyncPc.owes?]

theorem leads_of_advance {u : Fin n} {g : Flight K} (h : c.Inv)
    (hg : ((c.advance t).pc u).leads? = some g) :
    (c.pc u).leads? = some g ∨ g.entry = c.allocated := by
  obtain ⟨⟩ := h
  grind [advance, enter, goto_pc, SyncPc.leads?, advance_others, SyncPc.leads?_wake]

theorem allocated_le_advance (c : SingleFlightSync n K R) (t : Fin n) :
    c.allocated ≤ (c.advance t).allocated := by
  unfold advance enter
  split <;> first | exact le_rfl | split
  all_goals first | exact le_rfl | exact Nat.le_succ _

theorem LeaderDone.step {a : SyncAction n K R} (h : c.Inv) (hd : c.LeaderDone e) :
    (c.step a).LeaderDone e := by
  cases a with
  | call t key =>
    simp only [SingleFlightSync.step]
    split <;> first | exact hd | exact hd.goto rfl rfl rfl
  | finishLoad t outcome =>
    have hleft := hd.2
    simp only [SingleFlightSync.step]
    split <;> first | exact hd | refine ⟨hd.1, fun u g => ?_⟩
    all_goals
      rw [goto_pc]
      grind [SyncPc.leads?]
  | advance t =>
    refine ⟨hd.1.trans_le (allocated_le_advance c t), fun u g hg => ?_⟩
    rcases leads_of_advance h hg with hg | hg
    · exact hd.2 u g hg
    · exact hg ▸ hd.1.ne'

theorem asleep_step {a : SyncAction n K R} {f : Flight K} (hd : c.LeaderDone f.entry)
    (hpc : c.pc t = .parked f) : (c.step a).pc t = .parked f := by
  cases a with
  | call u key | finishLoad u outcome =>
    simp only [step]
    split <;> first | exact hpc | rw [goto_others rfl t, hpc]
    all_goals
      rintro rfl
      simp_all
  | advance u =>
    by_cases hu : t = u
    · subst u
      simp only [step, advance, hpc]
    · rcases advance_others (c := c) hu with hsame | ⟨e, howes, hwake⟩
      · exact hsame.trans hpc
      · obtain ⟨g, hg, hge⟩ := SyncPc.leads_of_owes howes
        have hne : f.entry ≠ e := fun heq => hd.2 u g hg (hge.trans heq.symm)
        simp only [step, hwake, hpc, SyncPc.wake, if_neg hne]

theorem asleep_run {f : Flight K} (h : c.Inv) (hd : c.LeaderDone f.entry) (hpc : c.pc t = .parked f)
    (actions : List (SyncAction n K R)) : (run step c actions).pc t = .parked f := by
  let Asleep (c : SingleFlightSync n K R) : Prop :=
    c.Inv ∧ c.LeaderDone f.entry ∧ c.pc t = .parked f
  have hstep : ∀ (c : SingleFlightSync n K R) (a : SyncAction n K R), Asleep c →
      Asleep (c.step a) := by
    rintro c a ⟨hinv, hdone, hparked⟩
    exact ⟨inv_step hinv a, hdone.step hinv, asleep_step hdone hparked⟩
  exact (run_invariant hstep ⟨h, hd, hpc⟩ actions).2.2

end Asleep

section Runs

theorem inv_new : (new n K R).Inv where
  slot _ _ := nofun
  led _ _ := nofun
  sole _ _ _ _ := nofun
  allocated _ _ := nofun
  counted _ _ := nofun
  holder _ _ := iff_of_false nofun nofun
  fits _ _ := nofun
  undecided _ he := absurd he (Nat.not_lt_zero _)

theorem inv_run (actions : List (SyncAction n K R)) : (run step (new n K R) actions).Inv :=
  run_invariant (I := Inv) (fun _ a h => inv_step h a) inv_new actions

/-- Threads, outcomes and interleavings are arbitrary. One thread at a time loads a key and callers
get their leader's result; nobody is left asleep if every panic notifies while no thread is between
its look at the panic mark and its wait. -/
theorem singleFlightSync_correct (actions : List (SyncAction n K R)) :
    Always step Safe (new n K R) actions ∧
      (Guarded step QuietPanic (new n K R) actions → Always step Wakes (new n K R) actions) := by
  constructor
  · exact always_of_guarded (G := fun _ _ => True) (fun _ a h _ => inv_step h a)
      (fun _ h => h.safe) inv_new (guarded_of_forall fun _ _ _ => trivial)
  · intro hq
    exact always_of_guarded (I := fun c => c.Inv ∧ c.Led)
      (fun _ a h hq => ⟨inv_step h.1 a, led_step h.1 h.2 hq⟩) (fun _ h => h.2.wakes h.1)
      ⟨inv_new, nofun⟩ hq

instance (c : SingleFlightSync n K R) : DecidablePred c.QuietPanic
  | .advance t =>
    match hpc : c.pc t with
    | .unwindNotify f =>
      decidable_of_iff (∀ u, (c.pc u).waits? ≠ some f.entry)
        ⟨fun h g hg => by cases hpc.symm.trans hg; exact h, fun h => h f hpc⟩
    | .idle | .entering _ | .loading _ | .storing .. | .notifying .. | .unlocking .. | .removing ..
    | .unwinding _ | .unwindRemove _ | .joined _ | .checkResult _ | .checkPanicked _ | .waiting _
    | .parked _ | .woken _ | .cloned .. | .poisoned _ | .returned .. | .panicked _ =>
      .isTrue fun _ hg => by cases hpc.symm.trans hg
  | .call .. | .finishLoad .. => .isTrue trivial

/-- One waiter sleeps through a load that returns, then through one that panics. -/
def wokenActions : List (SyncAction 2 Unit Nat) :=
  [.call p₀ (), .advance p₀, .call p₁ (), .advance p₁, .advance p₁, .advance p₁, .advance p₁,
    .advance p₁, .finishLoad p₀ (.returns 7), .advance p₀, .advance p₀, .advance p₀, .advance p₀,
    .advance p₁, .advance p₁, .advance p₁, .call p₁ (), .advance p₁, .call p₀ (), .advance p₀,
    .advance p₀, .advance p₀, .advance p₀, .advance p₀, .finishLoad p₁ .panics, .advance p₁,
    .advance p₁, .advance p₁, .advance p₀, .advance p₀, .advance p₀, .advance p₀]

theorem wokenActions_wake : Always step Safe (new 2 Unit Nat) wokenActions ∧
      Always step Wakes (new 2 Unit Nat) wokenActions := by
  obtain ⟨hsafe, hwakes⟩ := singleFlightSync_correct wokenActions
  exact ⟨hsafe, hwakes (by decide +kernel)⟩

/-- The waiter has seen no panic mark, the leader marks and notifies, and the waiter goes to
sleep. -/
def lostActions : List (SyncAction 2 Unit Nat) :=
  [.call p₀ (), .advance p₀, .call p₁ (), .advance p₁, .advance p₁, .advance p₁, .advance p₁,
    .finishLoad p₀ .panics, .advance p₀, .advance p₀, .advance p₀, .advance p₁]

theorem lostActions_sleep_forever : (run step (new 2 Unit Nat) lostActions).LeaderDone 0 ∧
      (∀ later, (run step (new 2 Unit Nat) (lostActions ++ later)).pc 1 = .parked ⟨(), 0⟩) ∧
      ¬ Always step Wakes (new 2 Unit Nat) lostActions := by
  have hdone : (run step (new 2 Unit Nat) lostActions).LeaderDone 0 := by
    refine ⟨by decide, fun t f => ?_⟩
    have hleads : ∀ t, ((run step (new 2 Unit Nat) lostActions).pc t).leads?.isNone := by
      decide
    rw [Option.isNone_iff_eq_none.mp (hleads t)]
    exact nofun
  have hparked : (run step (new 2 Unit Nat) lostActions).pc 1 = .parked ⟨(), 0⟩ := rfl
  refine ⟨hdone, fun later => ?_, fun halways => ?_⟩
  · rw [run_append]
    exact asleep_run (inv_run lostActions) hdone hparked later
  · exact (halways.initial (List.prefix_refl _)).not_parked 1 _ hparked hdone

end Runs

end SingleFlightSync

end AdapterOS.SingleFlight
