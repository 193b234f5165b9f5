import Mathlib.Data.List.Infix

/-! Finite runs of a deterministic machine and the invariant rules they support. -/
namespace Library

variable {σ α : Type*} {step : σ → α → σ} {I P Q : σ → Prop} {G : σ → α → Prop}
  {s : σ} {a : α} {as bs : List α}

def run (step : σ → α → σ) : σ → List α → σ
  | s, [] => s
  | s, a :: as => run step (step s a) as

def Always (step : σ → α → σ) (P : σ → Prop) : σ → List α → Prop
  | s, [] => P s
  | s, a :: as => P s ∧ Always step P (step s a) as

def Guarded (step : σ → α → σ) (G : σ → α → Prop) : σ → List α → Prop
  | _, [] => True
  | s, a :: as => G s a ∧ Guarded step G (step s a) as

instance Always.decidable (step : σ → α → σ) (P : σ → Prop) [DecidablePred P] :
    (s : σ) → (as : List α) → Decidable (Always step P s as)
  | s, [] => inferInstanceAs (Decidable (P s))
  | s, a :: as =>
    have := Always.decidable step P (step s a) as
    inferInstanceAs (Decidable (P s ∧ Always step P (step s a) as))

instance Guarded.decidable (step : σ → α → σ) (G : σ → α → Prop) [∀ s a, Decidable (G s a)] :
    (s : σ) → (as : List α) → Decidable (Guarded step G s as)
  | _, [] => inferInstanceAs (Decidable True)
  | s, a :: as =>
    have := Guarded.decidable step G (step s a) as
    inferInstanceAs (Decidable (G s a ∧ Guarded step G (step s a) as))

@[simp] theorem run_nil : run step s [] = s := rfl

@[simp] theorem run_cons : run step s (a :: as) = run step (step s a) as := rfl

theorem run_append : run step s (as ++ bs) = run step (run step s as) bs := by
  induction as generalizing s with
  | nil => rfl
  | cons a as ih => exact ih

theorem run_invariant (hstep : ∀ s a, I s → I (step s a)) (hs : I s) (as : List α) :
    I (run step s as) := by
  induction as generalizing s with
  | nil => exact hs
  | cons a as ih => exact ih (hstep s a hs)

theorem exists_step_of_run (hs : ¬ Q s) (hend : Q (run step s as)) :
    ∃ bs a, bs ++ [a] <+: as ∧ ¬ Q (run step s bs) ∧ Q (step (run step s bs) a) := by
  induction as generalizing s with
  | nil => exact absurd hend hs
  | cons a as ih =>
    by_cases ha : Q (step s a)
    · exact ⟨[], a, ⟨as, rfl⟩, hs, ha⟩
    · obtain ⟨bs, b, ⟨tail, htail⟩, hnot, hnow⟩ := ih ha hend
      refine ⟨a :: bs, b, ⟨tail, ?_⟩, hnot, hnow⟩
      rw [← htail]
      rfl

theorem Always.head (h : Always step P s as) : P s := by
  cases as with
  | nil => exact h
  | cons a as => exact h.1

theorem Always.initial (h : Always step P s as) (hb : bs <+: as) : P (run step s bs) := by
  induction bs generalizing s as with
  | nil => exact h.head
  | cons b bs ih =>
    obtain ⟨tail, rfl⟩ := hb
    exact ih h.2 ⟨tail, rfl⟩

theorem Guarded.and {H : σ → α → Prop} (hg : Guarded step G s as) (hh : Guarded step H s as) :
    Guarded step (fun s a => G s a ∧ H s a) s as := by
  induction as generalizing s with
  | nil => trivial
  | cons a as ih => exact ⟨⟨hg.1, hh.1⟩, ih hg.2 hh.2⟩

theorem always_of_guarded (hstep : ∀ s a, I s → G s a → I (step s a))
    (hP : ∀ s, I s → P s) (hs : I s) (hg : Guarded step G s as) : Always step P s as := by
  induction as generalizing s with
  | nil => exact hP s hs
  | cons a as ih => exact ⟨hP s hs, ih (hstep s a hs hg.1) hg.2⟩

theorem guarded_of_guarded {H : σ → α → Prop} (hstep : ∀ s a, I s → G s a → I (step s a))
    (hH : ∀ s a, I s → G s a → H s a) (hs : I s) (hg : Guarded step G s as) :
    Guarded step H s as := by
  induction as generalizing s with
  | nil => trivial
  | cons a as ih => exact ⟨hH s a hs hg.1, ih (hstep s a hs hg.1) hg.2⟩

theorem always_iff_guarded {A : σ → α → Prop} (hstep : ∀ s a, I s → P s → A s a → I (step s a))
    (hiff : ∀ s a, I s → P s → A s a → (P (step s a) ↔ G s a)) (hs : I s) (hp : P s)
    (ha : Guarded step A s as) : Always step P s as ↔ Guarded step G s as := by
  induction as generalizing s with
  | nil => exact ⟨fun _ => trivial, fun _ => hp⟩
  | cons a as ih =>
    obtain ⟨hhead, htail⟩ := ha
    have hi := hstep s a hs hp hhead
    constructor
    · rintro ⟨_, ht⟩
      have hn := ht.head
      exact ⟨(hiff s a hs hp hhead).mp hn, (ih hi hn htail).mp ht⟩
    · rintro ⟨hg, ht⟩
      have hn := (hiff s a hs hp hhead).mpr hg
      exact ⟨hp, (ih hi hn htail).mpr ht⟩

theorem always_iff_guarded_of_kept (hstep : ∀ s a, I s → G s a → I (step s a))
    (hP : ∀ s, I s → P s) (hG : ∀ s a, I s → P (step s a) → G s a) (hs : I s) :
    Always step P s as ↔ Guarded step G s as := by
  refine ⟨?_, always_of_guarded hstep hP hs⟩
  intro h
  induction as generalizing s with
  | nil => trivial
  | cons a as ih =>
    have hg := hG s a hs h.2.head
    exact ⟨hg, ih (hstep s a hs hg) h.2⟩

theorem guarded_of_always {A : σ → α → Prop} (hstep : ∀ s a, I s → P s → A s a → I (step s a))
    (h : ∀ s a, I s → P s → A s a → P (step s a) → G s a) (hs : I s)
    (hp : Always step P s as) (ha : Guarded step A s as) : Guarded step G s as := by
  induction as generalizing s with
  | nil => trivial
  | cons a as ih =>
    obtain ⟨hhead, htail⟩ := ha
    exact ⟨h s a hs hp.1 hhead hp.2.head, ih (hstep s a hs hp.1 hhead) hp.2 htail⟩

theorem guarded_congr {A H : σ → α → Prop} (ha : Guarded step A s as)
    (h : ∀ s a, A s a → (G s a ↔ H s a)) : Guarded step G s as ↔ Guarded step H s as := by
  induction as generalizing s with
  | nil => exact Iff.rfl
  | cons a as ih => exact and_congr (h s a ha.1) (ih ha.2)

theorem guarded_of_forall (h : ∀ s a, a ∈ as → G s a) : Guarded step G s as := by
  induction as generalizing s with
  | nil => trivial
  | cons a as ih =>
    exact ⟨h s a (by simp), ih (fun s' a' ha' => h s' a' (List.mem_cons_of_mem _ ha'))⟩

theorem run_invariant_of_forall {A : α → Prop} (hstep : ∀ s a, I s → A a → I (step s a)) (hs : I s)
    (ha : ∀ a ∈ as, A a) : I (run step s as) := by
  have halways : Always step I s as :=
    always_of_guarded (G := fun _ a => A a) hstep (fun _ => id) hs
      (guarded_of_forall fun _ a hmem => ha a hmem)
  exact halways.initial (List.prefix_refl as)

section Partial

variable {β γ δ : Type*} {R : α → β → Prop} {S : γ → δ → Prop} {x : Option α} {y : Option β}

def SameResult (R : α → β → Prop) (p : α × γ) (q : β × γ) : Prop := R p.1 q.1 ∧ p.2 = q.2

theorem rel_map {f : α → γ} {g : β → δ} (h : Option.Rel R x y)
    (hfg : ∀ a b, R a b → S (f a) (g b)) : Option.Rel S (x.map f) (y.map g) := by
  cases h with
  | none => exact .none
  | some h => exact .some (hfg _ _ h)

theorem rel_bind {f : α → Option γ} {g : β → Option δ} (h : Option.Rel R x y)
    (hfg : ∀ a b, R a b → Option.Rel S (f a) (g b)) : Option.Rel S (x.bind f) (y.bind g) := by
  cases h with
  | none => exact .none
  | some h => exact hfg _ _ h

end Partial

def p₀ : Fin 2 := ⟨0, Nat.zero_lt_two⟩

def p₁ : Fin 2 := ⟨1, Nat.one_lt_two⟩

end Library
