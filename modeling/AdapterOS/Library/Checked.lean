import Mathlib.Algebra.Order.Ring.Nat
import Mathlib.Data.List.Forall2

/-! Computations that return a result, return an error or panic, with rules for showing that one
does not panic and for what its result is. -/
namespace Library

/-- A panic is `none`. -/
abbrev Checked (ε α : Type) : Type := ExceptT ε Option α

namespace Checked

variable {ε α β : Type} {x : Checked ε α} {f : α → Checked ε β} {P : α → Prop} {Q : β → Prop}
  {a : α} {b : β} {e : ε} {c : Prop} [Decidable c] {m n : Nat}

def orPanic : Option α → Checked ε α
  | none => ExceptT.mk none
  | some a => pure a

def orThrow : Except ε α → Checked ε α
  | .error e => throw e
  | .ok a => pure a

def refuse (c : Prop) [Decidable c] (e : ε) : Checked ε Unit := if c then throw e else pure ()

def checkedAdd (m n : Nat) (e : ε) : Checked ε Nat :=
  if m + n < 2 ^ 64 then pure (m + n) else throw e

def word (n : Nat) : Checked ε Nat := orPanic (if n < 2 ^ 64 then some n else none)

section Results

@[simp] theorem orPanic_some : (orPanic (some a) : Checked ε α) = pure a := rfl

@[simp] theorem orThrow_ok : (orThrow (.ok a) : Checked ε α) = pure a := rfl

theorem refuse_eq_pure (h : ¬ c) : refuse c e = pure () := if_neg h

theorem checkedAdd_eq_pure (h : m + n < 2 ^ 64) : checkedAdd m n e = pure (m + n) := if_pos h

theorem word_eq_pure (h : n < 2 ^ 64) : (word n : Checked ε Nat) = pure n := by
  rw [word, if_pos h, orPanic_some]

theorem pure_inj {a' : α} : (pure a : Checked ε α) = pure a' ↔ a = a' :=
  ⟨fun h => Except.ok.inj (Option.some.inj h), fun h => h ▸ rfl⟩

theorem throw_ne_pure : (throw e : Checked ε α) ≠ pure a := nofun

theorem bind_eq_pure_iff : x >>= f = pure b ↔ ∃ a, x = pure a ∧ f a = pure b := by
  constructor
  · intro h
    match x, h with
    | some (.ok a), h => exact ⟨a, rfl, h⟩
  · rintro ⟨a, rfl, h⟩
    exact h

theorem orThrow_eq_pure_iff {r : Except ε α} : orThrow r = pure a ↔ r = .ok a := by
  cases r with
  | error e => exact ⟨fun h => absurd h throw_ne_pure, fun h => nomatch h⟩
  | ok a' => rw [orThrow_ok, pure_inj, Except.ok.injEq]

theorem checkedAdd_eq_pure_iff {k : Nat} :
    checkedAdd m n e = pure k ↔ m + n < 2 ^ 64 ∧ m + n = k := by
  unfold checkedAdd
  split
  · rename_i h
    rw [pure_inj, and_iff_right h]
  · rename_i h
    exact ⟨fun he => absurd he throw_ne_pure, fun he => absurd he.1 h⟩

theorem word_eq_pure_iff {k : Nat} : (word n : Checked ε Nat) = pure k ↔ n < 2 ^ 64 ∧ n = k := by
  by_cases h : n < 2 ^ 64
  · rw [word_eq_pure h, pure_inj, and_iff_right h]
  · rw [word, if_neg h]
    exact ⟨nofun, fun he => absurd he.1 h⟩

theorem mapM_eq_pure {l : List α} {bs : List β} (h : List.Forall₂ (fun a b => f a = pure b) l bs) :
    l.mapM f = pure bs := by
  induction h with
  | nil => rfl
  | cons ha _ ih => rw [List.mapM_cons, ha, pure_bind, ih, pure_bind]

end Results

section Safety

def Safe (x : Checked ε α) (P : α → Prop) : Prop := (∃ e, x = throw e) ∨ ∃ a, x = pure a ∧ P a

theorem safe_pure (h : P a) : Safe (pure a : Checked ε α) P := .inr ⟨a, rfl, h⟩

theorem safe_throw : Safe (throw e : Checked ε α) P := .inl ⟨e, rfl⟩

theorem Safe.bind (hx : Safe x P) (hf : ∀ a, P a → Safe (f a) Q) : Safe (x >>= f) Q := by
  rcases hx with ⟨e, rfl⟩ | ⟨a, rfl, ha⟩
  · exact safe_throw
  · exact hf a ha

theorem Safe.mono {P' : α → Prop} (h : Safe x P) (hP : ∀ a, P a → P' a) : Safe x P' :=
  h.imp_right fun ⟨a, hx, ha⟩ => ⟨a, hx, hP a ha⟩

theorem Safe.result (h : Safe x P) : Safe x fun a => x = pure a ∧ P a := by
  rcases h with ⟨e, rfl⟩ | ⟨a, rfl, ha⟩
  · exact safe_throw
  · exact safe_pure ⟨rfl, ha⟩

theorem safe_orPanic {o : Option α} (h : ∃ a, o = some a ∧ P a) :
    Safe (orPanic o : Checked ε α) P := by
  obtain ⟨a, rfl, ha⟩ := h
  exact safe_pure ha

theorem safe_orThrow {r : Except ε α} : Safe (orThrow r) fun a => r = .ok a := by
  cases r with
  | error e => exact safe_throw
  | ok a => exact safe_pure rfl

theorem safe_refuse : Safe (refuse c e) fun _ => ¬ c := by
  unfold refuse
  split
  · exact safe_throw
  · exact safe_pure ‹¬ c›

theorem safe_checkedAdd : Safe (checkedAdd m n e) fun k => m + n < 2 ^ 64 ∧ k = m + n := by
  unfold checkedAdd
  split
  · exact safe_pure ⟨‹_›, rfl⟩
  · exact safe_throw

theorem safe_word (h : n < 2 ^ 64) : Safe (word n : Checked ε Nat) fun k => k = n := by
  rw [word_eq_pure h]
  exact safe_pure rfl

theorem safe_mapM {l : List α} {R : α → β → Prop} (h : ∀ a ∈ l, Safe (f a) (R a)) :
    Safe (l.mapM f) fun bs => List.Forall₂ R l bs := by
  induction l with
  | nil => exact safe_pure .nil
  | cons a l ih =>
    rw [List.mapM_cons]
    refine (h a List.mem_cons_self).bind fun b hb => ?_
    refine (ih fun c hc => h c (List.mem_cons_of_mem a hc)).bind fun bs hbs => ?_
    exact safe_pure (.cons hb hbs)

end Safety

end Checked

end Library
