import Mathlib.Data.Fintype.Card

/-! How many of the parties of a system are in a given kind of state. -/
namespace Library

variable {n : Nat} {α : Type*} {p q : α → Bool} {f : Fin n → α} {a : α}

def tally (p : α → Bool) (f : Fin n → α) : Nat :=
  (Finset.univ.filter fun t => p (f t) = true).card

theorem tally_eq_zero : tally p f = 0 ↔ ∀ t, p (f t) = false := by
  simp [tally, Finset.filter_eq_empty_iff]

theorem tally_le_of_imp (h : ∀ a, p a = true → q a = true) (f : Fin n → α) :
    tally p f ≤ tally q f := by
  refine Finset.card_le_card ?_
  intro t ht
  simp only [Finset.mem_filter, Finset.mem_univ, true_and] at ht ⊢
  exact h (f t) ht

theorem tally_const (p : α → Bool) (h : p a = false) : tally p (fun _ : Fin n => a) = 0 :=
  tally_eq_zero.mpr fun _ => h

theorem tally_update (p : α → Bool) (f : Fin n → α) (t : Fin n) (a : α) :
    tally p (Function.update f t a) + (p (f t)).toNat = tally p f + (p a).toNat := by
  have hsplit : ∀ g : Fin n → α, tally p g =
      ((Finset.univ.erase t).filter fun u => p (g u) = true).card + (p (g t)).toNat := by
    intro g
    unfold tally
    rw [← Finset.insert_erase (Finset.mem_univ t), Finset.filter_insert,
      Finset.erase_insert (Finset.notMem_erase t _)]
    cases hp : p (g t) with
    | false => simp
    | true => simp
  have hrest : ((Finset.univ.erase t).filter fun u => p (Function.update f t a u) = true) =
      (Finset.univ.erase t).filter fun u => p (f u) = true := by
    refine Finset.filter_congr ?_
    intro u hu
    rw [Function.update_of_ne (Finset.ne_of_mem_erase hu)]
  rw [hsplit (Function.update f t a), hsplit f, hrest, Function.update_self]
  omega

end Library
