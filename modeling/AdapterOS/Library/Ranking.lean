import Mathlib.Data.List.Sort
import Mathlib.Data.Prod.Lex

/-! Stable sorting by a key in a linear order, and the first elements of what is sorted. -/
namespace Library

variable {α β γ κ κ' ρ : Type*} [LinearOrder κ] [LinearOrder κ'] {key : α → κ} {key' : β → κ'}
  {l : List α} {m : List β} {a b : α} {k : Nat}

def sortBy (key : α → κ) (l : List α) : List α := l.insertionSort fun a b => key a ≤ key b

theorem sortBy_perm (key : α → κ) (l : List α) : (sortBy key l).Perm l := l.perm_insertionSort _

@[simp] theorem mem_sortBy : a ∈ sortBy key l ↔ a ∈ l := (sortBy_perm key l).mem_iff

@[simp] theorem length_sortBy : (sortBy key l).length = l.length := (sortBy_perm key l).length_eq

theorem pairwise_sortBy (key : α → κ) (l : List α) :
    (sortBy key l).Pairwise fun a b => key a ≤ key b := by
  have htotal : Std.Total fun a b : α => key a ≤ key b := ⟨fun a b => le_total (key a) (key b)⟩
  have htrans : IsTrans α fun a b => key a ≤ key b := ⟨fun _ _ _ h₁ h₂ => le_trans h₁ h₂⟩
  exact l.pairwise_insertionSort _

theorem sortBy_eq_self (h : l.Pairwise fun a b => key a ≤ key b) : sortBy key l = l :=
  h.insertionSort_eq

theorem sortBy_eq_of_perm {m : List α} (hm : m.Pairwise fun a b => key a < key b)
    (hp : l.Perm m) : sortBy key l = m := by
  have hkeys : (m.map key).Nodup := List.pairwise_map.mpr (hm.imp ne_of_lt)
  refine List.Perm.eq_of_pairwise ?_ (pairwise_sortBy key l) (hm.imp le_of_lt)
    ((sortBy_perm key l).trans hp)
  grind [mem_sortBy, List.inj_on_of_nodup_map]

theorem sortBy_map (f : α → β) (l : List α) :
    sortBy key' (l.map f) = (sortBy (fun a => key' (f a)) l).map f :=
  (List.map_insertionSort _ _ f l fun _ _ _ _ => Iff.rfl).symm

theorem sortBy_congr {key₂ : α → κ} (h : ∀ a ∈ l, key a = key₂ a) :
    sortBy key l = sortBy key₂ l := by
  have hid := List.map_insertionSort (fun a b => key a ≤ key b) (fun a b => key₂ a ≤ key₂ b) id l
    fun a ha b hb => by simp [h a ha, h b hb]
  simpa [sortBy] using hid

private theorem orderedInsert_eq_cons (h : ∀ b ∈ l, key a ≤ key b) :
    l.orderedInsert (fun a b => key a ≤ key b) a = a :: l := by
  cases l with
  | nil => rfl
  | cons b l => exact if_pos (h b List.mem_cons_self)

private theorem filter_orderedInsert (p : α → Bool) (h : l.Pairwise fun a b => key a ≤ key b) :
    (l.orderedInsert (fun a b => key a ≤ key b) a).filter p =
      if p a then (l.filter p).orderedInsert (fun a b => key a ≤ key b) a else l.filter p := by
  induction l with
  | nil => simp [List.filter_cons]
  | cons b l ih =>
    obtain ⟨hb, hl⟩ := List.pairwise_cons.mp h
    by_cases hab : key a ≤ key b
    · -- what is kept of the list is no smaller than its first element
      have hall : ∀ c ∈ (b :: l).filter p, key a ≤ key c := by grind
      rw [orderedInsert_eq_cons hall, List.orderedInsert_cons, if_pos hab, List.filter_cons]
    all_goals grind

theorem sortBy_filter (p : α → Bool) (l : List α) :
    sortBy key (l.filter p) = (sortBy key l).filter p := by
  induction l with
  | nil => rfl
  | cons a l ih =>
    change _ = ((sortBy key l).orderedInsert _ a).filter p
    rw [filter_orderedInsert p (pairwise_sortBy key l), ← ih, List.filter_cons]
    exact apply_ite (sortBy key) _ _ _

theorem key_le_of_mem_take (ha : a ∈ (sortBy key l).take k) (hb : b ∈ l)
    (hn : b ∉ (sortBy key l).take k) : key a ≤ key b := by
  grind [pairwise_sortBy, List.take_append_drop, mem_sortBy]

theorem mem_take_sub_iff (hl : l.Pairwise fun a b => key a < key b) (ha : a ∈ l) :
    a ∈ l.take (l.length - k) ↔ k ≤ (l.filter fun b => key a < key b).length := by
  obtain ⟨before, after, rfl⟩ := List.append_of_mem ha
  obtain ⟨-, hrest, hcross⟩ := List.pairwise_append.mp hl
  have hlt := (List.pairwise_cons.mp hrest).1
  have hbefore : before.filter (fun b => key a < key b) = [] := by
    simpa using fun b hb => (hcross b hb a List.mem_cons_self).le
  have hafter : after.filter (fun b => key a < key b) = after := by simpa using hlt
  have hout : a ∉ before := fun hin => lt_irrefl _ (hcross a hin a List.mem_cons_self)
  have hcut : ∀ n, a ∈ (before ++ a :: after).take n ↔ before.length < n := by
    intro n
    rw [List.take_append, List.mem_append, or_iff_right fun hin => hout (List.mem_of_mem_take hin),
      ← Nat.sub_pos_iff_lt]
    cases n - before.length <;> simp
  rw [hcut, List.filter_append, List.filter_cons, hbefore, hafter]
  simp
  omega

theorem sortBy_lex_eq {idx : α → Nat} (h : l.Pairwise fun a b => idx a < idx b) :
    sortBy (fun a => toLex (key a, idx a)) l = sortBy key l := by
  induction l with
  | nil => rfl
  | cons a l ih =>
    obtain ⟨ha, hl⟩ := List.pairwise_cons.mp h
    have hagree : ∀ b ∈ sortBy key l, toLex (key a, idx a) ≤ toLex (key b, idx b) ↔
        key a ≤ key b := by grind [mem_sortBy, Prod.Lex.toLex_le_toLex]
    have hinsert : ∀ m : List α, (∀ b ∈ m, toLex (key a, idx a) ≤ toLex (key b, idx b) ↔
        key a ≤ key b) →
        m.orderedInsert (fun a b => toLex (key a, idx a) ≤ toLex (key b, idx b)) a =
          m.orderedInsert (fun a b => key a ≤ key b) a := by
      intro m hm
      induction m with
      | nil => rfl
      | cons b m ihm => grind
    change (sortBy (fun a => toLex (key a, idx a)) l).orderedInsert _ a =
      (sortBy key l).orderedInsert _ a
    rw [ih hl]
    exact hinsert _ hagree

theorem forall_mem_take_iff {P : α → Prop} [DecidablePred P]
    (hinj : ∀ a ∈ l, ∀ b ∈ l, key a = key b → a = b) :
    (∀ a ∈ (sortBy key l).take k, P a) ↔
      ∀ b ∈ l, ¬ P b → k ≤ l.countP fun a => P a ∧ key a < key b := by
  have hcount : ∀ q : α → Bool, l.countP q =
      ((sortBy key l).take k).countP q + ((sortBy key l).drop k).countP q := by
    intro q
    rw [← List.countP_append, List.take_append_drop]
    exact ((sortBy_perm key l).countP_eq q).symm
  constructor
  · intro hall b hb hn
    have hout : b ∉ (sortBy key l).take k := fun hin => hn (hall b hin)
    have hbefore : ∀ a ∈ (sortBy key l).take k, P a ∧ key a < key b := by
      intro a ha
      have hal : a ∈ l := mem_sortBy.mp (List.mem_of_mem_take ha)
      refine ⟨hall a ha, lt_of_le_of_ne (key_le_of_mem_take ha hb hout) ?_⟩
      intro he
      exact hout (hinj a hal b hb he ▸ ha)
    grind [List.take_of_length_le, mem_sortBy, List.countP_eq_length]
  · intro hmany b hb
    by_contra hn
    have hbl : b ∈ l := mem_sortBy.mp (List.mem_of_mem_take hb)
    have hle := hmany b hbl hn
    have hsorted := pairwise_sortBy key l
    rw [← List.take_append_drop k (sortBy key l)] at hsorted
    grind [List.countP_eq_zero, List.countP_eq_length]

/-- What is seen of two sorted lists is the same when the lists look the same up to order, both
sorts respect one ranking of what is seen, and nothing different ranks alike. -/
theorem map_sortBy_eq [PartialOrder ρ] {f : α → γ} {g : β → γ} (rank : γ → ρ)
    (hf : ∀ a b, key a ≤ key b → rank (f a) ≤ rank (f b))
    (hg : ∀ a b, key' a ≤ key' b → rank (g a) ≤ rank (g b))
    (hrank : ∀ x ∈ l.map f, ∀ y ∈ l.map f, rank x = rank y → x = y)
    (hperm : (l.map f).Perm (m.map g)) : (sortBy key l).map f = (sortBy key' m).map g := by
  have hl : ((sortBy key l).map f).Perm (l.map f) := (sortBy_perm key l).map f
  have hm : ((sortBy key' m).map g).Perm (m.map g) := (sortBy_perm key' m).map g
  have hsorted : ((sortBy key l).map f).Pairwise fun x y => rank x ≤ rank y :=
    (pairwise_sortBy key l).map f fun a b => hf a b
  have hsorted' : ((sortBy key' m).map g).Pairwise fun x y => rank x ≤ rank y :=
    (pairwise_sortBy key' m).map g fun a b => hg a b
  refine ((hl.trans hperm).trans hm.symm).eq_of_pairwise ?_ hsorted hsorted'
  grind

end Library
