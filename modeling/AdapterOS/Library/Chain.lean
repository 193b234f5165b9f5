import Mathlib.Data.List.Infix
import Mathlib.Data.List.Sort

/-! Lists in which every element names the one before it, what is left of such a list when some of
its elements are taken out, and what the last state of a chain of steps tells about the steps. -/
namespace Library

variable {α ι : Type*} {back : α → Option ι} {name : α → ι} {p q : Option ι} {a : α} {l m : List α}

def Linked (back : α → Option ι) (name : α → ι) : Option ι → List α → Prop
  | _, [] => True
  | p, a :: l => back a = p ∧ Linked back name (some (name a)) l

/-- Of elements marked as kept or not: where a kept one follows others, the last kept before it
(`q` before the list) has the name of the last of all before it (`p` before the list). -/
def Bridged (name : α → ι) : Option ι → Option ι → List (Bool × α) → Prop
  | _, _, [] => True
  | q, p, (true, a) :: l => q = p ∧ Bridged name (some (name a)) (some (name a)) l
  | q, _, (false, a) :: l => Bridged name q (some (name a)) l

def tip (name : α → ι) (p : Option ι) (l : List α) : Option ι :=
  (l.getLast?.map name).or p

instance Linked.decidable [DecidableEq ι] (back : α → Option ι) (name : α → ι) :
    (p : Option ι) → (l : List α) → Decidable (Linked back name p l)
  | _, [] => inferInstanceAs (Decidable True)
  | p, a :: l =>
    have := Linked.decidable back name (some (name a)) l
    inferInstanceAs (Decidable (back a = p ∧ Linked back name (some (name a)) l))

instance Bridged.decidable [DecidableEq ι] (name : α → ι) :
    (q p : Option ι) → (l : List (Bool × α)) → Decidable (Bridged name q p l)
  | _, _, [] => inferInstanceAs (Decidable True)
  | q, p, (true, a) :: l =>
    have := Bridged.decidable name (some (name a)) (some (name a)) l
    inferInstanceAs (Decidable (q = p ∧ Bridged name (some (name a)) (some (name a)) l))
  | q, _, (false, a) :: l => Bridged.decidable name q (some (name a)) l

@[simp] theorem linked_nil : Linked back name p [] := trivial

@[simp] theorem linked_cons :
    Linked back name p (a :: l) ↔ back a = p ∧ Linked back name (some (name a)) l := Iff.rfl

@[simp] theorem tip_nil : tip name p [] = p := rfl

@[simp] theorem tip_cons : tip name p (a :: l) = tip name (some (name a)) l := by
  cases l with
  | nil => rfl
  | cons b l => simp [tip, List.getLast?_cons]

@[simp] theorem tip_concat : tip name p (l ++ [a]) = some (name a) := by
  simp [tip]

theorem linked_append :
    Linked back name p (l ++ m) ↔ Linked back name p l ∧ Linked back name (tip name p l) m := by
  induction l generalizing p with
  | nil => simp
  | cons a l ih => simp [ih, and_assoc]

theorem Linked.concat (h : Linked back name p l) (ha : back a = tip name p l) :
    Linked back name p (l ++ [a]) :=
  linked_append.mpr ⟨h, ha, trivial⟩

theorem linked_kept_iff {l : List (Bool × α)} (h : Linked back name p (l.map Prod.snd)) :
    Linked back name q ((l.filter Prod.fst).map Prod.snd) ↔ Bridged name q p l := by
  induction l generalizing p q with
  | nil => simp [Bridged]
  | cons e l ih => grind [linked_cons, Bridged]

/-- Where elements with the same name refer back to the same, the last name determines all names
and what the first element refers back to. -/
theorem map_name_eq_of_bound (hl : Linked back name p l) (hm : Linked back name q m)
    (hlast : tip name p l = tip name q m)
    (hbound : List.Forall₂ (fun a b => name a = name b → back a = back b) l m) :
    l.map name = m.map name ∧ p = q := by
  induction hbound generalizing p q with
  | nil => exact ⟨rfl, hlast⟩
  | @cons a b l m hab _ ih =>
    obtain ⟨hpa, hl⟩ := hl
    obtain ⟨hpb, hm⟩ := hm
    grind [tip_cons]

theorem map_back_eq_of_names (hl : Linked back name p l) (hm : Linked back name p m)
    (h : l.map name = m.map name) : List.Forall₂ (fun a b => back a = back b) l m := by
  induction l generalizing p m with
  | nil =>
    rw [List.map_nil, eq_comm, List.map_eq_nil_iff] at h
    rw [h]
    exact .nil
  | cons a l ih =>
    cases m with
    | nil => simp at h
    | cons b m =>
      obtain ⟨hpa, hl⟩ := hl
      obtain ⟨hpb, hm⟩ := hm
      rw [List.map_cons, List.map_cons, List.cons.injEq] at h
      rw [h.1] at hl
      exact .cons (hpa.trans hpb.symm) (ih hl hm h.2)

section Folds

variable {σ : Type*} {step : σ → α → σ} {start : σ}

def Restarts (step : σ → α → σ) (start : σ) (l m : List α) : Prop :=
  ∃ front, front ≠ [] ∧ l = front ++ m ∧ front.foldl step start = start

/-- The last link of a chain is known from the state it leads to. -/
def ToldApart (step : σ → α → σ) (start : σ) (l m : List α) : Prop :=
  ∀ front a other b, front ++ [a] <+: l → other ++ [b] <+: m →
    step (front.foldl step start) a = step (other.foldl step start) b →
    front.foldl step start = other.foldl step start ∧ a = b

theorem Restarts.foldl_eq (h : Restarts step start l m) :
    l.foldl step start = m.foldl step start := by
  obtain ⟨front, _, rfl, hfront⟩ := h
  rw [List.foldl_append, hfront]

theorem Restarts.concat (h : Restarts step start l m) (a : α) :
    Restarts step start (l ++ [a]) (m ++ [a]) := by
  obtain ⟨front, hne, rfl, hfront⟩ := h
  exact ⟨front, hne, List.append_assoc front m [a], hfront⟩

theorem restarts_nil (hne : l ≠ []) (h : l.foldl step start = start) : Restarts step start l [] :=
  ⟨l, hne, (List.append_nil l).symm, h⟩

theorem Restarts.length_lt (h : Restarts step start l m) : m.length < l.length := by
  obtain ⟨front, hne, rfl, _⟩ := h
  have := List.length_pos_iff.mpr hne
  rw [List.length_append]
  omega

theorem foldl_eq_iff_of_toldApart (h : ToldApart step start l m) :
    l.foldl step start = m.foldl step start ↔
      l = m ∨ Restarts step start l m ∨ Restarts step start m l := by
  constructor
  · intro he
    -- From the last steps backwards, until one of the chains is used up.
    induction l using List.reverseRecOn generalizing m with
    | nil =>
      by_cases hm : m = []
      · exact .inl hm.symm
      · exact .inr (.inr (restarts_nil hm he.symm))
    | append_singleton l a ih =>
      obtain rfl | ⟨m, b, rfl⟩ := List.eq_nil_or_concat' m
      · exact .inr (.inl (restarts_nil (by simp) he))
      · rw [List.foldl_append, List.foldl_append] at he
        obtain ⟨hstate, rfl⟩ := h l a m b (List.prefix_refl _) (List.prefix_refl _) he
        have hbefore : ToldApart step start l m := by
          intro front a' other b' hfront hother
          exact h front a' other b' (hfront.trans (List.prefix_append l [a]))
            (hother.trans (List.prefix_append m [a]))
        rcases ih hbefore hstate with rfl | hl | hm
        · exact .inl rfl
        · exact .inr (.inl (hl.concat a))
        · exact .inr (.inr (hm.concat a))
  · rintro (rfl | hl | hm)
    · rfl
    · exact hl.foldl_eq
    · exact hm.foldl_eq.symm

end Folds

end Library
