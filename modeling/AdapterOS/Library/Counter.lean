import Mathlib.Algebra.Order.Ring.Nat

/-! Machine words and a heap of shared atomic counters. -/
namespace Library

def wrap64 (n : Nat) : Nat := n % 2 ^ 64

def saturatingAdd64 (m n : Nat) : Nat := min (m + n) (2 ^ 64 - 1)

def saturatingMul64 (m n : Nat) : Nat := min (m * n) (2 ^ 64 - 1)

def checkedMul64 (m n : Nat) : Option Nat := if m * n < 2 ^ 64 then some (m * n) else none

def wrapSub64 (m n : Nat) : Nat := (m + (2 ^ 64 - n % 2 ^ 64)) % 2 ^ 64

theorem wrap64_of_lt {n : Nat} (h : n < 2 ^ 64) : wrap64 n = n := Nat.mod_eq_of_lt h

theorem wrapSub64_of_le {m n : Nat} (hm : m < 2 ^ 64) (h : n ≤ m) : wrapSub64 m n = m - n := by
  unfold wrapSub64
  omega

/-- Address of a counter that several owners may hold. -/
abbrev Cell := Nat

/-- Counters by address; addresses from `next` on are unused. -/
structure Heap where
  cells : Cell → Nat
  next : Cell

namespace Heap

variable {h : Heap} {c d : Cell}

def empty : Heap := ⟨fun _ => 0, 0⟩

def alloc (h : Heap) : Cell × Heap := (h.next, ⟨Function.update h.cells h.next 0, h.next + 1⟩)

def load (h : Heap) (c : Cell) : Nat := h.cells c

def fetchAdd (h : Heap) (c : Cell) : Heap :=
  { h with cells := Function.update h.cells c (wrap64 (h.cells c + 1)) }

def fetchSub (h : Heap) (c : Cell) : Heap :=
  { h with cells := Function.update h.cells c (wrapSub64 (h.cells c) 1) }

@[simp] theorem alloc_fst (h : Heap) : h.alloc.1 = h.next := rfl

@[simp] theorem alloc_next (h : Heap) : h.alloc.2.next = h.next + 1 := rfl

@[simp] theorem load_alloc_new (h : Heap) : h.alloc.2.load h.next = 0 := by
  simp [alloc, load]

theorem load_alloc_old (hc : c < h.next) : h.alloc.2.load c = h.load c := by
  simp [alloc, load, Function.update_of_ne (Nat.ne_of_lt hc)]

theorem load_fetchAdd (h : Heap) (c d : Cell) :
    (h.fetchAdd c).load d = if d = c then wrap64 (h.load c + 1) else h.load d := by
  simp only [fetchAdd, load, Function.update_apply]

theorem load_fetchSub (h : Heap) (c d : Cell) :
    (h.fetchSub c).load d = if d = c then wrapSub64 (h.load c) 1 else h.load d := by
  simp only [fetchSub, load, Function.update_apply]

/-- `h'` has every counter of `h`, unchanged, and perhaps further ones. -/
structure Extends (h h' : Heap) : Prop where
  next_le : h.next ≤ h'.next
  load_eq : ∀ c, c < h.next → h'.load c = h.load c

theorem Extends.refl (h : Heap) : Extends h h := ⟨Nat.le_refl _, fun _ _ => rfl⟩

theorem Extends.trans {h₁ h₂ h₃ : Heap} (ha : Extends h₁ h₂) (hb : Extends h₂ h₃) :
    Extends h₁ h₃ := by
  refine ⟨Nat.le_trans ha.next_le hb.next_le, ?_⟩
  intro c hc
  have hc' : c < h₂.next := Nat.lt_of_lt_of_le hc ha.next_le
  exact (hb.load_eq c hc').trans (ha.load_eq c hc)

theorem extends_alloc (h : Heap) : Extends h h.alloc.2 :=
  ⟨Nat.le_succ _, fun _ hc => load_alloc_old hc⟩

end Heap

end Library
