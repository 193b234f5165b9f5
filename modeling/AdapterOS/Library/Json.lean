import Mathlib.Data.List.Basic

/-! The grammar of JSON texts over bytes, one constructor for each production, and what no such
text can contain. -/
namespace Library.Json

section Scalars

def Blanks (w : List UInt8) : Prop := ∀ b ∈ w, b = 0x20 ∨ b = 0x09 ∨ b = 0x0A ∨ b = 0x0D

def Digit (b : UInt8) : Prop := 0x30 ≤ b ∧ b ≤ 0x39

def HexDigit (b : UInt8) : Prop := Digit b ∨ (0x61 ≤ b ∧ b ≤ 0x66) ∨ (0x41 ≤ b ∧ b ≤ 0x46)

def Digits (w : List UInt8) : Prop := w ≠ [] ∧ ∀ b ∈ w, Digit b

/-- No leading zeros. -/
inductive Integer : List UInt8 → Prop
  | zero : Integer [0x30]
  | positive {w : List UInt8} (h : Digits w) (hfirst : w.head? ≠ some 0x30) : Integer w

inductive Fraction : List UInt8 → Prop
  | absent : Fraction []
  | point {w : List UInt8} (h : Digits w) : Fraction (0x2E :: w)

inductive Exponent : List UInt8 → Prop
  | absent : Exponent []
  | power {e : UInt8} {sign w : List UInt8} (he : e = 0x65 ∨ e = 0x45)
      (hsign : sign = [] ∨ sign = [0x2B] ∨ sign = [0x2D]) (h : Digits w) : Exponent (e :: sign ++ w)

inductive Number : List UInt8 → Prop
  | decimal {sign int frac exp : List UInt8} (hsign : sign = [] ∨ sign = [0x2D])
      (hint : Integer int) (hfrac : Fraction frac) (hexp : Exponent exp) :
      Number (sign ++ int ++ frac ++ exp)

/-- One character of a string: itself, or an escape. Control characters have to be escaped. -/
inductive Character : List UInt8 → Prop
  | plain {b : UInt8} (h : 0x20 ≤ b) (hquote : b ≠ 0x22) (hslash : b ≠ 0x5C) : Character [b]
  | escape {b : UInt8} (h : b ∈ [0x22, 0x5C, 0x2F, 0x62, 0x66, 0x6E, 0x72, 0x74]) :
      Character [0x5C, b]
  | unicode {a b c d : UInt8} (ha : HexDigit a) (hb : HexDigit b) (hc : HexDigit c)
      (hd : HexDigit d) : Character [0x5C, 0x75, a, b, c, d]

inductive Quoted : List UInt8 → Prop
  | chars {parts : List (List UInt8)} (h : ∀ p ∈ parts, Character p) :
      Quoted (0x22 :: parts.flatten ++ [0x22])

def literals : List (List UInt8) :=
  [[0x6E, 0x75, 0x6C, 0x6C], [0x74, 0x72, 0x75, 0x65], [0x66, 0x61, 0x6C, 0x73, 0x65]]

end Scalars

section Texts

inductive Part where
  | value
  | element
  | elements
  | member
  | members

/-- The words that derive from a part of the grammar. -/
inductive Derives : Part → List UInt8 → Prop
  | literal {w : List UInt8} (h : w ∈ literals) : Derives .value w
  | number {w : List UInt8} (h : Number w) : Derives .value w
  | quoted {w : List UInt8} (h : Quoted w) : Derives .value w
  | emptyArray {w : List UInt8} (h : Blanks w) : Derives .value (0x5B :: w ++ [0x5D])
  | array {w : List UInt8} (h : Derives .elements w) : Derives .value (0x5B :: w ++ [0x5D])
  | emptyObject {w : List UInt8} (h : Blanks w) : Derives .value (0x7B :: w ++ [0x7D])
  | object {w : List UInt8} (h : Derives .members w) : Derives .value (0x7B :: w ++ [0x7D])
  | padded {before w after : List UInt8} (hbefore : Blanks before) (h : Derives .value w)
      (hafter : Blanks after) : Derives .element (before ++ w ++ after)
  | lastElement {w : List UInt8} (h : Derives .element w) : Derives .elements w
  | nextElement {w rest : List UInt8} (h : Derives .element w) (hrest : Derives .elements rest) :
      Derives .elements (w ++ 0x2C :: rest)
  | keyed {before key after w : List UInt8} (hbefore : Blanks before) (hkey : Quoted key)
      (hafter : Blanks after) (h : Derives .element w) :
      Derives .member (before ++ key ++ after ++ 0x3A :: w)
  | lastMember {w : List UInt8} (h : Derives .member w) : Derives .members w
  | nextMember {w rest : List UInt8} (h : Derives .member w) (hrest : Derives .members rest) :
      Derives .members (w ++ 0x2C :: rest)

def Text (w : List UInt8) : Prop := Derives .element w

end Texts

section NoZero

variable {w : List UInt8} {part : Part}

theorem Blanks.zero_not_mem (h : Blanks w) : 0 ∉ w := by
  intro hw
  have := h 0 hw
  simp at this

theorem Digit.ne_zero {b : UInt8} (h : Digit b) : b ≠ 0 := by
  rintro rfl
  exact absurd h.1 (by decide)

theorem HexDigit.ne_zero {b : UInt8} (h : HexDigit b) : b ≠ 0 := by
  rintro rfl
  rcases h with h | h | h
  · exact h.ne_zero rfl
  · exact absurd h.1 (by decide)
  · exact absurd h.1 (by decide)

theorem Digits.zero_not_mem (h : Digits w) : 0 ∉ w := fun hw => (h.2 0 hw).ne_zero rfl

theorem Integer.zero_not_mem (h : Integer w) : 0 ∉ w := by
  cases h with
  | zero => simp
  | positive h hfirst => exact h.zero_not_mem

theorem Fraction.zero_not_mem (h : Fraction w) : 0 ∉ w := by
  cases h with
  | absent => simp
  | point h => simp [h.zero_not_mem]

theorem Exponent.zero_not_mem (h : Exponent w) : 0 ∉ w := by
  cases h with
  | absent => simp
  | power he hsign h =>
    rcases he with rfl | rfl <;> rcases hsign with rfl | rfl | rfl <;> simp [h.zero_not_mem]

theorem Number.zero_not_mem (h : Number w) : 0 ∉ w := by
  cases h with
  | decimal hsign hint hfrac hexp =>
    rcases hsign with rfl | rfl <;> simp [hint.zero_not_mem, hfrac.zero_not_mem, hexp.zero_not_mem]

theorem Character.zero_not_mem (h : Character w) : 0 ∉ w := by
  cases h with
  | @plain b h =>
    intro hw
    obtain rfl := List.mem_singleton.mp hw
    exact absurd h (by decide)
  | escape h => grind
  | unicode ha hb hc hd =>
    simp [ha.ne_zero.symm, hb.ne_zero.symm, hc.ne_zero.symm, hd.ne_zero.symm]

theorem Quoted.zero_not_mem (h : Quoted w) : 0 ∉ w := by
  cases h with
  | @chars parts h =>
    have hparts : ∀ p ∈ parts, 0 ∉ p := fun p hp => (h p hp).zero_not_mem
    simpa [List.mem_flatten] using hparts

theorem Derives.zero_not_mem (h : Derives part w) : 0 ∉ w := by
  induction h with
  | literal h =>
    intro hw
    simp only [literals, List.mem_cons, List.not_mem_nil, or_false] at h
    rcases h with rfl | rfl | rfl <;> exact absurd hw (by decide)
  | number h => exact h.zero_not_mem
  | quoted h => exact h.zero_not_mem
  | emptyArray h => simp [h.zero_not_mem]
  | array _ ih => simp [ih]
  | emptyObject h => simp [h.zero_not_mem]
  | object _ ih => simp [ih]
  | padded hbefore _ hafter ih => simp [hbefore.zero_not_mem, ih, hafter.zero_not_mem]
  | lastElement _ ih => exact ih
  | nextElement _ _ ih ihrest => simp [ih, ihrest]
  | keyed hbefore hkey hafter _ ih =>
    simp [hbefore.zero_not_mem, hkey.zero_not_mem, hafter.zero_not_mem, ih]
  | lastMember _ ih => exact ih
  | nextMember _ _ ih ihrest => simp [ih, ihrest]

theorem not_text_of_zero (h : 0 ∈ w) : ¬ Text w := fun ht => Derives.zero_not_mem ht h

end NoZero

end Library.Json
