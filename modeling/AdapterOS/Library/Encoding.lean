import Mathlib.Data.Nat.Digits.Defs

/-! Byte strings that can be read back: fixed-width integers, length-prefixed strings and their
concatenations, and hash functions without a collision among given messages. -/
namespace Library

section Reading

variable {β : Type*} {u v u' v' s t : List β} {P Q : Prop}

/-- Two words that a reader can split off whatever follows them, and that are equal exactly if
`P` holds. -/
structure Reads (u v : List β) (P : Prop) : Prop where
  split : ∀ s t, u ++ s = v ++ t → u = v ∧ s = t
  eq_iff : u = v ↔ P

theorem reads_of_length (hlen : u.length = v.length) (h : u = v ↔ P) : Reads u v P :=
  ⟨fun _ _ he => List.append_inj he hlen, h⟩

theorem Reads.congr (h : Reads u v P) (hPQ : P ↔ Q) : Reads u v Q :=
  ⟨h.split, h.eq_iff.trans hPQ⟩

theorem Reads.append (h : Reads u v P) (h' : Reads u' v' Q) :
    Reads (u ++ u') (v ++ v') (P ∧ Q) := by
  constructor
  · obtain ⟨⟩ := h
    obtain ⟨⟩ := h'
    grind
  · obtain ⟨⟩ := h
    obtain ⟨⟩ := h'
    grind

end Reading

section Words

variable {width n m : Nat} {u v : List UInt8}

def leBytes : Nat → Nat → List UInt8
  | 0, _ => []
  | width + 1, n => .ofNat n :: leBytes width (n / 256)

@[simp] theorem length_leBytes (width n : Nat) : (leBytes width n).length = width := by
  induction width generalizing n with
  | zero => rfl
  | succ width ih => simp [leBytes, ih]

theorem leBytes_inj (hn : n < 256 ^ width) (hm : m < 256 ^ width) :
    leBytes width n = leBytes width m ↔ n = m := by
  refine ⟨?_, fun h => h ▸ rfl⟩
  intro h
  induction width generalizing n m with
  | zero =>
    simp only [Nat.pow_zero, Nat.lt_one_iff] at hn hm
    rw [hn, hm]
  | succ width ih =>
    simp only [leBytes, List.cons.injEq] at h
    have hlow : n % 256 = m % 256 := by
      have := congrArg UInt8.toNat h.1
      simpa using this
    grind

def ofLeBytes : List UInt8 → Nat
  | [] => 0
  | b :: bytes => b.toNat + 256 * ofLeBytes bytes

theorem ofLeBytes_leBytes (hn : n < 256 ^ width) : ofLeBytes (leBytes width n) = n := by
  induction width generalizing n with
  | zero =>
    simp only [Nat.pow_zero, Nat.lt_one_iff] at hn
    rw [hn]
    rfl
  | succ width ih =>
    rw [Nat.pow_succ] at hn
    have hhigh := @ih (n / 256) (Nat.div_lt_of_lt_mul (by omega))
    have hlow : (UInt8.ofNat n).toNat = n % 256 := by simp
    rw [leBytes, ofLeBytes, hhigh, hlow]
    omega

theorem ofLeBytes_take (hn : n < 256 ^ width) (rest : List UInt8) :
    ofLeBytes ((leBytes width n ++ rest).take width) = n := by
  rw [List.take_left' (length_leBytes width n), ofLeBytes_leBytes hn]

theorem zero_mem_leBytes (hn : n < 256 ^ width) : 0 ∈ leBytes (width + 1) n := by
  induction width generalizing n with
  | zero =>
    obtain rfl : n = 0 := by simpa using hn
    simp [leBytes]
  | succ width ih =>
    rw [Nat.pow_succ] at hn
    exact List.mem_cons_of_mem _ (ih (Nat.div_lt_of_lt_mul (by omega)))

def le32 (x : UInt32) : List UInt8 := leBytes 4 x.toNat

def le64 (x : UInt64) : List UInt8 := leBytes 8 x.toNat

def le16 (x : Int16) : List UInt8 := leBytes 2 x.toUInt16.toNat

def flagByte (b : Bool) : List UInt8 := [if b then 1 else 0]

@[simp] theorem length_le32 (x : UInt32) : (le32 x).length = 4 := length_leBytes 4 _

@[simp] theorem length_le64 (x : UInt64) : (le64 x).length = 8 := length_leBytes 8 _

@[simp] theorem length_le16 (x : Int16) : (le16 x).length = 2 := length_leBytes 2 _

@[simp] theorem length_flagByte (b : Bool) : (flagByte b).length = 1 := rfl

@[simp] theorem le32_inj {x y : UInt32} : le32 x = le32 y ↔ x = y := by
  rw [le32, le32, leBytes_inj x.toNat_lt y.toNat_lt, UInt32.toNat_inj]

@[simp] theorem le64_inj {x y : UInt64} : le64 x = le64 y ↔ x = y := by
  rw [le64, le64, leBytes_inj x.toNat_lt y.toNat_lt, UInt64.toNat_inj]

@[simp] theorem le16_inj {x y : Int16} : le16 x = le16 y ↔ x = y := by
  rw [le16, le16, leBytes_inj x.toUInt16.toNat_lt y.toUInt16.toNat_lt, UInt16.toNat_inj]
  cases x
  cases y
  simp

@[simp] theorem flagByte_inj {a b : Bool} : flagByte a = flagByte b ↔ a = b := by
  cases a <;> cases b <;> decide

def lengthPrefixed (bytes : List UInt8) : List UInt8 := leBytes 4 bytes.length ++ bytes

theorem length_lengthPrefixed (bytes : List UInt8) :
    (lengthPrefixed bytes).length = 4 + bytes.length := by
  rw [lengthPrefixed, List.length_append, length_leBytes]

@[simp] theorem lengthPrefixed_inj : lengthPrefixed u = lengthPrefixed v ↔ u = v := by
  refine ⟨?_, fun h => h ▸ rfl⟩
  intro h
  exact (List.append_inj h (by simp)).2

theorem reads_lengthPrefixed (hu : u.length < 2 ^ 32) (hv : v.length < 2 ^ 32) :
    Reads (lengthPrefixed u) (lengthPrefixed v) (u = v) := by
  refine ⟨?_, lengthPrefixed_inj⟩
  intro s t he
  simp only [lengthPrefixed, List.append_assoc] at he
  obtain ⟨hlen, hrest⟩ := List.append_inj he (by simp)
  grind [leBytes_inj, List.append_inj]

section BigEndian

def beBytes (width n : Nat) : List UInt8 := (leBytes width n).reverse

@[simp] theorem length_beBytes (width n : Nat) : (beBytes width n).length = width := by
  simp [beBytes]

theorem beBytes_inj (hn : n < 256 ^ width) (hm : m < 256 ^ width) :
    beBytes width n = beBytes width m ↔ n = m := by
  rw [beBytes, beBytes, List.reverse_inj, leBytes_inj hn hm]

def be32 (x : UInt32) : List UInt8 := beBytes 4 x.toNat

def be64 (x : UInt64) : List UInt8 := beBytes 8 x.toNat

def be16 (x : Int16) : List UInt8 := beBytes 2 x.toUInt16.toNat

theorem reads_be32 (x y : UInt32) : Reads (be32 x) (be32 y) (x = y) := by
  refine reads_of_length (by simp [be32]) ?_
  rw [be32, be32, beBytes_inj x.toNat_lt y.toNat_lt, UInt32.toNat_inj]

theorem reads_be64 (x y : UInt64) : Reads (be64 x) (be64 y) (x = y) := by
  refine reads_of_length (by simp [be64]) ?_
  rw [be64, be64, beBytes_inj x.toNat_lt y.toNat_lt, UInt64.toNat_inj]

theorem reads_be16 (x y : Int16) : Reads (be16 x) (be16 y) (x = y) := by
  refine reads_of_length (by simp [be16]) ?_
  rw [be16, be16, beBytes_inj x.toUInt16.toNat_lt y.toUInt16.toNat_lt, UInt16.toNat_inj]
  cases x
  cases y
  simp

def bePrefixed (bytes : List UInt8) : List UInt8 :=
  beBytes 4 (min bytes.length (2 ^ 32 - 1)) ++ bytes

theorem reads_bePrefixed (hu : u.length < 2 ^ 32) (hv : v.length < 2 ^ 32) :
    Reads (bePrefixed u) (bePrefixed v) (u = v) := by
  constructor
  · intro s t he
    simp only [bePrefixed, List.append_assoc] at he
    obtain ⟨hlen, hrest⟩ := List.append_inj he (by simp)
    grind [beBytes_inj, List.append_inj]
  · refine ⟨?_, fun h => h ▸ rfl⟩
    intro h
    exact (List.append_inj h (by simp)).2

def marked : Option (List UInt8) → List UInt8
  | none => [0]
  | some word => 1 :: word

theorem reads_marked {x y : Option (List UInt8)}
    (hlen : ∀ u v, x = some u → y = some v → u.length = v.length) :
    Reads (marked x) (marked y) (x = y) := by
  cases x with
  | none =>
    cases y with
    | none => exact reads_of_length rfl (by simp)
    | some v => exact ⟨by simp [marked], by simp [marked]⟩
  | some u =>
    cases y with
    | none => exact ⟨by simp [marked], by simp [marked]⟩
    | some v => exact reads_of_length (by simp [marked, hlen u v rfl rfl]) (by simp [marked])

end BigEndian

theorem reads_le32 (x y : UInt32) : Reads (le32 x) (le32 y) (x = y) :=
  reads_of_length (by simp) le32_inj

theorem reads_le64 (x y : UInt64) : Reads (le64 x) (le64 y) (x = y) :=
  reads_of_length (by simp) le64_inj

theorem reads_le16 (x y : Int16) : Reads (le16 x) (le16 y) (x = y) :=
  reads_of_length (by simp) le16_inj

theorem reads_flagByte (a b : Bool) : Reads (flagByte a) (flagByte b) (a = b) :=
  reads_of_length (by simp) flagByte_inj

end Words

section Separators

variable {α : Type*} [DecidableEq α] {sep : α} {a b p q : List α} {fields others : List (List α)}

def terminated (sep : α) (fields : List (List α)) : List α := fields.flatMap fun f => f ++ [sep]

omit [DecidableEq α] in
theorem append_sep_inj (hp : sep ∉ p) (hq : sep ∉ q) (h : a ++ sep :: p = b ++ sep :: q) :
    a = b ∧ p = q := by
  rcases List.append_eq_append_iff.mp h with ⟨c, rfl, hc⟩ | ⟨c, rfl, hc⟩
  · cases c with
    | nil => simpa using hc
    | cons x c => grind
  · cases c with
    | nil => simpa [eq_comm] using hc
    | cons x c => grind

theorem append_sep_inj_of_count (hc : a.count sep = b.count sep)
    (h : a ++ sep :: p = b ++ sep :: q) : a = b ∧ p = q := by
  rcases List.append_eq_append_iff.mp h with ⟨c, rfl, hrest⟩ | ⟨c, rfl, hrest⟩
  · cases c with
    | nil => simpa using hrest
    | cons x c =>
      rw [List.cons_append, List.cons.injEq] at hrest
      obtain ⟨rfl, -⟩ := hrest
      simp at hc
  · cases c with
    | nil => simpa [eq_comm] using hrest
    | cons x c =>
      rw [List.cons_append, List.cons.injEq] at hrest
      obtain ⟨rfl, -⟩ := hrest
      simp at hc

theorem sep_append_inj (ha : sep ∉ a) (hb : sep ∉ b) (h : a ++ sep :: p = b ++ sep :: q) :
    a = b ∧ p = q := by
  refine append_sep_inj_of_count ?_ h
  rw [List.count_eq_zero_of_not_mem ha, List.count_eq_zero_of_not_mem hb]

theorem sep_isPrefix_split (ha : sep ∉ a) (hb : sep ∉ b) (h : a ++ sep :: p <+: b ++ sep :: q) :
    a = b ∧ p <+: q := by
  obtain ⟨r, hr⟩ := h
  rw [List.append_assoc, List.cons_append] at hr
  obtain ⟨he, rfl⟩ := sep_append_inj ha hb hr
  exact ⟨he, List.prefix_append p r⟩

theorem sep_isPrefix_last (hb : sep ∉ b) (hq : sep ∉ q) (h : a ++ [sep] <+: b ++ sep :: q) :
    a = b := by
  obtain ⟨r, hr⟩ := h
  rw [List.append_assoc, List.cons_append, List.nil_append] at hr
  have hcount := congrArg (List.count sep) hr
  grind [append_sep_inj_of_count]

theorem splitOn_sep (ha : sep ∉ a) : (a ++ sep :: p).splitOn sep = a :: p.splitOn sep := by
  grind [List.splitOn_eq_splitOnP, List.splitOnP_eq_singleton, List.splitOnP_append_cons]

theorem splitOn_append_sep (a p : List α) :
    (a ++ sep :: p).splitOn sep = a.splitOn sep ++ p.splitOn sep := by
  simp only [List.splitOn_eq_splitOnP]
  exact List.splitOnP_append_cons a p (beq_self_eq_true sep)

omit [DecidableEq α] in
theorem terminated_append_inj (hf : fields ≠ []) (ho : others ≠ []) (hp : sep ∉ p) (hq : sep ∉ q)
    (h : terminated sep fields ++ p = terminated sep others ++ q) :
    terminated sep fields = terminated sep others ∧ p = q := by
  have hlast : ∀ l : List (List α), l ≠ [] → ∃ c, terminated sep l = c ++ [sep] := by
    intro l hl
    obtain rfl | ⟨init, x, rfl⟩ := List.eq_nil_or_concat l
    · exact absurd rfl hl
    · exact ⟨terminated sep init ++ x, by simp [terminated]⟩
  obtain ⟨c, hc⟩ := hlast fields hf
  obtain ⟨d, hd⟩ := hlast others ho
  grind [append_sep_inj]

theorem terminated_inj_of_count (hc : fields.map (List.count sep) = others.map (List.count sep))
    (h : terminated sep fields = terminated sep others) : fields = others := by
  induction fields generalizing others with
  | nil => exact (List.map_eq_nil_iff.mp hc.symm).symm
  | cons f fields ih =>
    cases others with
    | nil => simp at hc
    | cons g others => grind [terminated, append_sep_inj_of_count]

/-- Fields without separators and a tail that is longer by their number: another number of fields
would leave a tail of the wrong length. -/
theorem terminated_append_inj_of_length (hf : ∀ f ∈ fields, sep ∉ f) (ho : ∀ f ∈ others, sep ∉ f)
    (hlen : p.length + others.length = q.length + fields.length)
    (h : terminated sep fields ++ p = terminated sep others ++ q) : fields = others ∧ p = q := by
  have hsize := congrArg List.length h
  induction fields generalizing others with
  | nil =>
    cases others with
    | nil => exact ⟨rfl, h⟩
    | cons g others => grind [terminated]
  | cons f fields ih =>
    cases others with
    | nil => grind [terminated]
    | cons g others =>
      rw [List.forall_mem_cons] at hf ho
      simp only [terminated, List.flatMap_cons, List.append_assoc, List.cons_append,
        List.nil_append] at h
      obtain ⟨rfl, hrest⟩ := sep_append_inj hf.1 ho.1 h
      obtain ⟨rfl, rfl⟩ := ih hf.2 ho.2 (by simp only [List.length_cons] at hlen; omega) hrest (congrArg _ hrest)
      exact ⟨rfl, rfl⟩

end Separators

section Hashing

variable {μ δ : Type*} {hash : μ → δ} {messages others : List μ} {a b : μ}

/-- No two of the messages share their hash. An injective hash has this for all messages, and a
real one can have it for those that occur. -/
def CollisionFree (hash : μ → δ) (messages : List μ) : Prop :=
  Set.InjOn hash {m | m ∈ messages}

theorem CollisionFree.eq_iff (h : CollisionFree hash messages) (ha : a ∈ messages)
    (hb : b ∈ messages) : hash a = hash b ↔ a = b :=
  ⟨fun he => h ha hb he, fun he => he ▸ rfl⟩

theorem CollisionFree.mono (h : CollisionFree hash messages) (hsub : others ⊆ messages) :
    CollisionFree hash others :=
  Set.InjOn.mono (fun _ ho => hsub ho) h

theorem CollisionFree.map_eq {first second : List μ} (h : CollisionFree hash messages)
    (hfirst : first ⊆ messages) (hsecond : second ⊆ messages)
    (he : first.map hash = second.map hash) : first = second := by
  induction first generalizing second with
  | nil => exact (List.map_eq_nil_iff.mp he.symm).symm
  | cons a first ih =>
    cases second with
    | nil => simp at he
    | cons b second =>
      simp only [List.map_cons, List.cons.injEq] at he
      simp only [List.cons_subset] at hfirst hsecond
      rw [h hfirst.1 hsecond.1 he.1, ih hfirst.2 hsecond.2 he.2]

instance CollisionFree.decidable [DecidableEq μ] [DecidableEq δ] (hash : μ → δ)
    (messages : List μ) : Decidable (CollisionFree hash messages) :=
  decidable_of_iff (∀ a ∈ messages, ∀ b ∈ messages, hash a = hash b → a = b)
    ⟨fun h _ ha _ hb he => h _ ha _ hb he, fun h _ ha _ hb he => h ha hb he⟩

end Hashing

end Library
