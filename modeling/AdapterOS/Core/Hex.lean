import AdapterOS.Core.Basic

/-! Hexadecimal texts: what decodes, and digests read back from their own text. -/
namespace AdapterOS

def hexDigit (c : Char) : Option Nat :=
  if '0' ≤ c ∧ c ≤ '9' then some (c.toNat - 48)
  else if 'a' ≤ c ∧ c ≤ 'f' then some (c.toNat - 87)
  else if 'A' ≤ c ∧ c ≤ 'F' then some (c.toNat - 55)
  else none

def encodeHex (bytes : List UInt8) : String :=
  String.ofList
    (bytes.flatMap fun b => [Nat.digitChar (b.toNat / 16), Nat.digitChar (b.toNat % 16)])

def decodeHexPairs : List Char → Option (List UInt8)
  | [] => some []
  | [_] => none
  | hi :: lo :: rest => do
    let h ← hexDigit hi
    let l ← hexDigit lo
    let bytes ← decodeHexPairs rest
    return .ofNat (16 * h + l) :: bytes

def decodeHex (text : String) : Option (List UInt8) := decodeHexPairs text.toList

namespace B3Hash

def ofBytes (bytes : List UInt8) : B3Hash :=
  .ofNat 256 (bytes.foldl (fun n b => 256 * n + b.toNat) 0)

def fromHex (text : String) : Option B3Hash :=
  (decodeHex text).bind fun bytes => if bytes.length = 32 then some (ofBytes bytes) else none

end B3Hash

section RoundTrip

theorem hexDigit_digitChar : ∀ n, n < 16 → hexDigit (Nat.digitChar n) = some n := by decide

def nibbles (x : Nat) : Nat → List Char
  | 0 => []
  | places + 1 => Nat.digitChar (x / 16 ^ places % 16) :: nibbles x places

def bigEndian (x : Nat) : Nat → List UInt8
  | 0 => []
  | places + 1 => .ofNat (x / 256 ^ places % 256) :: bigEndian x places

variable (x places : Nat)

theorem map_range_eq_nibbles :
    ((List.range places).map fun i => Nat.digitChar (x / 16 ^ (places - 1 - i) % 16)) =
      nibbles x places := by
  induction places with
  | zero => rfl
  | succ places ih =>
    rw [List.range_succ_eq_map, List.map_cons, List.map_map, nibbles, ← ih]
    congr 1
    refine List.map_congr_left ?_
    intro i _
    have he : places + 1 - 1 - (i + 1) = places - 1 - i := by omega
    simp only [Function.comp_apply, Nat.succ_eq_add_one, he]

theorem decodeHexPairs_nibbles :
    decodeHexPairs (nibbles x (2 * places)) = some (bigEndian x places) := by
  induction places with
  | zero => rfl
  | succ places ih =>
    have htwo : 2 * (places + 1) = 2 * places + 1 + 1 := by omega
    rw [htwo, nibbles, nibbles]
    have hhi : x / 16 ^ (2 * places + 1) % 16 < 16 := Nat.mod_lt _ (by decide)
    have hlo : x / 16 ^ (2 * places) % 16 < 16 := Nat.mod_lt _ (by decide)
    simp only [decodeHexPairs, hexDigit_digitChar _ hhi, hexDigit_digitChar _ hlo, ih,
      Option.bind_eq_bind, Option.bind_some, bigEndian]
    have hpow : (16 : Nat) ^ (2 * places) = 256 ^ places := by
      rw [Nat.pow_mul]
    have hbyte : 16 * (x / 16 ^ (2 * places + 1) % 16) + x / 16 ^ (2 * places) % 16 =
        x / 256 ^ places % 256 := by
      rw [Nat.pow_succ, ← Nat.div_div_eq_div_mul, hpow]
      omega
    rw [hbyte]
    rfl

theorem foldl_bigEndian (x places n : Nat) :
    (bigEndian x places).foldl (fun n b => 256 * n + b.toNat) n =
      256 ^ places * n + x % 256 ^ places := by
  induction places generalizing n with
  | zero => simp [bigEndian, Nat.mod_one]
  | succ places ih =>
    have hbyte : (UInt8.ofNat (x / 256 ^ places % 256)).toNat = x / 256 ^ places % 256 := by
      simp
    rw [bigEndian, List.foldl_cons, ih, hbyte, Nat.pow_succ, Nat.mod_mul, Nat.mul_add]
    ring

theorem leBytes_succ :
    Library.leBytes (places + 1) x = Library.leBytes places x ++ [.ofNat (x / 256 ^ places)] := by
  induction places generalizing x with
  | zero => simp [Library.leBytes]
  | succ places ih =>
    rw [Library.leBytes, ih, Library.leBytes, Nat.div_div_eq_div_mul, ← Nat.pow_succ',
      List.cons_append]

theorem bigEndian_eq : bigEndian x places = (Library.leBytes places x).reverse := by
  induction places with
  | zero => rfl
  | succ places ih =>
    have hbyte : UInt8.ofNat (x / 256 ^ places % 256) = .ofNat (x / 256 ^ places) := by
      apply UInt8.toNat_inj.mp
      simp
    rw [bigEndian, leBytes_succ, List.reverse_append, ih, hbyte]
    rfl

theorem decodeHex_toHex (h : B3Hash) : decodeHex (B3Hash.toHex h) = some (B3Hash.asBytes h) := by
  have htext : (B3Hash.toHex h).toList = nibbles h.toNat (2 * 32) := by
    rw [B3Hash.toHex, String.toList_ofList]
    exact map_range_eq_nibbles h.toNat 64
  rw [decodeHex, htext, decodeHexPairs_nibbles, bigEndian_eq]
  rfl

@[simp] theorem B3Hash.ofBytes_asBytes (h : B3Hash) : B3Hash.ofBytes (B3Hash.asBytes h) = h := by
  have hbytes : B3Hash.asBytes h = bigEndian h.toNat 32 := (bigEndian_eq h.toNat 32).symm
  have hlt : h.toNat < 256 ^ 32 := h.isLt
  rw [ofBytes, hbytes, foldl_bigEndian, Nat.mul_zero, Nat.zero_add, Nat.mod_eq_of_lt hlt,
    BitVec.ofNat_toNat, BitVec.setWidth_eq]

@[simp] theorem B3Hash.fromHex_toHex (h : B3Hash) : B3Hash.fromHex (B3Hash.toHex h) = some h := by
  rw [fromHex, decodeHex_toHex, Option.bind_some, if_pos (B3Hash.length_asBytes h), ofBytes_asBytes]

theorem toHex_inj {g h : B3Hash} : B3Hash.toHex g = B3Hash.toHex h ↔ g = h := by
  refine ⟨?_, fun he => he ▸ rfl⟩
  intro he
  have hread := congrArg B3Hash.fromHex he
  simpa using hread

end RoundTrip

end AdapterOS
