import AdapterOS.Library.Json
import AdapterOS.Receipt.Digest

/-! The blobs of a stored trace, read back by decoders that try JSON before the binary layout. -/
namespace AdapterOS.Receipt

open Library

section Decoders

def fromUtf8 (bytes : List UInt8) : Option String := String.fromUTF8? ⟨bytes.toArray⟩

/-- One round for each announced id. The bytes end the loop when they run out, and a text that is
not UTF-8 is left out. -/
def decodeIds : Nat → List UInt8 → List String
  | 0, _ => []
  | n + 1, bytes =>
    if bytes.length < 4 then []
    else
      let len := ofLeBytes (bytes.take 4)
      let rest := bytes.drop 4
      if rest.length < len then []
      else
        match fromUtf8 (rest.take len) with
        | some s => s :: decodeIds n (rest.drop len)
        | none => decodeIds n (rest.drop len)

def decodeAdapterIds (bytes : List UInt8) : List String :=
  if bytes.length < 4 then [] else decodeIds (ofLeBytes (bytes.take 4)) (bytes.drop 4)

def decodeGates : Nat → List UInt8 → List Int16
  | 0, _ => []
  | n + 1, bytes =>
    if bytes.length < 2 then []
    else (UInt16.ofNat (ofLeBytes (bytes.take 2))).toInt16 :: decodeGates n (bytes.drop 2)

def decodeGatesQ15 (bytes : List UInt8) : List Int16 :=
  if bytes.length < 4 then [] else decodeGates (ofLeBytes (bytes.take 4)) (bytes.drop 4)

/-- The JSON library at the three types that the decoders ask for. -/
structure JsonLib where
  strings : List UInt8 → Option (List String)
  shorts : List UInt8 → Option (List Int16)
  longs : List UInt8 → Option (List Int64)

/-- Whatever the library accepts is a JSON text. -/
structure JsonLib.Strict (json : JsonLib) : Prop where
  strings : ∀ bytes ids, json.strings bytes = some ids → Json.Text bytes
  shorts : ∀ bytes gates, json.shorts bytes = some gates → Json.Text bytes
  longs : ∀ bytes gates, json.longs bytes = some gates → Json.Text bytes

variable (json : JsonLib)

def decodeAdapterIdsFlexible (bytes : List UInt8) : List String :=
  if bytes.isEmpty then []
  else
    match json.strings bytes with
    | some parsed => parsed
    | none => decodeAdapterIds bytes

def clampGate (v : Int64) : Int16 :=
  (min (max v Int16.minValue.toInt64) Int16.maxValue.toInt64).toInt16

def decodeGatesQ15Flexible (bytes : List UInt8) : List Int16 :=
  if bytes.isEmpty then []
  else
    match json.shorts bytes with
    | some parsed => parsed
    | none =>
      match json.longs bytes with
      | some parsed => parsed.map clampGate
      | none => decodeGatesQ15 bytes

end Decoders

section RoundTrip

variable {ids : List String} {gates : List Int16} {json : JsonLib} {bytes : List UInt8}

@[simp] theorem fromUtf8_utf8 (s : String) : fromUtf8 (utf8 s) = some s := by
  have hbytes : (⟨(utf8 s).toArray⟩ : ByteArray) = s.toUTF8 := rfl
  simp only [fromUtf8, hbytes, String.fromUTF8?]
  exact dif_pos s.isValidUTF8

theorem decodeIds_flatMap (h : ∀ id ∈ ids, (utf8 id).length < 2 ^ 32) :
    decodeIds ids.length (ids.flatMap fun id => lengthPrefixed (utf8 id)) = ids := by
  induction ids with
  | nil => rfl
  | cons id ids ih =>
    have hrest := ih fun other hother => h other (List.mem_cons_of_mem _ hother)
    have hlen : (utf8 id).length < 256 ^ 4 := h id List.mem_cons_self
    simp only [List.flatMap_cons, lengthPrefixed, List.append_assoc, List.length_cons, decodeIds,
      ofLeBytes_take hlen, List.drop_left' (length_leBytes 4 _), List.take_left' rfl,
      List.drop_left' rfl, fromUtf8_utf8]
    rw [if_neg (by simp), if_neg (by simp)]
    exact congrArg (id :: ·) hrest

theorem decodeAdapterIds_encode (hids : ids.length < 2 ^ 32)
    (h : ∀ id ∈ ids, (utf8 id).length < 2 ^ 32) :
    decodeAdapterIds (encodeAdapterIds ids) = ids := by
  rw [decodeAdapterIds, encodeAdapterIds, if_neg (by simp), ofLeBytes_take hids,
    List.drop_left' (length_leBytes 4 _), decodeIds_flatMap h]

@[simp] theorem toInt16_le16 (gate : Int16) (rest : List UInt8) :
    (UInt16.ofNat (ofLeBytes ((le16 gate ++ rest).take 2))).toInt16 = gate := by
  rw [le16, ofLeBytes_take gate.toUInt16.toNat_lt, UInt16.ofNat_toNat]
  rfl

theorem decodeGates_flatMap (gates : List Int16) :
    decodeGates gates.length (gates.flatMap le16) = gates := by
  induction gates with
  | nil => rfl
  | cons gate gates ih => grind [decodeGates, toInt16_le16, length_le16]

theorem decodeGatesQ15_encode (h : gates.length < 2 ^ 32) :
    decodeGatesQ15 (encodeGatesQ15 gates) = gates := by
  rw [decodeGatesQ15, encodeGatesQ15, if_neg (by simp), ofLeBytes_take h,
    List.drop_left' (length_leBytes 4 _), decodeGates_flatMap]

theorem decodeAdapterIdsFlexible_eq (hjson : json.Strict) (hne : bytes ≠ [])
    (h : ¬ Json.Text bytes) : decodeAdapterIdsFlexible json bytes = decodeAdapterIds bytes := by
  have hempty : bytes.isEmpty = false := by simpa using hne
  cases hparse : json.strings bytes with
  | none => simp [decodeAdapterIdsFlexible, hempty, hparse]
  | some parsed => exact absurd (hjson.strings bytes parsed hparse) h

theorem decodeGatesQ15Flexible_eq (hjson : json.Strict) (hne : bytes ≠ []) (h : ¬ Json.Text bytes) :
    decodeGatesQ15Flexible json bytes = decodeGatesQ15 bytes := by
  obtain ⟨⟩ := hjson
  grind [decodeGatesQ15Flexible]

theorem zero_mem_encodeGatesQ15 (h : gates.length < 2 ^ 24) : 0 ∈ encodeGatesQ15 gates :=
  List.mem_append_left _ (zero_mem_leBytes h)

theorem zero_mem_encodeAdapterIds
    (h : ids.length < 2 ^ 24 ∨ ∃ id ∈ ids, (utf8 id).length < 2 ^ 24) :
    0 ∈ encodeAdapterIds ids := by
  rcases h with h | ⟨id, hid, h⟩
  · exact List.mem_append_left _ (zero_mem_leBytes h)
  · refine List.mem_append_right _ (List.mem_flatMap.mpr ⟨id, hid, ?_⟩)
    exact List.mem_append_left _ (zero_mem_leBytes h)

/-- A blob of either encoder is no JSON text, and the flexible decoders return what it encodes. A
count of ids keeps its value below `2 ^ 32`. -/
theorem decodeFlexible_encode (hjson : json.Strict) (hcount : ids.length < 2 ^ 32)
    (hids : ∀ id ∈ ids, (utf8 id).length < 2 ^ 32)
    (hzero : ids.length < 2 ^ 24 ∨ ∃ id ∈ ids, (utf8 id).length < 2 ^ 24)
    (hgates : gates.length < 2 ^ 24) :
    (¬ Json.Text (encodeAdapterIds ids) ∧
        decodeAdapterIdsFlexible json (encodeAdapterIds ids) = ids) ∧
      ¬ Json.Text (encodeGatesQ15 gates) ∧
        decodeGatesQ15Flexible json (encodeGatesQ15 gates) = gates := by
  grind [zero_mem_encodeAdapterIds, zero_mem_encodeGatesQ15, Json.not_text_of_zero,
    decodeAdapterIdsFlexible_eq, decodeAdapterIds_encode, decodeGatesQ15Flexible_eq,
      decodeGatesQ15_encode]

def emptyArrayLib : JsonLib where
  strings bytes := if bytes = [0x5B, 0x5D] then some [] else none
  shorts bytes := if bytes = [0x5B, 0x5D] then some [] else none
  longs bytes := if bytes = [0x5B, 0x5D] then some [] else none

theorem text_emptyArray : Json.Text [0x5B, 0x5D] := by
  have hblanks : Json.Blanks [] := by simp [Json.Blanks]
  exact .padded hblanks (.emptyArray hblanks) hblanks

theorem strict_emptyArrayLib : emptyArrayLib.Strict := by
  have haccept : ∀ {α : Type} (bytes : List UInt8) (parsed : List α),
      (if bytes = [0x5B, 0x5D] then some [] else none) = some parsed → Json.Text bytes := by
    grind [text_emptyArray]
  exact ⟨haccept, haccept, haccept⟩

theorem decodeFlexible_encode_pair : (¬ Json.Text (encodeAdapterIds ["[1]", ""]) ∧
        decodeAdapterIdsFlexible emptyArrayLib (encodeAdapterIds ["[1]", ""]) = ["[1]", ""]) ∧
      ¬ Json.Text (encodeGatesQ15 [-1, 23387]) ∧
        decodeGatesQ15Flexible emptyArrayLib (encodeGatesQ15 [-1, 23387]) = [-1, 23387] :=
  decodeFlexible_encode strict_emptyArrayLib (by decide) (by decide) (.inl (by decide)) (by decide)

end RoundTrip

end AdapterOS.Receipt
