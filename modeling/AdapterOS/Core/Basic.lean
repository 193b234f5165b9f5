import AdapterOS.Library.Encoding
import Mathlib.Data.List.Sort
import Mathlib.Data.String.Basic

/-! Identifiers, digests and errors shared by the worker's components. -/
namespace AdapterOS

universe u v

abbrev AdapterId := String

/-- The 32 digest bytes, the first one most significant. -/
abbrev B3Hash := BitVec 256

def B3Hash.toHex (h : B3Hash) : String :=
  String.ofList ((List.range 64).map fun i => Nat.digitChar (h.toNat / 16 ^ (63 - i) % 16))

def B3Hash.toShortHex (h : B3Hash) : String :=
  String.ofList ((List.range 16).map fun i => Nat.digitChar (h.toNat / 16 ^ (63 - i) % 16))

def B3Hash.debug (h : B3Hash) : String := "B3Hash(" ++ h.toShortHex ++ ")"

def B3Hash.display (h : B3Hash) : String := "b3:" ++ h.toShortHex

def B3Hash.asBytes (h : B3Hash) : List UInt8 := (Library.leBytes 32 h.toNat).reverse

@[simp] theorem B3Hash.length_asBytes (h : B3Hash) : (B3Hash.asBytes h).length = 32 := by
  simp [asBytes]

@[simp] theorem B3Hash.asBytes_inj {h g : B3Hash} : B3Hash.asBytes h = B3Hash.asBytes g ↔ h = g := by
  have hlt : ∀ d : B3Hash, d.toNat < 256 ^ 32 := fun d => d.isLt
  rw [asBytes, asBytes, List.reverse_inj, Library.leBytes_inj (hlt h) (hlt g), BitVec.toNat_inj]

theorem B3Hash.reads_asBytes (h g : B3Hash) :
    Library.Reads (B3Hash.asBytes h) (B3Hash.asBytes g) (h = g) :=
  Library.reads_of_length (by simp) B3Hash.asBytes_inj

def utf8 (s : String) : List UInt8 := s.toUTF8.data.toList

@[simp] theorem utf8_inj {s t : String} : utf8 s = utf8 t ↔ s = t := by
  refine ⟨?_, fun h => h ▸ rfl⟩
  intro h
  exact String.toByteArray_inj.mp (ByteArray.ext (Array.toList_inj.mp h))

theorem zero_notMem_utf8EncodeChar {c : Char} (hc : c ≠ '\x00') :
    0 ∉ String.utf8EncodeChar c := by
  have hne : c.val.toNat ≠ 0 := fun h => hc (Char.ext (UInt32.toNat_inj.mp h))
  have hbyte : ∀ n : Nat, 0 < n % 256 → (0 : UInt8) ≠ UInt8.ofNat n := by
    intro n hn h
    have := congrArg UInt8.toNat h
    simp at this
    omega
  simp only [String.utf8EncodeChar]
  split_ifs <;> simp only [List.mem_cons, List.not_mem_nil, or_false, not_or] <;>
    and_intros <;> exact hbyte _ (by omega)

theorem zero_notMem_utf8 {s : String} (hs : '\x00' ∉ s.toList) : 0 ∉ utf8 s := by
  have hbytes : utf8 s = s.toList.flatMap String.utf8EncodeChar := by
    simp [utf8, ← String.utf8Encode_toList, List.utf8Encode]
  rw [hbytes, List.mem_flatMap]
  rintro ⟨c, hc, hzero⟩
  exact zero_notMem_utf8EncodeChar (by rintro rfl; exact hs hc) hzero

def digitHash (bytes : List UInt8) : B3Hash :=
  .ofNat 256 (bytes.foldl (fun n b => 3 * n + b.toNat) 1)

def leadingHash (bytes : List UInt8) : B3Hash := digitHash bytes <<< 192

/-- The error variants that the modelled functions construct. -/
inductive AosError where
  | worker (message : String)
  | validation (message : String)
  | memoryPressure (message : String)
  | quotaExceeded (resource : String) (failureCode : Option String)
  | resourceExhaustion (message : String)
  | isolationViolation (message : String)
  | policyViolation (message : String)
  | notFound (message : String)
  | kernel (message : String)
  | lifecycle (message : String)
  | config (message : String)
  | determinismViolation (message : String)
  | invalidHash (message : String)
  | crypto (message : String)
  | database (message : String)
  | internal (message : String)
  | invalidSealedData (reason : String)
  | io (message : String)
  | telemetry (message : String)
  | serialization (message : String)
  | cacheBudgetExceeded (neededMb freedMb : UInt64) (pinnedCount activeCount : Nat) (maxMb : UInt64)
      (modelKey : Option String)
  | cacheEntryPinned (key reason : String)
  | cacheEntryActive (key reason : String)
  | cacheEntryNotFound (key : String)
  deriving DecidableEq, Repr

/-- The text an error is shown with. -/
def AosError.display : AosError → String
  | .worker message => "Worker error: " ++ message
  | .validation message => "Validation error: " ++ message
  | .memoryPressure message => "Memory pressure: " ++ message
  | .quotaExceeded resource _ => "Quota exceeded for resource '" ++ resource ++ "'"
  | .resourceExhaustion message => "Resource exhaustion: " ++ message
  | .isolationViolation message => "Isolation violation: " ++ message
  | .policyViolation message => "Policy violation: " ++ message
  | .notFound message => "Not found: " ++ message
  | .kernel message => "Kernel error: " ++ message
  | .lifecycle message => "Lifecycle error: " ++ message
  | .config message => "Configuration error: " ++ message
  | .determinismViolation message => "Determinism violation: " ++ message
  | .invalidHash message => "Invalid hash: " ++ message
  | .crypto message => "Cryptographic error: " ++ message
  | .database message => "Database error: " ++ message
  | .internal message => "Internal error: " ++ message
  | .invalidSealedData reason => "Invalid sealed data: " ++ reason
  | .io message => "IO error: " ++ message
  | .telemetry message => "Telemetry error: " ++ message
  | .serialization message => "Serialization error: " ++ message
  | .cacheBudgetExceeded neededMb freedMb pinnedCount activeCount maxMb _ =>
    "Model cache budget exceeded: needed " ++ toString neededMb ++ " MB, freed " ++
      toString freedMb ++ " MB (pinned=" ++ toString pinnedCount ++ ", active=" ++
      toString activeCount ++ "), max " ++ toString maxMb ++ " MB"
  | .cacheEntryPinned key reason => "Cache entry pinned: " ++ key ++ " - " ++ reason
  | .cacheEntryActive key reason => "Cache entry active: " ++ key ++ " - " ++ reason
  | .cacheEntryNotFound key => "Cache entry not found: " ++ key

theorem bind_eq_ok {ε : Type u} {α β : Type v} {x : Except ε α} {f : α → Except ε β} {b : β} :
    x >>= f = .ok b ↔ ∃ a, x = .ok a ∧ f a = .ok b := by
  cases x with
  | error e => simp [bind, Except.bind]
  | ok a => simp [bind, Except.bind]

theorem exists_bind_ok {ε : Type u} {α β : Type v} {x : Except ε α} {f : α → Except ε β} {a : α}
    {P : β → Prop} (hx : x = .ok a) (hf : ∃ b, f a = .ok b ∧ P b) : ∃ b, x >>= f = .ok b ∧ P b := by
  obtain ⟨b, hb, hP⟩ := hf
  exact ⟨b, bind_eq_ok.mpr ⟨a, hx, hb⟩, hP⟩

def bytesPerMb : Nat := 1024 * 1024

section StackHash

def stackBuffer (adapters : List (AdapterId × B3Hash)) : String :=
  ((adapters.insertionSort (fun a b => a.1 ≤ b.1)).map
    fun a => a.1 ++ ":" ++ B3Hash.toHex a.2).foldl (· ++ ·) ""

def computeStackHash {D : Type*} (hash : ByteArray → D) (adapters : List (AdapterId × B3Hash)) :
    D :=
  hash (stackBuffer adapters).toUTF8

end StackHash

end AdapterOS
