import AdapterOS.HotSwap.Table
import Mathlib.Data.Finset.Basic

/-! The kernel backend as the hot-swap code sees it: a device that loads and unloads slots. -/
namespace AdapterOS.HotSwap

/-- The device slot of an adapter: the first two digest bytes of its id, little endian. -/
def adapterIdToU16 (hash : ByteArray → B3Hash) (id : AdapterId) : UInt16 :=
  let digest := (hash id.toUTF8).toNat
  .ofNat (digest / 2 ^ 248 + 256 * (digest / 2 ^ 240 % 256))

def testHash (bytes : ByteArray) : B3Hash :=
  .ofNat 256 (bytes.data.toList.foldl (fun sum byte => sum + byte.toNat) 0 * 2 ^ 248)

/-- The backend calls that the worker makes; a failing call may still change the device. -/
structure FusedKernels (K : Type*) where
  loadAdapter : K → UInt16 → ByteArray → Except AosError Unit × K
  attachAdapter : K → UInt16 → Except AosError Unit × K
  detachAdapter : K → UInt16 → Except AosError Unit × K
  switchAdapter : K → UInt16 → Except AosError Unit × K
  verifyAdapterBuffers : K → UInt16 → Except AosError Nat

/-- A backend with the digest that assigns its slots. -/
structure Backend (K : Type*) extends FusedKernels K where
  hash : ByteArray → B3Hash

def Backend.slot {K : Type*} (b : Backend K) (id : AdapterId) : UInt16 := adapterIdToU16 b.hash id

/-- The backend that keeps the set of resident slots: loading and attaching add a slot,
detaching removes it, and switching either does nothing or leaves only its own slot. -/
def residentKernels (exclusiveSwitch : Bool) : FusedKernels (Finset UInt16) where
  loadAdapter k slot _ := (.ok (), insert slot k)
  attachAdapter k slot := (.ok (), insert slot k)
  detachAdapter k slot := (.ok (), k.erase slot)
  switchAdapter k slot := (.ok (), if exclusiveSwitch then k.filter (· = slot) else k)
  verifyAdapterBuffers _ _ :=
    .error (.kernel "GPU buffer verification not supported by this backend")

def testBackend : Backend (Finset UInt16) := { residentKernels false with hash := testHash }

end AdapterOS.HotSwap
