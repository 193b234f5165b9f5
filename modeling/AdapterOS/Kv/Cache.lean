import AdapterOS.Kv.Quota
import AdapterOS.Library.ByteRange
import AdapterOS.Library.HashMap
import Mathlib.Data.List.Infix

/-! The KV cache: a bump pointer, first-fit reuse of freed regions, and guards that tie a
sequence to the stack generation it was started under. -/
namespace AdapterOS.Kv

open Library

abbrev SequenceId := Nat

structure KvAllocation where
  sequenceId : SequenceId
  kOffset : Nat
  kSize : Nat
  vOffset : Nat
  vSize : Nat
  deriving DecidableEq, Repr

structure SequenceGuard where
  sequenceId : SequenceId
  generation : Nat
  active : Bool
  deriving DecidableEq, Repr

def SequenceGuard.new (sequenceId : SequenceId) (generation : Nat) : SequenceGuard :=
  ⟨sequenceId, generation, true⟩

/-- A buffer shared with the GPU. -/
structure MetalBuffer where
  length : Nat
  contents : Nat → UInt8

def MetalBuffer.zero (buffer : MetalBuffer) (offset size : Nat) : MetalBuffer :=
  { buffer with
    contents := fun i => if offset ≤ i ∧ i < offset + size then 0 else buffer.contents i }

/-- The buffers are absent without a Metal device. -/
structure KvCache where
  kBuffer : Option MetalBuffer
  vBuffer : Option MetalBuffer
  capacityBytes : Nat
  usedBytes : Nat
  allocations : HashMap SequenceId KvAllocation
  nextSeqId : SequenceId
  bytesPerToken : Nat
  freeRegions : List ByteRange
  stackGeneration : Nat
  activeGuards : HashMap SequenceId Nat
  quotaManager : Option TenantKvQuotaManager

namespace KvCache

def newWithQuota (capacityBytes : Nat) (quotaManager : Option TenantKvQuotaManager) : KvCache :=
  ⟨none, none, capacityBytes, 0, ∅, 1, 8192, [], 0, ∅, quotaManager⟩

def new (capacityBytes : Nat) : KvCache := newWithQuota capacityBytes none

/-- A cache over two Metal buffers, with whatever they hold at first. -/
def newWithMetalAndQuota (k v : Nat → UInt8) (capacityBytes bytesPerToken : Nat)
    (quotaManager : Option TenantKvQuotaManager) : KvCache :=
  ⟨some ⟨capacityBytes, k⟩, some ⟨capacityBytes, v⟩, capacityBytes, 0, ∅, 1, bytesPerToken, [], 0,
    ∅, quotaManager⟩

def newWithMetal (k v : Nat → UInt8) (capacityBytes bytesPerToken : Nat) : KvCache :=
  newWithMetalAndQuota k v capacityBytes bytesPerToken none

section Quota

def allocatedBytes (c : KvCache) : Nat :=
  (c.allocations.items.map fun a => saturatingAdd64 a.2.kSize a.2.vSize).foldl
    (fun sum bytes => wrap64 (sum + bytes)) 0

/-- Before a bulk clear the quota gets back what the allocations took, never more than is used. -/
def releaseAllocationQuota (c : KvCache) : KvCache :=
  match c.quotaManager with
  | none => c
  | some quota =>
    let releaseBytes := min c.allocatedBytes quota.usedBytes
    if releaseBytes > 0 then { c with quotaManager := some (quota.release releaseBytes) } else c

/-- Reserve when there is a quota; its own refusal is reported as an exhausted resource. -/
def reserveQuota (c : KvCache) (bytes now systemNanos : Nat) :
    Except AosError (Option KvReservation) × KvCache :=
  match c.quotaManager with
  | none => (.ok none, c)
  | some quota =>
    match quota.reserve bytes now systemNanos with
    | (.ok r, quota) => (.ok (some r), { c with quotaManager := some quota })
    | (.error (.memoryPressure msg), quota) =>
      let e := if "KV quota exceeded".toList <:+: msg.toList then
          AosError.quotaExceeded "kv_cache" (some "KV_QUOTA_EXCEEDED")
        else .memoryPressure msg
      (.error e, { c with quotaManager := some quota })
    | (.error e, quota) => (.error e, { c with quotaManager := some quota })

/-- Settle a reservation with the quota it came from. -/
def settleQuota (c : KvCache) (reservation : Option KvReservation)
    (settle : TenantKvQuotaManager → KvReservation → TenantKvQuotaManager) : KvCache :=
  match reservation with
  | none => c
  | some r => { c with quotaManager := c.quotaManager.map (settle · r) }

def releaseQuota (c : KvCache) (bytes : Nat) : KvCache :=
  { c with quotaManager := c.quotaManager.map (·.release bytes) }

end Quota

def roundedLen (seqLen : Nat) : Nat :=
  let seqLen := min seqLen (2 ^ 20)
  if seqLen ≤ 128 then 128
  else if seqLen ≤ 256 then 256
  else if seqLen ≤ 512 then 512
  else seqLen

def requiredBytes (c : KvCache) (seqLen : Nat) : Option Nat :=
  checkedMul64 (roundedLen seqLen) c.bytesPerToken

/-- Offset for K and V together and the regions left: the first region that is large enough,
otherwise the end of what is used. -/
def takeRegion (c : KvCache) (required : Nat) : Nat × List ByteRange :=
  match c.freeRegions.find? (fun r => wrap64 (required * 2) ≤ r.size) with
  | some r =>
    let consumed := wrap64 (required + required)
    let remaining := wrapSub64 r.size consumed
    let rest := c.freeRegions.eraseP (fun r => wrap64 (required * 2) ≤ r.size)
    (r.offset, if remaining > 0 then rest ++ [⟨wrap64 (r.offset + consumed), remaining⟩] else rest)
  | none => (c.usedBytes, c.freeRegions)

/-- Record an allocation of `required` bytes each for K and V under the next id. -/
def place (c : KvCache) (required : Nat) : KvCache :=
  let kOffset := (c.takeRegion required).1
  let vOffset := wrap64 (kOffset + required)
  let endPos := wrap64 (vOffset + required)
  { c with
    nextSeqId := wrap64 (c.nextSeqId + 1)
    freeRegions := (c.takeRegion required).2
    allocations :=
      c.allocations.insert c.nextSeqId ⟨c.nextSeqId, kOffset, required, vOffset, required⟩
    usedBytes := if endPos > c.usedBytes then endPos else c.usedBytes }

def fullError (c : KvCache) : AosError :=
  let used := c.usedBytes
  let capacity := c.capacityBytes
  .memoryPressure s!"KV cache full: {used} / {capacity} bytes used"

def allocate (c : KvCache) (seqLen now systemNanos : Nat) : Except AosError SequenceId × KvCache :=
  match c.requiredBytes seqLen with
  | none => (.error (.validation "Sequence length overflow"), c)
  | some required =>
    match c.reserveQuota (wrap64 (required * 2)) now systemNanos with
    | (.error e, c) => (.error e, c)
    | (.ok reservation, c) =>
      if wrap64 (c.usedBytes + wrap64 (required * 2)) > c.capacityBytes then
        (.error c.fullError, c.settleQuota reservation .rollback)
      else
        -- `finalize` always succeeds, so the code that undoes the placement is never reached
        (.ok c.nextSeqId, (c.place required).settleQuota reservation .finalize)

/-- Merge every region into the one before it when they touch. -/
def mergeFrom (current : ByteRange) : List ByteRange → List ByteRange
  | [] => [current]
  | r :: rest =>
    if r.offset = wrap64 (current.offset + current.size) then
      mergeFrom ⟨current.offset, wrap64 (current.size + r.size)⟩ rest
    else current :: mergeFrom r rest

def mergeRegions : List ByteRange → List ByteRange
  | [] => []
  | first :: rest => mergeFrom first rest

def coalesce (regions : List ByteRange) : List ByteRange :=
  mergeRegions (regions.insertionSort (fun r t => r.offset ≤ t.offset))

def coalesceFreeRegions (c : KvCache) : KvCache :=
  { c with freeRegions := coalesce c.freeRegions }

/-- A freed block joins the free regions. -/
def reclaim (c : KvCache) (a : KvAllocation) : KvCache :=
  let freedBytes := wrap64 (a.kSize + a.vSize)
  let regions := c.freeRegions ++ [⟨a.kOffset, freedBytes⟩]
  coalesceFreeRegions { c with freeRegions := regions } |>.releaseQuota freedBytes

def free (c : KvCache) (seqId : SequenceId) : Except AosError Unit × KvCache :=
  let c := { c with activeGuards := c.activeGuards.erase seqId }
  match c.allocations.get? seqId with
  | some a => (.ok (), reclaim { c with allocations := c.allocations.erase seqId } a)
  | none => (.error (.worker s!"Sequence ID {seqId} not found in KV cache"), c)

def zeroBuffers (c : KvCache) (size : MetalBuffer → Nat) : KvCache :=
  match c.kBuffer, c.vBuffer with
  | some k, some v =>
    { c with kBuffer := some (k.zero 0 (size k)), vBuffer := some (v.zero 0 (size v)) }
  | _, _ => c

def resetAll (c : KvCache) : KvCache :=
  let c := { c.releaseAllocationQuota with
    usedBytes := 0, allocations := ∅, nextSeqId := 1, freeRegions := [], activeGuards := ∅ }
  c.zeroBuffers (fun _ => c.capacityBytes)

def zeroize (c : KvCache) : KvCache :=
  { (c.zeroBuffers MetalBuffer.length).releaseAllocationQuota with
    allocations := ∅, usedBytes := 0, freeRegions := [] }

/-- The whole capacity becomes one free region. -/
def zeroizeAll (c : KvCache) : KvCache :=
  { c.releaseAllocationQuota with
    allocations := ∅, usedBytes := 0, freeRegions := [⟨0, c.capacityBytes⟩], activeGuards := ∅
    kBuffer := c.kBuffer.map (·.zero 0 c.capacityBytes)
    vBuffer := c.vBuffer.map (·.zero 0 c.capacityBytes) }

/-- One buffer's range has to lie within the K buffer. -/
def checkBounds (buffer : String) (offset size bufferLen : Nat) : Except AosError Unit :=
  if offset + size ≤ bufferLen then .ok ()
  else .error (.worker
    s!"{buffer} buffer bounds exceeded: offset {offset} + size {size} > buffer len {bufferLen}")

/-- Zero what an allocation holds in the buffers. -/
def zeroAllocation (c : KvCache) (a : KvAllocation) : Except AosError KvCache :=
  match c.kBuffer, c.vBuffer with
  | some k, some v =>
    if 2 ^ 64 ≤ a.kOffset + a.kSize then .error (.worker "K buffer offset+size overflow")
    else if 2 ^ 64 ≤ a.vOffset + a.vSize then .error (.worker "V buffer offset+size overflow")
    else do
      checkBounds "K" a.kOffset a.kSize k.length
      checkBounds "V" a.vOffset a.vSize k.length
      .ok { c with kBuffer := some (k.zero a.kOffset a.kSize)
                   vBuffer := some (v.zero a.vOffset a.vSize) }
  | _, _ => .ok c

def zeroizeSequence (c : KvCache) (seqId : SequenceId) : Except AosError Unit × KvCache :=
  match c.allocations.get? seqId with
  | none => (.error (.worker s!"Sequence ID {seqId} not found"), c)
  | some a =>
    match c.zeroAllocation a with
    | .error e => (.error e, c)
    | .ok c => c.free seqId

def setGeneration (c : KvCache) (generation : Nat) : KvCache :=
  { c with stackGeneration := generation }

def ensureCacheCoherence (c : KvCache) (currentGeneration : Nat) : Bool × KvCache :=
  if currentGeneration ≠ c.stackGeneration then
    (true, c.resetAll.setGeneration currentGeneration)
  else (false, c)

def allocateWithGuard (c : KvCache) (seqLen generation now systemNanos : Nat) :
    Except AosError SequenceGuard × KvCache :=
  match (c.ensureCacheCoherence generation).2.allocate seqLen now systemNanos with
  | (.error e, c) => (.error e, c)
  | (.ok seqId, c) =>
    (.ok (.new seqId generation), { c with activeGuards := c.activeGuards.insert seqId generation })

def freeAll (c : KvCache) (seqIds : List SequenceId) : KvCache :=
  seqIds.foldl (fun c seqId => (c.free seqId).2) c

def drainActiveSequences (c : KvCache) (o : Iteration SequenceId) : Nat × KvCache :=
  let count := c.activeGuards.keys.length
  if count > 0 then
    (count, { c.freeAll (o.visit c.activeGuards.keys) with activeGuards := ∅ })
  else (count, c)

end KvCache

end AdapterOS.Kv
