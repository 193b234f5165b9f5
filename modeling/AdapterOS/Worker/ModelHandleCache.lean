import AdapterOS.Core.Basic
import AdapterOS.Library.HashMap
import AdapterOS.Library.Ranking
import Mathlib.Data.UInt

/-! The worker's cache of loaded models: pins, active counts and eviction by memory. Every part of
an operation that runs under one lock is a function of its own. -/
namespace AdapterOS.Worker

open Library

section Keys

/-- In the order of the source, which compares keys by it. -/
inductive BackendType where
  | coreML
  | metal
  | mlx
  | mock
  deriving DecidableEq

def BackendType.rank : BackendType → Nat
  | .coreML => 0
  | .metal => 1
  | .mlx => 2
  | .mock => 3

theorem BackendType.rank_injective : Function.Injective BackendType.rank := by
  intro a b h
  cases a <;> cases b <;> first | rfl | cases h

def BackendType.str : BackendType → String
  | .metal => "metal"
  | .mlx => "mlx"
  | .coreML => "coreml"
  | .mock => "mock"

structure ModelCacheIdentity where
  kernelVersionId : String
  quantizationMode : String
  fusionMode : String
  buildId : Option String := none
  adapterDirHash : Option B3Hash := none
  deriving DecidableEq

structure ModelKey where
  backendType : BackendType
  manifestHash : B3Hash
  identity : ModelCacheIdentity
  deriving DecidableEq

namespace ModelKey

/-- The fields in the order in which keys are compared. -/
def sortKey (k : ModelKey) :
    ℕ ×ₗ ℕ ×ₗ String ×ₗ String ×ₗ String ×ₗ WithBot String ×ₗ WithBot ℕ :=
  toLex (k.backendType.rank, toLex (k.manifestHash.toNat, toLex (k.identity.kernelVersionId,
    toLex (k.identity.quantizationMode, toLex (k.identity.fusionMode,
    toLex (k.identity.buildId, k.identity.adapterDirHash.map BitVec.toNat))))))

theorem sortKey_injective : Function.Injective sortKey := by
  rintro ⟨b, h, k, q, f, i, d⟩ ⟨b', h', k', q', f', i', d'⟩ heq
  simp only [sortKey, EmbeddingLike.apply_eq_iff_eq, Prod.mk.injEq] at heq
  obtain ⟨hb, hh, rfl, rfl, rfl, hlast⟩ := heq
  obtain ⟨hi, hd⟩ := Prod.mk.inj hlast
  have hbuild : i = i' := hi
  have hdir : d = d' := Option.map_injective (fun _ _ => BitVec.eq_of_toNat_eq) hd
  rw [BackendType.rank_injective hb, BitVec.eq_of_toNat_eq hh, hbuild, hdir]

instance : LinearOrder ModelKey := LinearOrder.lift' sortKey sortKey_injective

def shortHex (k : ModelKey) : String :=
  k.backendType.str ++ ":" ++ String.ofList ((B3Hash.toHex k.manifestHash).toList.take 12) ++ ":" ++
    k.identity.kernelVersionId ++ ":" ++ k.identity.quantizationMode ++ ":" ++ k.identity.fusionMode

end ModelKey

end Keys

abbrev Instant := Nat

/-- The handle is whatever the loader of a backend hands over. -/
structure CachedModelEntry (H : Type*) where
  handle : H
  loadedAt : Instant
  accessCount : UInt64
  memoryBytes : UInt64

structure CacheStats where
  hits : UInt64 := 0
  misses : UInt64 := 0
  evictions : UInt64 := 0
  totalMemoryBytes : UInt64 := 0
  evictionSkipPinnedCount : UInt64 := 0
  evictionSkipActiveCount : UInt64 := 0
  stalePinGcCount : UInt64 := 0

inductive PinConflictMode where
  | shadow
  | enforce
  deriving DecidableEq

structure BaseModelPinState where
  conflictMode : PinConflictMode
  baseModelKey : Option ModelKey := none
  loadCount : UInt64 := 0
  evictCount : UInt64 := 0

/-- What a loader returns: a handle with the memory it takes. -/
abbrev Loaded (H : Type*) := Except AosError (H × UInt64)

structure ModelHandleCache (H : Type*) where
  cache : HashMap ModelKey (CachedModelEntry H)
  activeCounts : HashMap ModelKey Nat
  maxMemoryBytes : UInt64
  stats : CacheStats
  pinnedKeys : HashSet ModelKey
  pinnedTimestamps : HashMap ModelKey Instant
  maxPinnedEntries : Nat
  baseModelPin : BaseModelPinState

namespace ModelHandleCache

variable {H : Type*}

def new (maxMemoryBytes : UInt64) (maxPinnedEntries : Nat) (conflictMode : PinConflictMode) :
    ModelHandleCache H where
  cache := ∅
  activeCounts := ∅
  maxMemoryBytes
  stats := {}
  pinnedKeys := ∅
  pinnedTimestamps := ∅
  maxPinnedEntries
  baseModelPin := { conflictMode }

variable (s : ModelHandleCache H) (key : ModelKey)

section Use

def activeCount : Nat := (s.activeCounts.get? key).getD 0

def isActive : Bool := 0 < s.activeCount key

def isPinned : Bool := key ∈ s.pinnedKeys

def registerActive : ModelHandleCache H :=
  { s with activeCounts := s.activeCounts.insert key (s.activeCount key + 1) }

def markActive : Bool × ModelHandleCache H :=
  if key ∈ s.cache then (true, s.registerActive key) else (false, s)

def markInactive : Bool × ModelHandleCache H :=
  match s.activeCounts.get? key with
  | some count =>
    if 1 < count then (true, { s with activeCounts := s.activeCounts.insert key (count - 1) })
    else (true, { s with activeCounts := s.activeCounts.erase key })
  | none => (false, s)

end Use

section Evict

def takeOut : ModelHandleCache H := { s with cache := s.cache.erase key }

/-- What follows the removal of an entry: its active count goes with it. -/
def settleRemoval (memoryBytes : UInt64) : ModelHandleCache H :=
  { s with
    activeCounts := s.activeCounts.erase key
    stats := { s.stats with
      evictions := s.stats.evictions + 1
      totalMemoryBytes :=
        if memoryBytes ≤ s.stats.totalMemoryBytes then s.stats.totalMemoryBytes - memoryBytes
        else 0 }
    baseModelPin := { s.baseModelPin with
      evictCount := if s.baseModelPin.baseModelKey = some key then s.baseModelPin.evictCount + 1
        else s.baseModelPin.evictCount } }

def removeEntry (memoryBytes : UInt64) : ModelHandleCache H :=
  (s.takeOut key).settleRemoval key memoryBytes

def memoryUsage : UInt64 := (s.cache.items.map (·.2.memoryBytes)).sum

def evictionEntries : List (ModelKey × CachedModelEntry H) :=
  sortBy (fun e => toLex (e.2.loadedAt, toLex (e.2.accessCount.toNat, e.1)))
    (s.cache.items.filter fun e => !s.isPinned e.1 && s.activeCount e.1 = 0)

/-- Every entry of the listing is looked at once more before it goes. -/
def evictEntries (target : UInt64) :
    List (ModelKey × CachedModelEntry H) → UInt64 → ModelHandleCache H → UInt64 × ModelHandleCache H
  | [], freed, s => (freed, s)
  | (key, entry) :: entries, freed, s =>
    if target ≤ freed then (freed, s)
    else if s.isActive key || s.isPinned key then evictEntries target entries freed s
    else
      evictEntries target entries (freed + entry.memoryBytes)
        (s.removeEntry key entry.memoryBytes)

def bytesPerMb64 : UInt64 := 1024 * 1024

/-- The listing of an eviction: what it has to free and what stood in its way. -/
structure Shortage where
  target : UInt64
  pinnedInCache : Nat
  activeInCache : Nat

def shortage (neededBytes : UInt64) : Shortage where
  target := s.memoryUsage + neededBytes - s.maxMemoryBytes
  pinnedInCache := (s.cache.keys.filter s.isPinned).length
  activeInCache := (s.cache.keys.filter s.isActive).length

def recordSkips (short : Shortage) : ModelHandleCache H :=
  let s := if 0 < short.target && 0 < short.pinnedInCache then
      { s with stats := { s.stats with
        evictionSkipPinnedCount := s.stats.evictionSkipPinnedCount + .ofNat short.pinnedInCache } }
    else s
  if 0 < short.target && 0 < short.activeInCache then
    { s with stats := { s.stats with
      evictionSkipActiveCount := s.stats.evictionSkipActiveCount + .ofNat short.activeInCache } }
  else s

def evictForSizeLocked (neededBytes : UInt64) (modelKey : Option ModelKey) :
    Except AosError Unit × ModelHandleCache H :=
  if s.memoryUsage + neededBytes ≤ s.maxMemoryBytes then (.ok (), s)
  else
    let short := s.shortage neededBytes
    let (freed, s) := evictEntries short.target s.evictionEntries 0 s
    let s := s.recordSkips short
    if freed < short.target then
      (.error (.cacheBudgetExceeded (neededBytes / bytesPerMb64) (freed / bytesPerMb64)
        short.pinnedInCache short.activeInCache (s.maxMemoryBytes / bytesPerMb64)
        (modelKey.map fun k => String.ofList ((B3Hash.toHex k.manifestHash).toList.take 12))), s)
    else (.ok (), s)

def unload : Except AosError Unit × ModelHandleCache H :=
  if s.isPinned key then
    (.error (.cacheEntryPinned key.shortHex "Cannot unload pinned model. Call unpin() first."), s)
  else if s.isActive key then
    (.error (.cacheEntryActive key.shortHex ("Cannot unload model with active references. " ++
      "Wait for in-flight requests to complete.")), s)
  else
    match s.cache.get? key with
    | none => (.error (.cacheEntryNotFound key.shortHex), s)
    | some entry => (.ok (), s.removeEntry key entry.memoryBytes)

end Evict

section Load

def recordHit : ModelHandleCache H :=
  { s with stats := { s.stats with hits := s.stats.hits + 1 } }

def insertEntry (now : Instant) (handle : H) (memoryBytes : UInt64) : ModelHandleCache H :=
  { s with
    cache := s.cache.insert key ⟨handle, now, 1, memoryBytes⟩
    stats := { s.stats with
      misses := s.stats.misses + 1
      totalMemoryBytes := s.stats.totalMemoryBytes + memoryBytes }
    baseModelPin := { s.baseModelPin with
      loadCount := if s.baseModelPin.baseModelKey = some key then s.baseModelPin.loadCount + 1
        else s.baseModelPin.loadCount } }

/-- What a load does under the write lock of the cache. -/
def insertLoaded (now : Instant) (handle : H) (memoryBytes : UInt64) :
    Except String H × ModelHandleCache H :=
  match s.cache.get? key with
  | some existing => (.ok existing.handle, s)
  | none =>
    match s.evictForSizeLocked memoryBytes (some key) with
    | (.error e, s) => (.error e.display, s)
    | (.ok (), s) => (.ok handle, s.insertEntry key now handle memoryBytes)

def loadAndCacheModel (now : Instant) (loader : Loaded H) : Except String H × ModelHandleCache H :=
  match s.cache.get? key with
  | some entry => (.ok entry.handle, s.recordHit)
  | none =>
    match loader with
    | .error e => (.error e.display, s)
    | .ok (handle, memoryBytes) => s.insertLoaded key now handle memoryBytes

/-- With no other caller in flight the caller is the one that loads. -/
def getOrLoad (now : Instant) (loader : Loaded H) : Except AosError H × ModelHandleCache H :=
  match s.cache.get? key with
  | some entry => (.ok entry.handle, s.recordHit)
  | none =>
    let (result, s) := s.loadAndCacheModel key now loader
    (result.mapError .worker, s)

end Load

section Pin

def insertPin (now : Instant) : ModelHandleCache H :=
  { s with
    pinnedKeys := s.pinnedKeys.insert key ()
    pinnedTimestamps := s.pinnedTimestamps.insert key now }

def registerPin (now : Instant) : Bool × ModelHandleCache H :=
  if key ∈ s.pinnedKeys then (true, s)
  else if s.maxPinnedEntries ≤ s.pinnedKeys.keys.length then (false, s)
  else (true, s.insertPin key now)

def pin (now : Instant) : Bool × ModelHandleCache H :=
  if key ∈ s.cache then s.registerPin key now else (false, s)

def unpin : Bool × ModelHandleCache H :=
  if key ∈ s.pinnedKeys then
    (true, { s with
      pinnedKeys := s.pinnedKeys.erase key
      pinnedTimestamps := s.pinnedTimestamps.erase key })
  else (false, s)

def gcStep (r : Nat × ModelHandleCache H) (key : ModelKey) : Nat × ModelHandleCache H :=
  match r.2.unpin key with
  | (true, s) => (r.1 + 1, s)
  | (false, s) => (r.1, s)

def gcStalePins (now : Instant) (timeout : Nat) : Nat × ModelHandleCache H :=
  let staleKeys := (s.pinnedTimestamps.items.filter fun e => timeout < now - e.2).map Prod.fst
  let (gcCount, s) := staleKeys.foldl gcStep (0, s)
  (gcCount, if 0 < gcCount then
      { s with stats := { s.stats with
        stalePinGcCount := s.stats.stalePinGcCount + .ofNat gcCount } }
    else s)

end Pin

section Base

def setBaseModelKey : ModelHandleCache H :=
  if s.baseModelPin.baseModelKey = some key then s
  else { s with baseModelPin :=
    { s.baseModelPin with baseModelKey := some key, loadCount := 0, evictCount := 0 } }

def pinnedAt (k : ModelKey) : WithBot Instant := s.pinnedTimestamps.get? k

/-- The pinned model to give up: cached, idle, pinned for longest. -/
def selectPinDisplacementCandidate : Option ModelKey :=
  let candidates := s.pinnedKeys.keys.filter fun k =>
    k ≠ key ∧ k ∈ s.cache ∧ s.activeCount k = 0
  (sortBy (fun k => toLex ((s.pinnedTimestamps.get? k).isNone,
    toLex (s.pinnedAt k, k))) candidates).head?

def pinDisplacementBlockReason : String :=
  let others := s.pinnedKeys.keys.filter (· ≠ key)
  let existing := others.filter (· ∈ s.cache)
  if s.pinnedKeys.keys = [] then "no_pinned_entries"
  else if existing.any (s.activeCount · = 0) then "evictable_candidate_available"
  else if others = [] then "only_incoming_model_pinned"
  else if existing = [] then "other_pinned_entries_not_cached"
  else "all_other_pinned_entries_active"

def noEvictablePinned : String :=
  "Pin conflict mode is enforce and no evictable pinned entries are available"

/-- Give up the pin and the entry of another model for this one. -/
def displacePin (now : Instant) (handle : H) (displaced : ModelKey) :
    Except AosError H × ModelHandleCache H :=
  match s.unpin displaced with
  | (false, s) =>
    (.error (.cacheEntryPinned key.shortHex (noEvictablePinned ++ " (displacement candidate " ++
      displaced.shortHex ++ " could not be unpinned)")), s)
  | (true, s) =>
    match s.unload displaced with
    | (.error e, s) =>
      (.error (.cacheEntryPinned key.shortHex (noEvictablePinned ++
        " after displacement attempt for " ++ displaced.shortHex ++ ": " ++ e.display)),
        if displaced ∈ s.cache then (s.pin displaced now).2 else s)
    | (.ok (), s) =>
      match s.pin key now with
      | (false, s) =>
        (.error (.cacheEntryPinned key.shortHex (noEvictablePinned ++ " after displacement")), s)
      | (true, s) => (.ok handle, s)

/-- The pin that follows the load of a base model. -/
def pinBaseModel (now : Instant) (handle : H) : Except AosError H × ModelHandleCache H :=
  if key ∈ s.pinnedKeys then (.ok handle, s)
  else if s.maxPinnedEntries ≤ s.pinnedKeys.keys.length then
    match s.baseModelPin.conflictMode, s.selectPinDisplacementCandidate key with
    | .shadow, _ => (.ok handle, s)
    | .enforce, none =>
      (.error (.cacheEntryPinned key.shortHex (noEvictablePinned ++ " (reason: " ++
        s.pinDisplacementBlockReason key ++ ")")), s)
    | .enforce, some displaced => s.displacePin key now handle displaced
  else (.ok handle, s.insertPin key now)

def getOrLoadBaseModel (now pinnedAt : Instant) (loader : Loaded H) :
    Except AosError H × ModelHandleCache H :=
  match (s.setBaseModelKey key).getOrLoad key now loader with
  | (.error e, s) => (.error e, s)
  | (.ok handle, s) => s.pinBaseModel key pinnedAt handle

/-- Load the next model, then let go of the previous one. -/
def transitionModel (previous next : ModelKey) (now : Instant) (loader : Loaded H) :
    Except AosError H × ModelHandleCache H :=
  match s.getOrLoad next now loader with
  | (.error e, s) => (.error e, s)
  | (.ok handle, s) =>
    let (_, s) := s.unpin previous
    (.ok handle, (s.markInactive previous).2)

end Base

end ModelHandleCache

end AdapterOS.Worker
