import AdapterOS.Core.Basic
import AdapterOS.Library.Lru
import AdapterOS.Library.Run
import Mathlib.Data.UInt

/-! The cache of loaded adapters and its byte counter. -/
namespace AdapterOS.Aos

open Library

abbrev PathBuf := String

/-- What the cache reads of an adapter: the length of its buffers, which do not change, and
whether its manifest has a mixture-of-experts configuration. -/
structure LoadedAdapter where
  sizeBytes : UInt64
  isMoeAdapter : Bool
  deriving DecidableEq

structure CacheConfig where
  maxSizeBytes : UInt64
  maxCount : Nat

/-- The counters, atomic and wrapping. -/
structure CacheMetrics where
  hits : UInt64 := 0
  misses : UInt64 := 0
  evictions : UInt64 := 0
  sizeBytes : UInt64 := 0
  evictedBytes : UInt64 := 0

namespace CacheMetrics

variable (m : CacheMetrics)

def recordHit : CacheMetrics := { m with hits := m.hits + 1 }

def recordMiss : CacheMetrics := { m with misses := m.misses + 1 }

def recordEviction (sizeBytes : UInt64) : CacheMetrics :=
  { m with
    evictions := m.evictions + 1
    evictedBytes := m.evictedBytes + sizeBytes
    sizeBytes := m.sizeBytes - sizeBytes }

def updateSize (delta : Int64) : CacheMetrics :=
  if 0 ≤ delta then { m with sizeBytes := m.sizeBytes + delta.toUInt64 }
  else { m with sizeBytes := m.sizeBytes - (-delta).toUInt64 }

end CacheMetrics

structure AdapterCache where
  cache : Lru PathBuf LoadedAdapter
  config : CacheConfig
  metrics : CacheMetrics

namespace AdapterCache

def new (config : CacheConfig) : AdapterCache where
  cache := if h : 0 < config.maxCount then .new config.maxCount h else .new 100 (by decide)
  config
  metrics := {}

variable (c : AdapterCache)

def get (path : PathBuf) : Option LoadedAdapter × AdapterCache :=
  let (found, cache) := c.cache.get path
  match found with
  | some adapter => (some adapter, { c with cache, metrics := c.metrics.recordHit })
  | none => (none, { c with cache, metrics := c.metrics.recordMiss })

/-- Take the least recently used adapters out until the rest and the new one fit. There are as many
turns as entries. -/
def evictLoop (target maxSize : UInt64) : Nat → AdapterCache → UInt64 → Option UInt64 × AdapterCache
  | turns, c, freed =>
    if target - freed ≤ maxSize then (some freed, c)
    else
      match turns, c.cache.popLru with
      | turns + 1, (some (_, adapter), cache) =>
        evictLoop target maxSize turns
          { c with cache, metrics := c.metrics.recordEviction adapter.sizeBytes }
          (freed + adapter.sizeBytes)
      | _, _ => (none, c)

def evictForSize (neededSize : UInt64) : Except AosError Unit × AdapterCache :=
  let currentSize := c.metrics.sizeBytes
  let maxSize := c.config.maxSizeBytes
  if currentSize + neededSize ≤ maxSize then (.ok (), c)
  else
    match evictLoop (currentSize + neededSize) maxSize c.cache.entries.length c 0 with
    | (some freed, c') =>
      (.ok (), { c' with metrics := c'.metrics.updateSize (-freed.toInt64) })
    | (none, c') =>
      (.error (.io ("Cannot make room for " ++ toString neededSize ++ " bytes (max: " ++
        toString maxSize ++ ")")), c')

def insert (path : PathBuf) (adapter : LoadedAdapter) : Except AosError Unit × AdapterCache :=
  let size := adapter.sizeBytes
  let (made, c) := if 0 < c.config.maxSizeBytes then c.evictForSize size else (.ok (), c)
  match made with
  | .error e => (.error e, c)
  | .ok () =>
    let (evicted, cache) := c.cache.push path adapter
    let metrics := match evicted with
      | some (_, evictedAdapter) => c.metrics.recordEviction evictedAdapter.sizeBytes
      | none => c.metrics
    (.ok (), { c with cache, metrics := metrics.updateSize size.toInt64 })

def remove (path : PathBuf) : Option LoadedAdapter × AdapterCache :=
  let (removed, cache) := c.cache.pop path
  match removed with
  | some adapter =>
    (some adapter, { c with cache, metrics := c.metrics.updateSize (-adapter.sizeBytes.toInt64) })
  | none => (none, { c with cache })

def clear : AdapterCache := { c with cache := c.cache.clear }

def moeEntries : List (PathBuf × LoadedAdapter) := c.cache.entries.filter (·.2.isMoeAdapter)

def moeSizeBytes : UInt64 := (c.moeEntries.map (·.2.sizeBytes)).sum

/-- Take one adapter out, if it is still there, and add its size to what has been freed. -/
def evictPath (s : AdapterCache × UInt64) (path : PathBuf) : AdapterCache × UInt64 :=
  match s.1.cache.pop path with
  | (some adapter, cache) =>
    ({ s.1 with cache, metrics := s.1.metrics.recordEviction adapter.sizeBytes },
      s.2 + adapter.sizeBytes)
  | (none, _) => s

def evictAllMoeAdapters : UInt64 × AdapterCache :=
  let (c, freed) := (c.moeEntries.map Prod.fst).foldl evictPath (c, 0)
  (freed, { c with metrics := c.metrics.updateSize (-freed.toInt64) })

/-- The same with the size that was listed for the path. -/
def evictListed (s : AdapterCache × UInt64) (entry : PathBuf × LoadedAdapter) :
    AdapterCache × UInt64 :=
  match s.1.cache.pop entry.1 with
  | (some _, cache) =>
    ({ s.1 with cache, metrics := s.1.metrics.recordEviction entry.2.sizeBytes },
      s.2 + entry.2.sizeBytes)
  | (none, _) => s

/-- Stop taking adapters out once enough is freed. -/
def evictMoeLoop (neededSize : UInt64) : List (PathBuf × LoadedAdapter) →
    AdapterCache × UInt64 → AdapterCache × UInt64
  | [], s => s
  | entry :: entries, s =>
    if neededSize ≤ s.2 then s else evictMoeLoop neededSize entries (evictListed s entry)

def evictMoeForSize (neededSize : UInt64) : Except AosError UInt64 × AdapterCache :=
  if neededSize ≤ c.moeSizeBytes then (.ok 0, c)
  else
    let (c, freed) := evictMoeLoop neededSize c.moeEntries (c, 0)
    let c := { c with metrics := c.metrics.updateSize (-freed.toInt64) }
    if freed < neededSize then
      (.error (.io ("Cannot free " ++ toString neededSize ++
        " bytes from MoE adapters (only freed " ++ toString freed ++ ")")), c)
    else (.ok freed, c)

end AdapterCache

end AdapterOS.Aos
