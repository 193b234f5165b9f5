import AdapterOS.Core.Basic
import AdapterOS.Library.Counter
import AdapterOS.Library.HashMap

/-! The prefix KV cache: entries under a byte budget, evicted by logical access ticks. -/
namespace AdapterOS.Kv

open Library

/-- A cached prefix; tensors are given by the bit patterns of their floats. -/
structure PrefixKvEntry where
  keys : List (List UInt32)
  values : List (List UInt32)
  tenantId : String
  prefixCachedTokenCount : Nat
  kvBytes : Nat
  createdTick : Nat
  lastAccessTick : Nat
  activeRefcount : Nat
  prefixTokens : List UInt32
  contextDigest : B3Hash
  tokenizerHash : B3Hash
  modelIdentityHash : B3Hash
  payloadIntegrityHash : B3Hash
  deriving DecidableEq

namespace PrefixKvEntry

variable (hash : List UInt8 → B3Hash)

def computeKvBytes (keys values : List (List UInt32)) : Nat :=
  (keys.map (·.length * 4)).sum + (values.map (·.length * 4)).sum

def floatBytes (bits : UInt32) : List UInt8 :=
  (List.range 4).map fun i => .ofNat (bits.toNat / 2 ^ (8 * i))

def computePayloadHash (keys values : List (List UInt32)) : B3Hash :=
  hash ((keys.flatten ++ values.flatten).flatMap floatBytes)

/-- Without token data, so never found by its prefix. -/
def newWithTick (keys values : List (List UInt32)) (tenantId : String)
    (prefixCachedTokenCount createdTick : Nat) : PrefixKvEntry :=
  ⟨keys, values, tenantId, prefixCachedTokenCount, computeKvBytes keys values, createdTick,
    createdTick, 0, [], 0, 0, 0, computePayloadHash hash keys values⟩

def new (keys values : List (List UInt32)) (tenantId : String) (prefixCachedTokenCount : Nat) :
    PrefixKvEntry :=
  newWithTick hash keys values tenantId prefixCachedTokenCount 0

def newWithTokensAndTick (keys values : List (List UInt32)) (tenantId : String)
    (prefixTokens : List UInt32) (contextDigest tokenizerHash modelIdentityHash : B3Hash)
    (createdTick : Nat) : PrefixKvEntry :=
  ⟨keys, values, tenantId, prefixTokens.length % 2 ^ 32, computeKvBytes keys values, createdTick,
    createdTick, 0, prefixTokens, contextDigest, tokenizerHash, modelIdentityHash,
    computePayloadHash hash keys values⟩

def newWithTokens (keys values : List (List UInt32)) (tenantId : String)
    (prefixTokens : List UInt32) (contextDigest tokenizerHash modelIdentityHash : B3Hash) :
    PrefixKvEntry :=
  newWithTokensAndTick hash keys values tenantId prefixTokens contextDigest tokenizerHash
    modelIdentityHash 0

def supportsPrefixMatching (e : PrefixKvEntry) : Bool := ¬ e.prefixTokens.isEmpty

def verifyIntegrity (e : PrefixKvEntry) : Bool :=
  computePayloadHash hash e.keys e.values = e.payloadIntegrityHash

def isInUse (e : PrefixKvEntry) : Bool := e.activeRefcount > 0

def recordAccess (e : PrefixKvEntry) (tick : Nat) : PrefixKvEntry :=
  { e with lastAccessTick := tick }

def withRefcount (e : PrefixKvEntry) (count : Nat) : PrefixKvEntry :=
  { e with activeRefcount := count }

def acquire (e : PrefixKvEntry) : PrefixKvEntry :=
  e.withRefcount ((e.activeRefcount + 1) % 2 ^ 32)

def release (e : PrefixKvEntry) : PrefixKvEntry :=
  e.withRefcount ((e.activeRefcount + (2 ^ 32 - 1)) % 2 ^ 32)

/-- Tokens in common from the start on, if both come from the same context. -/
def computePrefixMatchLength (e : PrefixKvEntry) (inputTokens : List UInt32)
    (contextDigest tokenizerHash modelIdentityHash : B3Hash) : Nat :=
  if ¬ e.supportsPrefixMatching then 0
  else if e.contextDigest ≠ contextDigest ∨ e.tokenizerHash ≠ tokenizerHash ∨
      e.modelIdentityHash ≠ modelIdentityHash then 0
  else ((e.prefixTokens.zip inputTokens).takeWhile fun p => p.1 = p.2).length % 2 ^ 32

end PrefixKvEntry

structure PrefixKvCacheStats where
  hits : Nat
  misses : Nat
  evictions : Nat
  entryCount : Nat
  usedBytes : Nat
  maxBytes : Nat
  integrityFailures : Nat

structure PrefixKvCache where
  entries : HashMap B3Hash PrefixKvEntry
  maxBytes : Nat
  usedBytes : Nat
  currentTick : Nat
  stats : PrefixKvCacheStats

structure PrefixMatch where
  entry : PrefixKvEntry
  cacheKey : B3Hash
  matchedTokenCount : Nat
  remainingTokens : Nat

inductive PrefixMatchResult where
  | exactMatch (entry : PrefixKvEntry)
  | prefixMatch (found : PrefixMatch)

namespace PrefixKvCache

variable (hash : List UInt8 → B3Hash)

def new (maxBytes : Nat) : PrefixKvCache := ⟨∅, maxBytes, 0, 0, ⟨0, 0, 0, 0, 0, maxBytes, 0⟩⟩

def setTick (c : PrefixKvCache) (tick : Nat) : PrefixKvCache := { c with currentTick := tick }

def advanceTick (c : PrefixKvCache) : Nat × PrefixKvCache :=
  let tick := wrap64 (c.currentTick + 1)
  (tick, c.setTick tick)

/-- A hit on a stored entry: the tick advances and the entry is marked with it. -/
def hit (c : PrefixKvCache) (key : B3Hash) (e : PrefixKvEntry) : PrefixKvEntry × PrefixKvCache :=
  let (tick, c) := c.advanceTick
  let e := e.recordAccess tick
  (e, { c with
    entries := c.entries.insert key e
    stats := { c.stats with hits := c.stats.hits + 1 } })

def miss (c : PrefixKvCache) : PrefixKvCache :=
  { c with stats := { c.stats with misses := c.stats.misses + 1 } }

def countFailures (c : PrefixKvCache) (n : Nat) : PrefixKvCache :=
  { c with stats := { c.stats with integrityFailures := c.stats.integrityFailures + n } }

def get (c : PrefixKvCache) (key : B3Hash) : Option PrefixKvEntry × PrefixKvCache :=
  match c.entries.get? key with
  | some e =>
    if ¬ e.verifyIntegrity hash then (none, (c.countFailures 1).miss)
    else
      let (e, c) := c.hit key e
      (some e, c)
  | none => (none, c.miss)

def ordered (c : PrefixKvCache) : List (B3Hash × PrefixKvEntry) :=
  c.entries.items.insertionSort (fun a b => a.1 ≤ b.1)

/-- The better of the best match so far and one more entry: longer first, then smaller key. -/
def better (minMatchTokens : Nat) (best : Option (B3Hash × PrefixKvEntry × Nat)) (key : B3Hash)
    (e : PrefixKvEntry) (matchLen : Nat) : Option (B3Hash × PrefixKvEntry × Nat) :=
  if matchLen ≥ minMatchTokens then
    match best with
    | some (bestKey, _, bestLen) =>
      if matchLen > bestLen ∨ (matchLen = bestLen ∧ key < bestKey) then some (key, e, matchLen)
      else best
    | none => some (key, e, matchLen)
  else best

def matchable (c : PrefixKvCache) : List (B3Hash × PrefixKvEntry) :=
  c.ordered.filter fun p => p.2.supportsPrefixMatching

def bestMatch (c : PrefixKvCache) (inputTokens : List UInt32)
    (contextDigest tokenizerHash modelIdentityHash : B3Hash) (minMatchTokens : Nat) :
    Option (B3Hash × PrefixKvEntry × Nat) :=
  (c.matchable.filter fun p => p.2.verifyIntegrity hash).foldl (fun best p =>
    better minMatchTokens best p.1 p.2 (p.2.computePrefixMatchLength inputTokens contextDigest
      tokenizerHash modelIdentityHash)) none

def findLongestPrefixMatch (c : PrefixKvCache) (inputTokens : List UInt32)
    (contextDigest tokenizerHash modelIdentityHash : B3Hash) (minMatchTokens : Nat) :
    Option PrefixMatch × PrefixKvCache :=
  if inputTokens.isEmpty then (none, c)
  else
    let corrupted := c.matchable.filter fun p => ¬ p.2.verifyIntegrity hash
    let found := c.bestMatch hash inputTokens contextDigest tokenizerHash modelIdentityHash
      minMatchTokens
    let c := c.countFailures corrupted.length
    match found with
    | some (key, e, matchedTokens) =>
      let (e, c) := c.hit key e
      (some ⟨e, key, matchedTokens,
        (inputTokens.length % 2 ^ 32 + (2 ^ 32 - matchedTokens)) % 2 ^ 32⟩, c)
    | none => (none, c.miss)

def getOrFindPrefix (c : PrefixKvCache) (exactKey : B3Hash) (inputTokens : List UInt32)
    (contextDigest tokenizerHash modelIdentityHash : B3Hash) :
    Option PrefixMatchResult × PrefixKvCache :=
  match c.get hash exactKey with
  | (some e, c) => (some (.exactMatch e), c)
  | (none, c) =>
    let (found, c) := c.findLongestPrefixMatch hash inputTokens contextDigest tokenizerHash
      modelIdentityHash 1
    (found.map .prefixMatch, c)

section Eviction

/-- Entries that are not in use, the least recently used first, then by key. -/
def candidates (c : PrefixKvCache) : List (B3Hash × PrefixKvEntry) :=
  (c.entries.items.filter fun p => ¬ p.2.isInUse).insertionSort fun a b =>
    a.2.lastAccessTick < b.2.lastAccessTick ∨
      (a.2.lastAccessTick = b.2.lastAccessTick ∧ a.1 ≤ b.1)

/-- Keys to evict until enough is freed, and how much that frees. -/
def pickVictims (toFree : Nat) : Nat → List (B3Hash × PrefixKvEntry) → List B3Hash × Nat
  | freed, [] => ([], freed)
  | freed, (key, e) :: rest =>
    let freed := wrap64 (freed + e.kvBytes)
    if freed ≥ toFree then ([key], freed)
    else
      let (keys, freed) := pickVictims toFree freed rest
      (key :: keys, freed)

def drop (c : PrefixKvCache) (key : B3Hash) (e : PrefixKvEntry) : PrefixKvCache :=
  { c with
    entries := c.entries.erase key
    usedBytes := wrapSub64 c.usedBytes e.kvBytes
    stats := { c.stats with entryCount := c.stats.entryCount - 1 } }

def syncUsedBytes (c : PrefixKvCache) : PrefixKvCache :=
  { c with stats := { c.stats with usedBytes := c.usedBytes } }

def evict (c : PrefixKvCache) (key : B3Hash) : PrefixKvCache :=
  match c.entries.get? key with
  | some e =>
    let c := c.drop key e
    { c with stats := { c.stats with evictions := c.stats.evictions + 1 } }
  | none => c

def evictUntilFits (c : PrefixKvCache) (neededBytes : Nat) : Except AosError Unit × PrefixKvCache :=
  let available := c.maxBytes - c.usedBytes
  if available ≥ neededBytes then (.ok (), c)
  else
    let toFree := neededBytes - available
    let (keys, freed) := pickVictims toFree 0 c.candidates
    if freed < toFree then
      (.error (.memoryPressure
        s!"Cannot evict enough prefix KV entries: need {toFree} bytes, can free {freed} bytes"), c)
    else (.ok (), (keys.foldl evict c).syncUsedBytes)

end Eviction

/-- Put an entry under its key; the counters always count it as a new one. -/
def store (c : PrefixKvCache) (key : B3Hash) (e : PrefixKvEntry) : PrefixKvCache :=
  { c with
    entries := c.entries.insert key e
    usedBytes := wrap64 (c.usedBytes + e.kvBytes)
    stats := { c.stats with entryCount := c.stats.entryCount + 1 } }

def insert (c : PrefixKvCache) (key : B3Hash) (e : PrefixKvEntry) :
    Except AosError PrefixKvEntry × PrefixKvCache :=
  let entryBytes := e.kvBytes
  let maxBytes := c.maxBytes
  if entryBytes > maxBytes then
    (.error (.validation
      s!"Prefix KV entry ({entryBytes} bytes) exceeds max budget ({maxBytes} bytes)"), c)
  else
    match c.evictUntilFits entryBytes with
    | (.error err, c) => (.error err, c)
    | (.ok _, c) => (.ok e, (c.store key e).syncUsedBytes)

/-- What the single-flight leader runs: look again, without an integrity check, then build. -/
def buildAndCacheEntry (c : PrefixKvCache) (key : B3Hash)
    (builder : Except AosError PrefixKvEntry) : Except String PrefixKvEntry × PrefixKvCache :=
  match c.entries.get? key with
  | some e =>
    let (e, c) := c.hit key e
    (.ok e, c)
  | none =>
    match builder with
    | .error err => (.error err.display, c)
    | .ok e =>
      let (result, c) := c.insert key e
      (result.mapError AosError.display, c)

/-- With nobody else running, the caller is always the leader of its own load. -/
def getOrBuild (c : PrefixKvCache) (key : B3Hash) (builder : Except AosError PrefixKvEntry) :
    Except AosError PrefixKvEntry × PrefixKvCache :=
  match c.get hash key with
  | (some e, c) => (.ok e, c)
  | (none, c) =>
    let (result, c) := c.buildAndCacheEntry key builder
    (result.mapError .lifecycle, c)

def remove (c : PrefixKvCache) (key : B3Hash) : Option PrefixKvEntry × PrefixKvCache :=
  match c.entries.get? key with
  | some e => (some e, (c.drop key e).syncUsedBytes)
  | none => (none, c)

def len (c : PrefixKvCache) : Nat := c.entries.items.length

def clear (c : PrefixKvCache) : PrefixKvCache :=
  { c with
    entries := ∅, usedBytes := 0, currentTick := 0
    stats := { c.stats with entryCount := 0, usedBytes := 0 } }

end PrefixKvCache

end AdapterOS.Kv
