import AdapterOS.Core.AdapterStore

/-! The double-buffered adapter table and its operations, one whole call at a time. -/
namespace AdapterOS.HotSwap

open Library

inductive LifecycleState where
  | unloaded | loading | loaded | active | unloading | error
  deriving DecidableEq, Repr

/-- Mapped file behind an adapter; a galaxy bundle is shared by several adapters. -/
inductive AdapterBacking where
  | galaxy (path : String)
  | standalone (path : String)
  deriving DecidableEq, Repr

def AdapterBacking.galaxyId : AdapterBacking → Option String
  | .galaxy path => some path
  | .standalone _ => none

structure AdapterLoadState where
  id : AdapterId
  hash : B3Hash
  expectedHash : B3Hash
  vramMb : Nat
  loadedAt : Nat
  active : Bool
  lifecycle : LifecycleState
  backing : Option AdapterBacking
  deriving DecidableEq, Repr

abbrev AdapterMap := HashMap AdapterId AdapterLoadState

structure Stack where
  generation : Nat
  active : AdapterMap

structure AdapterCacheIdentity where
  baseManifestHash : Option B3Hash
  backendType : String
  kernelVersionId : String
  tenantId : Option String
  adapterDirHash : Option B3Hash

structure AdapterTable where
  active : AdapterMap
  staged : AdapterMap
  rollbackState : Option Stack
  currentStack : Nat
  refcounts : HashMap AdapterId Cell
  retiredStacks : List Stack
  retryCounts : HashMap Nat Nat
  store : AdapterStore
  cacheIdentity : AdapterCacheIdentity
  adapterCacheBudgetBytes : Option Nat
  heap : Heap

def asI64 (n : Int) : Int := n.bmod (2 ^ 64)

def notPreloadedError (id : AdapterId) : AosError :=
  .worker s!"Hot-swap aborted: adapter '{id}' was not preloaded into staging. You must preload all adapters before swapping them in. Use the Preload command first with adapter ID and hash."

def vanishedError (id : AdapterId) : AosError :=
  .worker s!"Critical hot-swap error: adapter '{id}' was removed from staging between validation and swap (concurrent modification detected). Swap aborted; active set unchanged."

def zeroVramError (id : AdapterId) : AosError :=
  .worker s!"Adapter preload failed: VRAM estimate is zero for adapter '{id}'. This indicates the adapter weights could not be measured. Check that the .aos file contains valid SafeTensors data."

def noRollbackError : AosError :=
  .worker "Rollback failed: no previous adapter state saved. Cannot revert to earlier configuration. This typically happens when attempting rollback before any successful swap."

namespace AdapterTable

def new (identity : AdapterCacheIdentity) : AdapterTable where
  active := ∅
  staged := ∅
  rollbackState := none
  currentStack := 0
  refcounts := ∅
  retiredStacks := []
  retryCounts := ∅
  store := .new
  cacheIdentity := identity
  adapterCacheBudgetBytes := none
  heap := .empty

def ensureRefcount (t : AdapterTable) (name : AdapterId) : AdapterTable :=
  match t.refcounts.get? name with
  | some _ => t
  | none =>
    { t with refcounts := t.refcounts.insert name t.heap.alloc.1, heap := t.heap.alloc.2 }

def ensureRefcounts (t : AdapterTable) (names : List AdapterId) : AdapterTable :=
  names.foldl ensureRefcount t

/-- An adapter staged earlier keeps its first entry. -/
def stage (t : AdapterTable) (id : AdapterId) (expectedHash hash : B3Hash) (vramMb : Nat)
    (backing : Option AdapterBacking) (now : Nat) : AdapterTable :=
  let state : AdapterLoadState :=
    { id := id, hash := hash, expectedHash := expectedHash, vramMb := vramMb, loadedAt := now,
      active := false, lifecycle := .loaded, backing := backing }
  if id ∈ t.staged then t else { t with staged := t.staged.insert id state }

def preloadWithBacking (t : AdapterTable) (id : AdapterId) (expectedHash hash : B3Hash)
    (vramMb : Nat) (backing : Option AdapterBacking) (now : Nat) :
    Except AosError Unit × AdapterTable :=
  if vramMb = 0 then (.error (zeroVramError id), t)
  else (.ok (), (t.stage id expectedHash hash vramMb backing now).ensureRefcount id)

def preload (t : AdapterTable) (id : AdapterId) (hash : B3Hash) (vramMb : Nat) (now : Nat) :
    Except AosError Unit × AdapterTable :=
  t.preloadWithBacking id hash hash vramMb none now

def stagedExpectedHash (t : AdapterTable) (id : AdapterId) : Option B3Hash :=
  (t.staged.get? id).map (·.expectedHash)

def updateStagedHash (t : AdapterTable) (id : AdapterId) (hash : B3Hash) : AdapterTable :=
  match t.staged.get? id with
  | some state => { t with staged := t.staged.replace id { state with hash := hash } }
  | none => t

def saveRollback (t : AdapterTable) : AdapterTable :=
  { t with rollbackState := some ⟨t.currentStack, t.active⟩ }

/-- The removal loop, with its running VRAM delta. -/
def removeActive : AdapterMap → Int → List AdapterId → AdapterMap × Int
  | active, delta, [] => (active, delta)
  | active, delta, id :: ids =>
    match active.get? id with
    | some adapter => removeActive (active.erase id) (asI64 (delta - asI64 adapter.vramMb)) ids
    | none => removeActive active delta ids

def activate (adapter : AdapterLoadState) : AdapterLoadState :=
  { adapter with active := true, lifecycle := .active }

/-- The addition loop; it stops at an id that has left the staging area. -/
def addStaged (staged : AdapterMap) :
    AdapterMap → Int → Nat → List AdapterId → Except AdapterId (AdapterMap × Int × Nat)
  | active, delta, count, [] => .ok (active, delta, count)
  | active, delta, count, id :: ids =>
    match staged.get? id with
    | some adapter =>
      addStaged staged (active.insert id (activate adapter))
        (asI64 (delta + asI64 adapter.vramMb)) (count + 1) ids
    | none => .error id

def nextActive (active staged : AdapterMap) (addIds removeIds : List AdapterId) :
    Except AdapterId (AdapterMap × Int × Nat) :=
  addStaged staged (removeActive active 0 removeIds).1 (removeActive active 0 removeIds).2 0 addIds

def unstage (t : AdapterTable) (addIds : List AdapterId) : AdapterTable :=
  { t with staged := t.staged.eraseAll (addIds.filter (· ∉ t.active)) }

def cacheKey (t : AdapterTable) (id : AdapterId) (state : AdapterLoadState) : AdapterCacheKey :=
  let key := AdapterCacheKey.new id state.hash t.cacheIdentity.baseManifestHash
    t.cacheIdentity.backendType t.cacheIdentity.kernelVersionId t.cacheIdentity.tenantId
    t.cacheIdentity.adapterDirHash
  match state.backing with
  | some backing => key.withGalaxy backing.galaxyId
  | none => key

def counterOf (t : AdapterTable) (h : Heap) (id : AdapterId) : Cell × Heap :=
  match t.refcounts.get? id with
  | some rc => (rc, h)
  | none => h.alloc

def storeEntries (t : AdapterTable) :
    Heap → List (AdapterId × AdapterLoadState) → List (AdapterCacheKey × AdapterRecord) × Heap
  | h, [] => ([], h)
  | h, (id, state) :: rest =>
    let rc := t.counterOf h id
    let tail := t.storeEntries rc.2 rest
    ((t.cacheKey id state, ⟨state.hash, rc.1⟩) :: tail.1, tail.2)

def commit (t : AdapterTable) (active : AdapterMap) (generation : Nat) : AdapterTable :=
  { t with active := active, currentStack := generation }

def publish (t : AdapterTable) (active : AdapterMap) (generation : Nat) : AdapterTable :=
  let entries := t.storeEntries t.heap active.items
  { t with store := t.store.install generation (HashMap.collect entries.1), heap := entries.2 }

def publishForce (t : AdapterTable) (active : AdapterMap) (generation : Nat) : AdapterTable :=
  let entries := t.storeEntries t.heap active.items
  { t with store := t.store.installForce generation (HashMap.collect entries.1),
           heap := entries.2 }

def retire (t : AdapterTable) (generation : Nat) (active : AdapterMap) : AdapterTable :=
  { t with retiredStacks := t.retiredStacks ++ [⟨generation, active⟩] }

def retireIf (t : AdapterTable) (changed : Bool) (generation : Nat) (active : AdapterMap) :
    AdapterTable :=
  if changed then t.retire generation active else t

/-- Everything a swap does once the new active map is known. -/
def installStack (t : AdapterTable) (active : AdapterMap) : AdapterTable :=
  let generation := t.currentStack + 1
  ((((t.ensureRefcounts active.keys).commit active generation).publish active generation).retireIf
    (t.currentStack ≠ generation) t.currentStack t.active)

def swap (t : AdapterTable) (addIds removeIds : List AdapterId) :
    Except AosError (Int × Nat) × AdapterTable :=
  let saved := t.saveRollback
  match addIds.find? (· ∉ saved.staged) with
  | some id => (.error (notPreloadedError id), saved)
  | none =>
    match nextActive saved.active saved.staged addIds removeIds with
    | .error id => (.error (vanishedError id), saved.unstage addIds)
    | .ok (active, delta, count) => (.ok (delta, count), saved.installStack active)

def restoreStack (t : AdapterTable) (stack : Stack) : AdapterTable :=
  ((t.commit stack.active stack.generation).publishForce stack.active stack.generation).retireIf
    (t.currentStack > stack.generation) t.currentStack t.active

def rollback (t : AdapterTable) : Except AosError Unit × AdapterTable :=
  match t.rollbackState with
  | none => (.error noRollbackError, t)
  | some stack => (.ok (), { t.restoreStack stack with rollbackState := none })

def incRef (t : AdapterTable) (id : AdapterId) : AdapterTable :=
  match t.refcounts.get? id with
  | some rc => { t with heap := t.heap.fetchAdd rc }
  | none => t

def decRef (t : AdapterTable) (id : AdapterId) : Nat × AdapterTable :=
  match t.refcounts.get? id with
  | some rc => (t.heap.load rc - 1, { t with heap := t.heap.fetchSub rc })
  | none => (0, t)

def getCurrentStackHandle (t : AdapterTable) : Stack := ⟨t.currentStack, t.active⟩

def stackPairs (active : AdapterMap) : List (AdapterId × B3Hash) :=
  active.items.map fun e => (e.1, e.2.hash)

def tableStackHash {D : Type*} (hash : ByteArray → D) (t : AdapterTable) : D :=
  computeStackHash hash (stackPairs t.active)

def refcount (t : AdapterTable) (id : AdapterId) : Nat :=
  match t.refcounts.get? id with
  | some rc => t.heap.load rc
  | none => 0

end AdapterTable

/-- The calls of the table that change it, with their arguments. -/
inductive TableOp where
  | preload (id : AdapterId) (hash : B3Hash) (vramMb now : Nat)
  | swap (addIds removeIds : List AdapterId)
  | rollback
  | incRef (id : AdapterId)
  | decRef (id : AdapterId)

def tableStep (t : AdapterTable) : TableOp → AdapterTable
  | .preload id hash vramMb now => (t.preload id hash vramMb now).2
  | .swap addIds removeIds => (t.swap addIds removeIds).2
  | .rollback => t.rollback.2
  | .incRef id => t.incRef id
  | .decRef id => (t.decRef id).2

end AdapterOS.HotSwap
