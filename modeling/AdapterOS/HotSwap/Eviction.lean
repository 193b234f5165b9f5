import AdapterOS.HotSwap.Kernels

/-! The hot-swap manager's state, its device calls, and eviction under the cache budget. -/
namespace AdapterOS.HotSwap

open Library

inductive AdapterIntegrityMode where
  | off | warn | enforce
  deriving DecidableEq, Repr

/-- Path components below the file system root. -/
abbrev Path := List String

def Path.display (p : Path) : String := "/" ++ "/".intercalate p

structure HotSwapManager (K : Type*) where
  table : AdapterTable
  kernels : Option K
  repoRoot : Path
  tenantId : String
  integrityMode : AdapterIntegrityMode

def AdapterLoadState.vramBytes (state : AdapterLoadState) : Nat :=
  saturatingMul64 state.vramMb bytesPerMb

namespace AdapterTable

/-- Every adapter state that takes part in the budget: staged ones, then retired ones. -/
def idleStates (t : AdapterTable) : List (AdapterId × AdapterLoadState) :=
  t.staged.items ++ t.retiredStacks.flatMap (·.active.items)

def bytesById (states : List (AdapterId × AdapterLoadState)) : HashMap AdapterId Nat :=
  states.foldl (fun m e =>
    m.insert e.1 (max ((m.get? e.1).getD 0) e.2.vramBytes)) ∅

def adapterCacheBytes (t : AdapterTable) : Nat :=
  (bytesById (t.active.items ++ t.idleStates)).items.foldl (fun sum e => wrap64 (sum + e.2)) 0

/-- Drop the adapter from every retired stack; a stack left empty goes, with its retries. -/
def removeAdapterFromRetired (id : AdapterId) (retired : List Stack) : List Stack :=
  retired.filterMap fun stack =>
    if id ∈ stack.active then
      if (stack.active.erase id).keys = [] then none
      else some ⟨stack.generation, stack.active.erase id⟩
    else some stack

def removedGenerations (id : AdapterId) (retired : List Stack) : List Nat :=
  (retired.filter fun stack => id ∈ stack.active ∧ (stack.active.erase id).keys = []).map
    (·.generation)

/-- The largest size under which an idle adapter is held, zero if it is not held. -/
def idleBytes (t : AdapterTable) (id : AdapterId) : Nat :=
  let staged := ((t.staged.get? id).map AdapterLoadState.vramBytes).getD 0
  t.retiredStacks.foldl (fun bytes stack =>
    max bytes (((stack.active.get? id).map AdapterLoadState.vramBytes).getD 0)) staged

def isPresent (t : AdapterTable) (id : AdapterId) : Bool :=
  id ∈ t.active ∨ id ∈ t.staged ∨ t.retiredStacks.any fun stack => id ∈ stack.active

/-- What eviction takes out of the table once the device has let go of the adapter. -/
def forget (t : AdapterTable) (id : AdapterId) : AdapterTable :=
  let t' := { t with
    staged := t.staged.erase id
    retiredStacks := removeAdapterFromRetired id t.retiredStacks
    retryCounts := t.retryCounts.eraseAll (removedGenerations id t.retiredStacks) }
  if t'.isPresent id then t' else { t' with refcounts := t'.refcounts.erase id }

end AdapterTable

structure AdapterEvictionCandidate where
  adapterId : AdapterId
  loadedAt : Nat
  vramBytes : Nat

structure AdapterEvictionBlockCounts where
  pinned : Nat
  active : Nat

namespace HotSwapManager

variable {K : Type*} (b : Backend K)

def onDevice (m : HotSwapManager K) (call : K → Except AosError Unit × K) :
    Except AosError Unit × HotSwapManager K :=
  match m.kernels with
  | some k => ((call k).1, { m with kernels := some (call k).2 })
  | none => (.ok (), m)

def detach (m : HotSwapManager K) (id : AdapterId) : Except AosError Unit × HotSwapManager K :=
  m.onDevice fun k => b.detachAdapter k (b.slot id)

/-- An active or referenced adapter, or one that holds no memory, is not evicted. -/
def evictAdapterById (m : HotSwapManager K) (id : AdapterId) :
    Except AosError Nat × HotSwapManager K :=
  if id ∈ m.table.active ∨ m.table.refcount id > 0 ∨ m.table.idleBytes id = 0 then (.ok 0, m)
  else
    match m.detach b id with
    | (.error e, m') => (.error e, m')
    | (.ok _, m') => (.ok (m.table.idleBytes id), { m' with table := m'.table.forget id })

/-- One adapter state is considered: blocked, ignored, or merged into its candidate. -/
def consider (t : AdapterTable) (protectedId : Option AdapterId)
    (acc : HashMap AdapterId AdapterEvictionCandidate × AdapterEvictionBlockCounts)
    (e : AdapterId × AdapterLoadState) :
    HashMap AdapterId AdapterEvictionCandidate × AdapterEvictionBlockCounts :=
  if protectedId = some e.1 then acc
  else if e.1 ∈ t.active then (acc.1, { acc.2 with active := acc.2.active + 1 })
  else if t.refcount e.1 > 0 then (acc.1, { acc.2 with pinned := acc.2.pinned + 1 })
  else if e.2.vramBytes = 0 then acc
  else
    match acc.1.get? e.1 with
    | some c =>
      (acc.1.insert e.1 { c with loadedAt := min c.loadedAt e.2.loadedAt
                                 vramBytes := max c.vramBytes e.2.vramBytes }, acc.2)
    | none => (acc.1.insert e.1 ⟨e.1, e.2.loadedAt, e.2.vramBytes⟩, acc.2)

/-- The candidates, oldest first and then by id. -/
def collectEvictionCandidates (t : AdapterTable) (protectedId : Option AdapterId) :
    List AdapterEvictionCandidate × AdapterEvictionBlockCounts :=
  let r := t.idleStates.foldl (consider t protectedId) (∅, ⟨0, 0⟩)
  ((r.1.items.map (·.2)).insertionSort fun x y =>
    x.loadedAt < y.loadedAt ∨ (x.loadedAt = y.loadedAt ∧ x.adapterId ≤ y.adapterId), r.2)

/-- A failed eviction is skipped; the walk ends once enough is freed. -/
def evictCandidates (target : Nat) :
    HotSwapManager K → Nat → List AdapterEvictionCandidate → Nat × HotSwapManager K
  | m, freed, [] => (freed, m)
  | m, freed, c :: cs =>
    if freed ≥ target then (freed, m)
    else
      match m.evictAdapterById b c.adapterId with
      | (.ok bytes, m') => evictCandidates target m' (wrap64 (freed + bytes)) cs
      | (.error _, m') => evictCandidates target m' freed cs

def evictCandidatesForBudget (m : HotSwapManager K) (target : Nat)
    (candidates : List AdapterEvictionCandidate) : Nat × HotSwapManager K :=
  if target = 0 then (0, m) else evictCandidates b target m 0 candidates

def budgetExceededError (needed freed pinned active budget : Nat) : AosError :=
  let neededMb := (needed + bytesPerMb - 1) / bytesPerMb
  let freedMb := freed / bytesPerMb
  let maxMb := budget / bytesPerMb
  .resourceExhaustion s!"Adapter cache budget exceeded: needed {neededMb} MB, freed {freedMb} MB (pinned={pinned}, active={active}), max {maxMb} MB"

def enforceAdapterCacheBudget (m : HotSwapManager K) (needed : Nat)
    (protectedId : Option AdapterId) : Except AosError Unit × HotSwapManager K :=
  match m.table.adapterCacheBudgetBytes with
  | none => (.ok (), m)
  | some budget =>
    if budget = 0 then
      (.error (.validation "Adapter cache budget bytes must be greater than zero"), m)
    else
      let wanted := wrap64 (m.table.adapterCacheBytes + needed)
      if wanted ≤ budget then (.ok (), m)
      else
        let (candidates, blocked) := collectEvictionCandidates m.table protectedId
        let (freed, m') := m.evictCandidatesForBudget b (wanted - budget) candidates
        if wrap64 (m'.table.adapterCacheBytes + needed) > budget then
          (.error (budgetExceededError needed freed blocked.pinned blocked.active budget), m')
        else (.ok (), m')

end HotSwapManager

end AdapterOS.HotSwap
