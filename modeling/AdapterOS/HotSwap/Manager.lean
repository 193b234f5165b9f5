import AdapterOS.HotSwap.Eviction

/-! The manager's commands: preload, swap and rollback, with their error paths. -/
namespace AdapterOS.HotSwap

open Library

inductive AdapterIntegrityReason where
  | missingAdapter | manifestParseFailed | adapterIdMismatch | baseModelMismatch | tierViolation
  | scopeViolation | hashMismatch | verifyTimeout | stackHashMismatch
  deriving DecidableEq, Repr

def AdapterIntegrityReason.asStr : AdapterIntegrityReason → String
  | .missingAdapter => "missing_adapter"
  | .manifestParseFailed => "manifest_parse_failed"
  | .adapterIdMismatch => "adapter_id_mismatch"
  | .baseModelMismatch => "base_model_mismatch"
  | .tierViolation => "tier_violation"
  | .scopeViolation => "scope_violation"
  | .hashMismatch => "hash_mismatch"
  | .verifyTimeout => "verify_timeout"
  | .stackHashMismatch => "stack_hash_mismatch"

structure AdapterIntegrityError where
  adapterId : AdapterId
  reason : AdapterIntegrityReason
  message : String
  expected : Option B3Hash
  actual : Option B3Hash

def shouldRejectIntegrity (mode : AdapterIntegrityMode) (err : AdapterIntegrityError) : Bool :=
  err.reason = .missingAdapter ∨ err.reason = .manifestParseFailed ∨ mode = .enforce

def missingAdapterError (id : AdapterId) (message : String) : AdapterIntegrityError :=
  ⟨id, .missingAdapter, message, none, none⟩

def notStagedError (id : AdapterId) : AdapterIntegrityError :=
  missingAdapterError id s!"Hot-swap aborted: adapter '{id}' was not preloaded into staging"

/-- What the galaxy loader hands out: weights, the parsed manifest or its error, the mapping. -/
structure LoadOutcome where
  payload : ByteArray
  manifest : Except String Unit
  backing : AdapterBacking

inductive MemoryPressureLevel where
  | low | medium | high | critical
  deriving DecidableEq, Repr

/-- What the outside world answers while one command runs. -/
structure Env where
  resolveAdapterFile : AdapterId → Path
  loadAdapter : AdapterId → Except String (Except AosError LoadOutcome)
  verifyOutcome : AdapterId → B3Hash → LoadOutcome → Except AdapterIntegrityError B3Hash
  memory : Option (Nat × MemoryPressureLevel)
  now : Nat

structure MemoryStateEntry where
  id : AdapterId
  vramMb : Nat
  active : Bool

structure MemoryState where
  totalVramMb : Nat
  activeAdapters : List MemoryStateEntry

structure AdapterCommandResult where
  success : Bool
  message : String
  vramDeltaMb : Option Int
  stackHash : Option B3Hash
  memoryState : Option MemoryState
  rejectReason : Option String

inductive AdapterCommand where
  | preload (adapterId : AdapterId) (hash : B3Hash)
  | swap (addIds removeIds : List AdapterId) (expectedStackHash : Option B3Hash)
  | rollback

/-- The two ways a command ends early: with an error, or with a rejection it reports. -/
inductive Halt where
  | fail (err : AosError)
  | reject (err : AdapterIntegrityError) (stackHash : Option B3Hash)

def AdapterTable.totalVramMb (t : AdapterTable) : Nat :=
  t.active.items.foldl (fun sum e => wrap64 (sum + e.2.vramMb)) 0

/-- The stack hash that a swap of these ids would lead to. -/
def AdapterTable.computeStackHashWith (hash : ByteArray → B3Hash) (t : AdapterTable)
    (addIds removeIds : List AdapterId) : Except AdapterIntegrityError B3Hash :=
  let entries := HashMap.collect (AdapterTable.stackPairs t.active)
  let added := addIds.foldlM (fun (m : HashMap AdapterId B3Hash) id =>
    match t.staged.get? id with
    | some state => Except.ok (m.insert id state.hash)
    | none => .error (notStagedError id)) (entries.eraseAll removeIds)
  added.map fun m => computeStackHash hash m.items

def AdapterTable.stagedAddsForSwap (t : AdapterTable) (addIds : List AdapterId) :
    List AdapterId :=
  addIds.eraseDups.filter fun id => id ∈ t.staged ∧ id ∉ t.active

def drainTimeoutError (t : AdapterTable) (ids : List AdapterId) : AosError :=
  let busy := ids.filter fun id => t.refcount id > 0
  let count := busy.length
  let list := ", ".intercalate (busy.map fun id =>
    let refs := t.refcount id
    s!"'{id}' ({refs} refs)")
  .worker s!"Hot-swap blocked: {count} adapter(s) still have active inference requests after 2s timeout. Adapters in use: {list}. Wait for requests to complete or increase timeout."

def AdapterTable.waitForZeroRefs (t : AdapterTable) (ids : List AdapterId) :
    Except AosError Unit :=
  if ids.all fun id => t.refcount id = 0 then .ok () else .error (drainTimeoutError t ids)

namespace HotSwapManager

variable {K : Type*} (b : Backend K) (env : Env)

def newWithKernels (identity : AdapterCacheIdentity) (kernels : K) (repoRoot : Path)
    (tenantId : String) (integrityMode : AdapterIntegrityMode) : HotSwapManager K :=
  ⟨.new identity, some kernels, repoRoot, tenantId, integrityMode⟩

def setAdapterCacheBudgetBytes (m : HotSwapManager K) (budget : Option Nat) : HotSwapManager K :=
  { m with table := { m.table with adapterCacheBudgetBytes := budget } }

def memoryState (m : HotSwapManager K) : MemoryState :=
  ⟨m.table.totalVramMb,
    m.table.active.items.map fun e => ⟨e.2.id, e.2.vramMb, e.2.active⟩⟩

def rejectionResult (m : HotSwapManager K) (err : AdapterIntegrityError)
    (stackHash : Option B3Hash) : AdapterCommandResult :=
  ⟨false, err.message, none, stackHash, some m.memoryState, some err.reason.asStr⟩

def tenantRoot (m : HotSwapManager K) : Path := m.repoRoot ++ [m.tenantId]

def isolationError (m : HotSwapManager K) (path : Path) : AosError :=
  let shown := path.display
  let root := Path.display m.tenantRoot
  .isolationViolation s!"Tenant isolation violation: adapter path '{shown}' is outside tenant root '{root}'. This is a security violation - adapters must reside within their tenant's directory."

def fileNotFoundText (id : AdapterId) (path : Path) : String :=
  let shown := path.display
  s!"Adapter file not found for '{id}' at '{shown}'"

/-- The adapter file is read only for a device or for verification. -/
def loadOutcome (m : HotSwapManager K) (id : AdapterId) (hash : B3Hash) :
    Except Halt (Option LoadOutcome) :=
  if m.kernels.isSome ∨ m.integrityMode ≠ .off then
    match env.loadAdapter id with
    | .error e =>
      .error (.fail (.worker s!"Adapter preload failed: galaxy loader join error: {e}"))
    | .ok (.error (.notFound _)) =>
      .error (.reject ⟨id, .missingAdapter, fileNotFoundText id (env.resolveAdapterFile id),
        some hash, none⟩ none)
    | .ok (.error e) => .error (.fail e)
    | .ok (.ok outcome) => .ok (some outcome)
  else .ok none

def manifestError (id : AdapterId) (e : String) : AdapterIntegrityError :=
  let path := (env.resolveAdapterFile id).display
  ⟨id, .manifestParseFailed, s!"Adapter manifest parse failed for '{path}': {e}", none, none⟩

/-- The hash to record: the verified one, the one found, or the requested one. -/
def observedHash (m : HotSwapManager K) (id : AdapterId) (hash : B3Hash)
    (outcome : Option LoadOutcome) : Except Halt B3Hash :=
  match m.integrityMode, outcome with
  | .off, none => .ok hash
  | .off, some o =>
    match o.manifest with
    | .ok _ => .ok hash
    | .error e => .error (.reject (manifestError env id e) none)
  | _, none => .error (.fail (.worker
      "Adapter preload failed: integrity verification requires adapter load outcome"))
  | mode, some o =>
    match env.verifyOutcome id hash o with
    | .ok weightsHash => .ok weightsHash
    | .error err =>
      if shouldRejectIntegrity mode err then .error (.reject err none)
      else .ok (err.actual.getD hash)

def insufficientVramError (id : AdapterId) (estimated available : Nat) : AosError :=
  .memoryPressure s!"Adapter preload blocked: insufficient VRAM for adapter '{id}'. Requires ~{estimated}MB but only {available}MB available. Unload other adapters or reduce active adapter count."

def criticalPressureError (id : AdapterId) (estimated : Nat) : AosError :=
  .memoryPressure s!"Adapter preload blocked: critical memory pressure detected. Cannot load adapter '{id}' (requires ~{estimated}MB). System is under severe memory stress. Wait for memory to free up or terminate other processes."

def checkMemory (id : AdapterId) (estimated : Nat) : Except AosError Unit :=
  match env.memory with
  | none => .ok ()
  | some (available, pressure) =>
    if estimated > available then .error (insufficientVramError id estimated available)
    else if pressure = .critical then .error (criticalPressureError id estimated)
    else .ok ()

/-- Load and attach the adapter on the device; a failing call is undone by a detach. -/
def loadAndAttach (m : HotSwapManager K) (id : AdapterId) (weights : ByteArray) :
    Except AosError Unit × HotSwapManager K :=
  match m.onDevice fun k => b.loadAdapter k (b.slot id) weights with
  | (.error e, m') => (.error e, (m'.detach b id).2)
  | (.ok _, m') =>
    match m'.onDevice fun k => b.attachAdapter k (b.slot id) with
    | (.error e, m'') => (.error e, (m''.detach b id).2)
    | (.ok _, m'') => (.ok (), m'')

/-- The size the device reports, or the estimate when it reports none. -/
def measuredVramMb (m : HotSwapManager K) (id : AdapterId) (estimated : Nat) : Nat :=
  match m.kernels with
  | some k =>
    match b.verifyAdapterBuffers k (b.slot id) with
    | .ok size => max (size / bytesPerMb) 1
    | .error _ => estimated
  | none => estimated

def alreadyLoaded (m : HotSwapManager K) (id : AdapterId) : Bool := m.table.isPresent id

/-- The device part of a preload: make room, check memory, load. Without a device the size is
a mock value. -/
def loadWeights (m : HotSwapManager K) (id : AdapterId) (outcome : Option LoadOutcome) :
    Except Halt (Nat × Option AdapterBacking) × HotSwapManager K :=
  match m.kernels, outcome with
  | none, _ => (.ok (24, none), m)
  | some _, none =>
    (.error (.fail (.worker "Adapter preload failed: missing adapter load outcome")), m)
  | some _, some o =>
    match o.manifest with
    | .error e => (.error (.reject (manifestError env id e) none), m)
    | .ok _ =>
      let estimated := max (o.payload.size / bytesPerMb) 1
      let needed := if m.alreadyLoaded id then 0 else saturatingMul64 estimated bytesPerMb
      match m.enforceAdapterCacheBudget b needed (some id) with
      | (.error e, m₁) => (.error (.fail e), m₁)
      | (.ok _, m₁) =>
        match checkMemory env id estimated with
        | .error e => (.error (.fail e), m₁)
        | .ok _ =>
          match m₁.loadAndAttach b id o.payload with
          | (.error e, m₂) => (.error (.fail e), m₂)
          | (.ok _, m₂) => (.ok (m₂.measuredVramMb b id estimated, some o.backing), m₂)

/-- The table part of a preload, with the cleanup after a refusal or an exceeded budget. -/
def registerPreload (m : HotSwapManager K) (id : AdapterId) (hash observed : B3Hash)
    (vramMb : Nat) (backing : Option AdapterBacking) :
    Except AosError Unit × HotSwapManager K :=
  match m.table.preloadWithBacking id hash observed vramMb backing env.now with
  | (.error e, t) =>
    let m' := ({ m with table := t }.detach b id).2
    (.error e, { m' with table := { m'.table with staged := m'.table.staged.erase id
                                                  refcounts := m'.table.refcounts.erase id } })
  | (.ok _, t) =>
    match { m with table := t }.enforceAdapterCacheBudget b 0 (some id) with
    | (.error e, m') => (.error e, (m'.evictAdapterById b id).2)
    | (.ok _, m') => (.ok (), m')

def preload (m : HotSwapManager K) (id : AdapterId) (hash : B3Hash) :
    Except Halt AdapterCommandResult × HotSwapManager K :=
  let path := env.resolveAdapterFile id
  if ¬ m.tenantRoot <+: path then (.error (.fail (m.isolationError path)), m)
  else
    match m.loadOutcome env id hash with
    | .error h => (.error h, m)
    | .ok outcome =>
      match m.observedHash env id hash outcome with
      | .error h => (.error h, m)
      | .ok observed =>
        match m.loadWeights b env id outcome with
        | (.error h, m₁) => (.error h, m₁)
        | (.ok (vramMb, backing), m₁) =>
          match m₁.registerPreload b env id hash observed vramMb backing with
          | (.error e, m₂) => (.error (.fail e), m₂)
          | (.ok _, m₂) => (.ok ⟨true, s!"Preloaded adapter: {id}", some (asI64 vramMb), none,
              some m₂.memoryState, none⟩, m₂)

/-- Verification of the ids to add; each one found is recorded in the staging area. -/
def verifyAddIdsForSwap (m : HotSwapManager K) :
    List AdapterId → Except AdapterIntegrityError Unit × HotSwapManager K
  | [] => (.ok (), m)
  | id :: ids =>
    match m.table.stagedExpectedHash id with
    | none => (.error (notStagedError id), m)
    | some expected =>
      match env.loadAdapter id with
      | .error e => (.error ⟨id, .manifestParseFailed,
          s!"Adapter verification task failed: {e}", none, none⟩, m)
      | .ok (.error (.notFound _)) =>
        (.error (missingAdapterError id (fileNotFoundText id (env.resolveAdapterFile id))), m)
      | .ok (.error e) => (.error ⟨id, .manifestParseFailed,
          "Adapter verification load failed: " ++ e.display, none, none⟩, m)
      | .ok (.ok outcome) =>
        match env.verifyOutcome id expected outcome with
        | .ok weightsHash =>
          verifyAddIdsForSwap { m with table := m.table.updateStagedHash id weightsHash } ids
        | .error err =>
          let m' := match err.actual with
            | some actual => { m with table := m.table.updateStagedHash id actual }
            | none => m
          if shouldRejectIntegrity m.integrityMode err then (.error err, m')
          else verifyAddIdsForSwap m' ids

def stackHashMismatchError (expected predicted : B3Hash) : AdapterIntegrityError :=
  let shown := B3Hash.toHex expected
  let got := B3Hash.toHex predicted
  ⟨"stack", .stackHashMismatch, s!"Adapter stack hash mismatch: expected {shown}, got {got}",
    some expected, some predicted⟩

def checkStackHash (m : HotSwapManager K) (addIds removeIds : List AdapterId)
    (expectedStackHash : Option B3Hash) : Except AdapterIntegrityError Unit :=
  match expectedStackHash with
  | none => .ok ()
  | some expected =>
    match m.table.computeStackHashWith b.hash addIds removeIds with
    | .error err => .error err
    | .ok predicted =>
      if predicted ≠ expected then .error (stackHashMismatchError expected predicted)
      else .ok ()

def checkSwapIntegrity (m : HotSwapManager K) (addIds removeIds : List AdapterId)
    (expectedStackHash : Option B3Hash) :
    Except AdapterIntegrityError Unit × HotSwapManager K :=
  match addIds.find? fun id => (m.table.stagedExpectedHash id).isNone with
  | some missing => (.error (notStagedError missing), m)
  | none =>
    if m.integrityMode ≠ .off ∨ expectedStackHash.isSome then
      match m.verifyAddIdsForSwap env addIds with
      | (.error err, m') => (.error err, m')
      | (.ok _, m') => (m'.checkStackHash b addIds removeIds expectedStackHash, m')
    else (.ok (), m)

def detachEach (m : HotSwapManager K) (ids : List AdapterId) : HotSwapManager K :=
  ids.foldl (fun m id => (m.detach b id).2) m

/-- The staged adapters of a failed swap leave the device, the staging area and the counters. -/
def cleanupStagedOnFailure (m : HotSwapManager K) (addIds : List AdapterId) : HotSwapManager K :=
  let stagedAdds := m.table.stagedAddsForSwap addIds
  let m' := m.detachEach b stagedAdds
  { m' with table := { m'.table with
      staged := m'.table.staged.eraseAll stagedAdds
      refcounts := m'.table.refcounts.eraseAll stagedAdds } }

/-- Attach in order, up to the first failure. -/
def attachEach : HotSwapManager K → List AdapterId → Except AosError Unit × HotSwapManager K
  | m, [] => (.ok (), m)
  | m, id :: ids =>
    match m.onDevice fun k => b.attachAdapter k (b.slot id) with
    | (.error e, m') => (.error e, m')
    | (.ok _, m') => attachEach m' ids

def attachStagedForSwap (m : HotSwapManager K) (addIds : List AdapterId) :
    Except AosError Unit × HotSwapManager K :=
  attachEach b m (m.table.stagedAddsForSwap addIds)

def detachRemovedAfterSwap (m : HotSwapManager K) (removeIds : List AdapterId) :
    HotSwapManager K :=
  m.detachEach b (removeIds.eraseDups.filter fun id => id ∉ m.table.active)

/-- A stack of just the one added adapter lets the device switch in place. -/
def hintSwitchAdapterAfterSwap (m : HotSwapManager K) (addIds : List AdapterId) :
    HotSwapManager K :=
  match addIds with
  | [id] =>
    if m.table.active.keys.length = 1 ∧ id ∈ m.table.active then
      (m.onDevice fun k => b.switchAdapter k (b.slot id)).2
    else m
  | _ => m

def swappedText (addIds removeIds : List AdapterId) : String :=
  let added := ", ".intercalate (addIds.map String.quote)
  let removed := ", ".intercalate (removeIds.map String.quote)
  s!"Swapped: +[{added}] / -[{removed}]"

/-- The table swap and the device calls after it. -/
def commitSwap (m : HotSwapManager K) (addIds removeIds : List AdapterId) :
    Except AosError Int × HotSwapManager K :=
  match m.table.swap addIds removeIds with
  | (.error e, t) => (.error e, { m with table := t }.cleanupStagedOnFailure b addIds)
  | (.ok (delta, _), t) =>
    (.ok delta, ({ m with table := t }.detachRemovedAfterSwap b removeIds).hintSwitchAdapterAfterSwap
      b addIds)

def swap (m : HotSwapManager K) (addIds removeIds : List AdapterId)
    (expectedStackHash : Option B3Hash) : Except Halt AdapterCommandResult × HotSwapManager K :=
  match m.checkSwapIntegrity b env addIds removeIds expectedStackHash with
  | (.error err, m₁) => (.error (.reject err err.actual), m₁.cleanupStagedOnFailure b addIds)
  | (.ok _, m₁) =>
    match if removeIds = [] then .ok () else m₁.table.waitForZeroRefs removeIds with
    | .error e => (.error (.fail e), m₁.cleanupStagedOnFailure b addIds)
    | .ok _ =>
      match m₁.attachStagedForSwap b addIds with
      | (.error e, m₂) => (.error (.fail e), m₂.cleanupStagedOnFailure b addIds)
      | (.ok _, m₂) =>
        match m₂.commitSwap b addIds removeIds with
        | (.error e, m₃) => (.error (.fail e), m₃)
        | (.ok delta, m₃) => (.ok ⟨true, swappedText addIds removeIds, some delta,
            some (m₃.table.tableStackHash b.hash), some m₃.memoryState, none⟩, m₃)

def rollback (m : HotSwapManager K) : Except Halt AdapterCommandResult × HotSwapManager K :=
  match m.table.rollback with
  | (.error e, t) => (.error (.fail e), { m with table := t })
  | (.ok _, t) =>
    let m' := { m with table := t }
    (.ok ⟨true, "Rolled back to last verified state", none, some (t.tableStackHash b.hash),
      some m'.memoryState, none⟩, m')

def dispatch (m : HotSwapManager K) : AdapterCommand →
    Except Halt AdapterCommandResult × HotSwapManager K
  | .preload id hash => m.preload b env id hash
  | .swap addIds removeIds expectedStackHash => m.swap b env addIds removeIds expectedStackHash
  | .rollback => m.rollback b

/-- Execute a command; a rejection is reported as a result without success. -/
def execute (m : HotSwapManager K) (command : AdapterCommand) :
    Except AosError AdapterCommandResult × HotSwapManager K :=
  match m.dispatch b env command with
  | (.ok result, m') => (.ok result, m')
  | (.error (.fail e), m') => (.error e, m')
  | (.error (.reject err stackHash), m') => (.ok (m'.rejectionResult err stackHash), m')

end HotSwapManager

def testEnv : Env where
  resolveAdapterFile id := ["repo", "tenant", id]
  loadAdapter id := .ok (.ok ⟨⟨#[]⟩, .ok (), .standalone id⟩)
  verifyOutcome _ hash _ := .ok hash
  memory := none
  now := 0

end AdapterOS.HotSwap
