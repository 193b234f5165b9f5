import AdapterOS.Lifecycle.HeatState
import Mathlib.Data.List.Infix

/-! The lifecycle manager: the operations that move adapters between heat states, each with its own
checks. What the database and the telemetry answer to a call is part of the call. -/
namespace AdapterOS.Lifecycle

open Library

structure LifecycleManager (F : Type*) where
  states : HashMap UInt16 AdapterHeatRecord
  policy : LifecyclePolicy F
  /-- The adapters that the loader has in memory. -/
  loaded : HashSet UInt16
  currentK : Nat
  activationTracker : ActivationTracker F

/-- What the consistency check of an adapter's rows says. -/
inductive Readiness where
  | ready
  | failed (err : AosError)
  | blocked (message : Option String)

/-- What a call meets: the clock, the order in which the states are walked, and what fails.
Without a database or telemetry nothing fails. -/
structure Outcomes where
  now : SystemTime
  order : Iteration (UInt16 × AdapterHeatRecord) := .asListed
  readiness : Readiness := .ready
  pool : Option AosError := none
  persist : Option String := none
  /-- For the events of the call in their order. -/
  telemetry : Nat → Option AosError := fun _ => none

namespace Outcomes

variable (o : Outcomes)

def ensureSqlKvReady (adapterId : String) : Except AosError Unit :=
  match o.readiness with
  | .ready => .ok ()
  | .failed err => .error err
  | .blocked message =>
    .error (.validation ("Adapter " ++ adapterId ++ " blocked: " ++
      message.getD "KV consistency check failed"))

def poolResult : Except AosError Unit :=
  match o.pool with
  | some err => .error err
  | none => .ok ()

def persisted (failure : String) : Except AosError Unit :=
  match o.persist with
  | some err => .error (.database (failure ++ err))
  | none => .ok ()

def log (n : Nat) : Except AosError Unit :=
  match o.telemetry n with
  | some err => .error err
  | none => .ok ()

end Outcomes

def notFound (id : UInt16) : AosError :=
  .lifecycle ("Adapter " ++ toString id.toNat ++ " not found")

/-- `AdapterLoader::unload_adapter`. -/
def unloadAdapter (loaded : HashSet UInt16) (id : UInt16) :
    HashSet UInt16 × Except AosError Unit :=
  match loaded.get? id with
  | some _ => (loaded.erase id, .ok ())
  | none => (loaded, .error (.lifecycle ("Adapter " ++ toString id.toNat ++ " not loaded")))

def saysNotLoaded (err : AosError) : Bool := decide ("not loaded".toList <:+: err.display.toList)

namespace LifecycleManager

variable {F : Type*} (m : LifecycleManager F) (id : UInt16) (o : Outcomes)

def put (r : AdapterHeatRecord) : LifecycleManager F := { m with states := m.states.insert id r }

/-- Once every check has passed, the record is replaced, and telemetry may still fail. -/
def commit (checked : Except AosError AdapterHeatRecord) :
    LifecycleManager F × Except AosError Unit :=
  match checked with
  | .error err => (m, .error err)
  | .ok r => (m.put id r, o.log 0)

section Manual

def find : Except AosError AdapterHeatRecord :=
  match m.states.get? id with
  | some r => .ok r
  | none => .error (notFound id)

def pinChecks : Except AosError AdapterHeatRecord := do
  let r ← m.find id
  o.ensureSqlKvReady r.adapterId
  o.poolResult
  o.persisted "Failed to persist adapter pin: "
  return r.pin

def pinAdapter : LifecycleManager F × Except AosError Unit := m.commit id o (m.pinChecks id o)

def unpinChecks : Except AosError AdapterHeatRecord := do
  let r ← m.find id
  o.ensureSqlKvReady r.adapterId
  o.poolResult
  o.persisted "Failed to remove adapter pin: "
  return r.unpin

def unpinAdapter : LifecycleManager F × Except AosError Unit :=
  match m.unpinChecks id o with
  | .error err => (m, .error err)
  | .ok r => (m.put id r, .ok ())

/-- The state a promotion leads to. -/
def promotion (r : AdapterHeatRecord) : Except AosError AdapterHeatState :=
  if !r.state.canPromote r.category then
    .error (.lifecycle ("Cannot promote adapter " ++ r.adapterId ++ " from " ++ r.state.display ++
      " (category: " ++ r.category ++ ")"))
  else
    match r.state.promote with
    | some state => .ok state
    | none =>
      .error (.lifecycle ("Cannot promote adapter " ++ r.adapterId ++ " from " ++ r.state.display))

def promoteAdapter : LifecycleManager F × Except AosError Unit :=
  m.commit id o do
    let r ← m.find id
    let state ← promotion r
    o.ensureSqlKvReady r.adapterId
    o.persisted "Failed to persist adapter promotion: "
    return { r with state }

/-- The state a demotion leads to; a pinned adapter is not demoted. -/
def demotion (now : SystemTime) (r : AdapterHeatRecord) : Except AosError AdapterHeatState :=
  if r.pinned then .error (.lifecycle ("Cannot demote pinned adapter " ++ r.adapterId))
  else if !r.demotable now then
    .error (.lifecycle ("Cannot demote adapter " ++ r.adapterId ++ " from " ++ r.state.display ++
      " (not enough time since last activation)"))
  else
    match r.state.demote with
    | some state => .ok state
    | none =>
      .error (.lifecycle ("Cannot demote adapter " ++ r.adapterId ++ " from " ++ r.state.display))

def demoteAdapter : LifecycleManager F × Except AosError Unit :=
  m.commit id o do
    let r ← m.find id
    let state ← demotion o.now r
    o.ensureSqlKvReady r.adapterId
    o.persisted "Failed to persist adapter demotion: "
    return { r with state }

end Manual

section Automatic

/-- An adapter that is not there is no error. -/
def updateAdapterState (state : AdapterHeatState) : LifecycleManager F × Except AosError Unit :=
  match m.states.get? id with
  | none => (m, .ok ())
  | some r =>
    match o.persisted "Failed to persist adapter state update: " with
    | .error err => (m, .error err)
    | .ok () => (m.put id { r with state }, o.log 0)

def nextAutoPromotion : Option AdapterHeatState :=
  match m.states.get? id with
  | none => none
  | some r => if r.state.canPromote r.category then r.state.promote else none

def autoPromoteAdapter : LifecycleManager F × Except AosError Unit :=
  match m.nextAutoPromotion id with
  | some state => m.updateAdapterState id o state
  | none => (m, .ok ())

/-- Unlike the manual demotion this one asks only for an activation, and not whether the adapter is
pinned. -/
def nextAutoDemotion (now : SystemTime) : Option AdapterHeatState :=
  match m.states.get? id with
  | none => none
  | some r =>
    match r.lastActivated with
    | none => none
    | some last =>
      if r.state.shouldDemote r.category (elapsed now last) then r.state.demote else none

def autoDemoteAdapter : LifecycleManager F × Except AosError Unit :=
  match m.nextAutoDemotion id o.now with
  | some state => m.updateAdapterState id o state
  | none => (m, .ok ())

def recordAdapterActivation : LifecycleManager F × Except AosError Unit :=
  match m.states.get? id with
  | none => (m, .ok ())
  | some r =>
    match o.poolResult with
    | .error err => (m.put id (r.recordActivation o.now), .error err)
    | .ok () => (m.put id (r.recordActivation o.now), o.log 0)

end Automatic

section Eviction

/-- The event of an eviction is the `n`th of the call. -/
def evictAdapter (n : Nat) : LifecycleManager F × Except AosError Unit :=
  match m.states.get? id with
  | none => (m, .ok ())
  | some r =>
    if r.pinned then (m, .error (.lifecycle ("Cannot evict pinned adapter: " ++ r.adapterId)))
    else
      let evicted := { m with loaded := (unloadAdapter m.loaded id).1 }.put id
        { r with state := .unloaded, memoryBytes := 0 }
      match (unloadAdapter m.loaded id).2 with
      | .ok () => (evicted, o.log n)
      | .error err => if saysNotLoaded err then (evicted, o.log n) else (m, .error err)

structure ActivationUpdate (F : Type*) where
  adapterIdx : UInt16
  state : AdapterHeatState
  pinned : Bool
  pct : F

def activationUpdates (changed : List (UInt16 × F)) : List (ActivationUpdate F) :=
  changed.filterMap fun e =>
    (m.states.get? e.1).map fun r => ⟨e.1, r.state, r.pinned, e.2⟩

/-- Adapters that are hardly used go; one that cannot be evicted is passed over. -/
def evictIdle (ops : PctOps F) (o : Outcomes) :
    Nat → List (ActivationUpdate F) → LifecycleManager F → LifecycleManager F
  | _, [], m => m
  | n, u :: rest, m =>
    if ops.lt u.pct m.policy.minActivationPct && u.state.isLoaded && !u.pinned then
      evictIdle ops o (n + 1) rest (m.evictAdapter u.adapterIdx o n).1
    else evictIdle ops o (n + 1) rest m

def recordRouterDecision (ops : PctOps F) (selected : List UInt16) :
    LifecycleManager F × Except AosError Unit :=
  let (tracker, changed) := m.activationTracker.recordDecision ops selected
  let m := { m with activationTracker := tracker }
  (evictIdle ops o 0 (m.activationUpdates changed) m, .ok ())

def named (name : String) : Option UInt16 :=
  ((o.order.visit m.states.items).find? fun e => e.2.adapterId = name).map Prod.fst

/-- One adapter is promoted or demoted by its metrics; pinned ones are skipped. -/
def evaluateOne (ops : PctOps F) (n : Nat) (metric : AdapterMetrics F) :
    LifecycleManager F × Except AosError Unit :=
  match m.named o metric.adapterId with
  | none => (m, .ok ())
  | some id =>
    match m.states.get? id with
    | none => (m, .ok ())
    | some r =>
      if r.pinned then (m, .ok ())
      else if m.policy.shouldPromote ops metric then
        if r.promote.2 then (m.put id r.promote.1, o.log n) else (m, .ok ())
      else if m.policy.shouldDemote ops metric then
        if (r.demote o.now).2 then (m.put id (r.demote o.now).1, o.log n) else (m, .ok ())
      else (m, .ok ())

def evaluateFrom (ops : PctOps F) (o : Outcomes) :
    Nat → List (AdapterMetrics F) → LifecycleManager F → LifecycleManager F × Except AosError Unit
  | _, [], m => (m, .ok ())
  | n, metric :: rest, m =>
    match m.evaluateOne o ops n metric with
    | (m', .ok ()) => evaluateFrom ops o (n + 1) rest m'
    | (m', .error err) => (m', .error err)

def evaluateTransitions (ops : PctOps F) (metrics : List (AdapterMetrics F)) :
    LifecycleManager F × Except AosError Unit :=
  evaluateFrom ops o 0 metrics m

/-- Four events are logged around a reduction, two where there is none. -/
def reduceK : LifecycleManager F × Except AosError Unit :=
  match o.log 0 with
  | .error err => (m, .error err)
  | .ok () =>
    if 1 < m.currentK then
      match o.log 1 with
      | .error err => (m, .error err)
      | .ok () =>
        ({ m with currentK := m.currentK - 1 },
          match o.log 2 with
          | .error err => .error err
          | .ok () => o.log 3)
    else
      match o.log 1 with
      | .error err => (m, .error err)
      | .ok () => (m, .error (.memoryPressure "Cannot reduce K below 1"))

/-- The unpinned adapters with their metrics, the least used first. -/
def pressureCandidates (ops : PctOps F) (metrics : List (AdapterMetrics F)) :
    List (UInt16 × AdapterMetrics F) :=
  ((o.order.visit m.states.items).filterMap fun e =>
    if e.2.pinned then none
    else (metrics.find? fun metric => metric.adapterId = e.2.adapterId).map (e.1, ·)).mergeSort
    fun a b => !ops.lt b.2.activationPct a.2.activationPct

/-- The first candidate that is cold or hardly used is evicted; without one the router is
narrowed. -/
def relieve (ops : PctOps F) (o : Outcomes) :
    List (UInt16 × AdapterMetrics F) → LifecycleManager F →
      LifecycleManager F × Except AosError Unit
  | [], m => m.reduceK o
  | (id, metric) :: rest, m =>
    match m.states.get? id with
    | none => relieve ops o rest m
    | some r =>
      if r.state = .cold ∨ m.policy.shouldEvict ops metric then
        let evicted := m.put id { r with state := .unloaded, memoryBytes := 0 }
        match o.log 0 with
        | .error err => (evicted, .error err)
        | .ok () =>
          ({ evicted with loaded := (unloadAdapter m.loaded id).1 }, (unloadAdapter m.loaded id).2)
      else relieve ops o rest m

def handleMemoryPressure (ops : PctOps F) (metrics : List (AdapterMetrics F)) :
    LifecycleManager F × Except AosError Unit :=
  relieve ops o (m.pressureCandidates o ops metrics) m

end Eviction

end LifecycleManager

inductive Call (F : Type*) where
  | pinAdapter (id : UInt16)
  | unpinAdapter (id : UInt16)
  | promoteAdapter (id : UInt16)
  | demoteAdapter (id : UInt16)
  | autoPromoteAdapter (id : UInt16)
  | autoDemoteAdapter (id : UInt16)
  | recordAdapterActivation (id : UInt16)
  | recordRouterDecision (selected : List UInt16)
  | evaluateTransitions (metrics : List (AdapterMetrics F))
  | handleMemoryPressure (metrics : List (AdapterMetrics F))
  | evictAdapter (id : UInt16)

namespace LifecycleManager

variable {F : Type*} (ops : PctOps F)

def perform (m : LifecycleManager F) (o : Outcomes) :
    Call F → LifecycleManager F × Except AosError Unit
  | .pinAdapter id => m.pinAdapter id o
  | .unpinAdapter id => m.unpinAdapter id o
  | .promoteAdapter id => m.promoteAdapter id o
  | .demoteAdapter id => m.demoteAdapter id o
  | .autoPromoteAdapter id => m.autoPromoteAdapter id o
  | .autoDemoteAdapter id => m.autoDemoteAdapter id o
  | .recordAdapterActivation id => m.recordAdapterActivation id o
  | .recordRouterDecision selected => m.recordRouterDecision o ops selected
  | .evaluateTransitions metrics => m.evaluateTransitions o ops metrics
  | .handleMemoryPressure metrics => m.handleMemoryPressure o ops metrics
  | .evictAdapter id => m.evictAdapter id o 0

def step (m : LifecycleManager F) (c : Call F × Outcomes) : LifecycleManager F :=
  (m.perform ops c.2 c.1).1

end LifecycleManager

end AdapterOS.Lifecycle
