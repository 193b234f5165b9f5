import AdapterOS.Lifecycle.PinSafety

/-! Reducing K: the coordinator judges a request against the adapters' records, and the manager
evicts what it names, or takes the evictions back. -/
namespace AdapterOS.Lifecycle

open Library

structure KReductionRequest (F : Type*) where
  requestId : String
  targetK : Nat
  currentK : Nat
  pressureLevel : F

def KReductionRequest.isValid {F : Type*} (request : KReductionRequest F) : Bool :=
  decide (0 < request.targetK) && decide (request.targetK < request.currentK)

structure KReductionResponse where
  requestId : String
  approved : Bool
  newK : Nat
  adaptersToUnload : List UInt16
  reason : String
  estimatedFreed : Nat
  deriving DecidableEq

def KReductionResponse.approve (requestId : String) (newK : Nat) (adaptersToUnload : List UInt16)
    (estimatedFreed : Nat) (reason : String) : KReductionResponse :=
  ⟨requestId, true, newK, adaptersToUnload, reason, estimatedFreed⟩

def KReductionResponse.reject (requestId : String) (currentK : Nat) (reason : String) :
    KReductionResponse :=
  ⟨requestId, false, currentK, [], reason, 0⟩

structure LifecycleKReductionCoordinator (F : Type*) where
  currentK : Nat
  minK : Nat
  criticalPressureThreshold : F

namespace LifecycleKReductionCoordinator

variable {F : Type*} (ops : PctOps F) (render : F → String)
  (order : Iteration (UInt16 × AdapterHeatRecord))

/-- The least activated adapters, without the pinned and the resident ones. -/
def selectAdaptersForUnload (targetK currentK : Nat) (states : HashMap UInt16 AdapterHeatRecord) :
    List UInt16 :=
  (((sortBy (fun e => e.2.activationCount.toNat) (order.visit states.items)).filter
    fun e => !e.2.pinned && e.2.state ≠ .resident).take (currentK - targetK)).map Prod.fst

/-- The request's own idea of K is the one that counts; the coordinator's is only handed back.
`render` writes a number with two decimals. -/
def evaluateRequest (coordinator : LifecycleKReductionCoordinator F) (request : KReductionRequest F)
    (states : HashMap UInt16 AdapterHeatRecord) : KReductionResponse :=
  if !request.isValid then
    .reject request.requestId coordinator.currentK
      "Invalid K reduction request: target >= current"
  else if request.targetK < coordinator.minK then
    .reject request.requestId coordinator.currentK
      ("Target K (" ++ toString request.targetK ++ ") below minimum K (" ++
        toString coordinator.minK ++ ")")
  else if ops.lt request.pressureLevel coordinator.criticalPressureThreshold then
    .reject request.requestId coordinator.currentK
      ("Pressure level " ++ render request.pressureLevel ++ " below critical threshold " ++
        render coordinator.criticalPressureThreshold)
  else
    let adapters := selectAdaptersForUnload order request.targetK request.currentK states
    if adapters.length ≠ request.currentK - request.targetK then
      .reject request.requestId coordinator.currentK
        ("Could not find enough unloadable adapters: need " ++
          toString (request.currentK - request.targetK) ++ ", found " ++ toString adapters.length)
    else
      .approve request.requestId request.targetK adapters (adapters.length * 1024 * 1024)
        ("K reduction approved: " ++ toString request.currentK ++ " -> " ++
          toString request.targetK ++ ", unloading " ++ toString adapters.length ++ " adapters")

end LifecycleKReductionCoordinator

/-- What a reduction meets: the evictions by their position in the list, and each reload. -/
structure ReductionOutcomes where
  evictions : Outcomes
  reloads : Nat → Outcomes

namespace LifecycleManager

variable {F : Type*}

/-- The evictions up to the first that fails, with those that succeeded. -/
def unloadAll (o : Outcomes) : Nat → LifecycleManager F → List UInt16 →
    LifecycleManager F × List UInt16 × Except AosError Unit
  | _, m, [] => (m, [], .ok ())
  | n, m, id :: ids =>
    match m.evictAdapter id o n with
    | (m', .error err) => (m', [], .error err)
    | (m', .ok ()) =>
      let rest := unloadAll o (n + 1) m' ids
      (rest.1, id :: rest.2.1, rest.2.2)

/-- One promotion each; one that fails is passed over. -/
def reloadAll (reloads : Nat → Outcomes) : Nat → LifecycleManager F → List UInt16 →
    LifecycleManager F
  | _, m, [] => m
  | n, m, id :: ids =>
    match m.states.get? id with
    | none => reloadAll reloads (n + 1) m ids
    | some _ => reloadAll reloads (n + 1) (m.promoteAdapter id (reloads n)).1 ids

def rollbackKReduction (m : LifecycleManager F) (o : ReductionOutcomes)
    (unloadedAdapters : List UInt16) (oldK : Nat) : LifecycleManager F :=
  reloadAll o.reloads 0 { m with currentK := oldK } unloadedAdapters.reverse

def executeKReduction (m : LifecycleManager F) (o : ReductionOutcomes)
    (response : KReductionResponse) : LifecycleManager F × Except AosError Unit :=
  match unloadAll o.evictions 0 m response.adaptersToUnload with
  | (m', unloaded, .error err) => (m'.rollbackKReduction o unloaded m.currentK, .error err)
  | (m', _, .ok ()) => ({ m' with currentK := response.newK }, .ok ())

end LifecycleManager

structure KReductionExecutionRecord where
  requestId : String
  oldK : Nat
  newK : Nat
  approved : Bool
  executed : Bool
  adaptersUnloaded : List UInt16
  failureReason : Option String
  deriving DecidableEq

/-- The manager with the history of its reductions. -/
structure KReducer (F : Type*) where
  manager : LifecycleManager F
  history : List KReductionExecutionRecord

namespace KReducer

variable {F : Type*} (ops : PctOps F) (render : F → String)
  (coordinator : LifecycleKReductionCoordinator F)

def evaluate (s : KReducer F) (request : KReductionRequest F) (o : ReductionOutcomes) :
    KReductionResponse :=
  coordinator.evaluateRequest ops render o.evictions.order request s.manager.states

/-- One request taken from the channel. -/
def processRequest (s : KReducer F) (a : KReductionRequest F × ReductionOutcomes) : KReducer F :=
  let response := s.evaluate ops render coordinator a.1 a.2
  if response.approved then
    let execution := s.manager.executeKReduction a.2 response
    { manager := execution.1
      history := s.history ++ [{
        requestId := a.1.requestId
        oldK := a.1.currentK
        newK := response.newK
        approved := true
        executed := match execution.2 with
          | .ok () => true
          | .error _ => false
        adaptersUnloaded := response.adaptersToUnload
        failureReason := match execution.2 with
          | .ok () => none
          | .error err => some err.display }] }
  else
    { s with history := s.history ++ [{
        requestId := a.1.requestId
        oldK := a.1.currentK
        newK := a.1.currentK
        approved := false
        executed := false
        adaptersUnloaded := []
        failureReason := some response.reason }] }

def pollKReductionEvents (s : KReducer F)
    (requests : List (KReductionRequest F × ReductionOutcomes)) : KReducer F × Nat :=
  (run (processRequest ops render coordinator) s requests, requests.length)

end KReducer

end AdapterOS.Lifecycle
