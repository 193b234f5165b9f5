import AdapterOS.Core.Basic
import AdapterOS.Library.HashMap
import AdapterOS.Library.Ranking

/-! How warm an adapter is kept: the states, the rules by category, the policy on activations and
the tracker that counts them. -/
namespace AdapterOS.Lifecycle

open Library

/-- Nanoseconds of the system clock. -/
abbrev SystemTime := Int

/-- Nanoseconds. -/
abbrev Duration := Nat

def Duration.fromSecs (secs : Nat) : Duration := secs * 1000000000

def elapsed (now since : SystemTime) : Duration := (now - since).toNat

inductive AdapterHeatState where
  | unloaded
  | cold
  | warm
  | hot
  | resident
  deriving DecidableEq

namespace AdapterHeatState

def display : AdapterHeatState → String
  | .unloaded => "unloaded"
  | .cold => "cold"
  | .warm => "warm"
  | .hot => "hot"
  | .resident => "resident"

def promote : AdapterHeatState → Option AdapterHeatState
  | .unloaded => some .cold
  | .cold => some .warm
  | .warm => some .hot
  | .hot => some .resident
  | .resident => none

def demote : AdapterHeatState → Option AdapterHeatState
  | .unloaded => none
  | .cold => some .unloaded
  | .warm => some .cold
  | .hot => some .warm
  | .resident => some .hot

def isLoaded : AdapterHeatState → Bool
  | .unloaded => false
  | _ => true

def canPromote (state : AdapterHeatState) (category : String) : Bool :=
  match state, category with
  | .cold, "code" => true
  | .warm, "code" => true
  | .cold, "framework" => false
  | .warm, "framework" => true
  | .cold, "codebase" => false
  | .warm, "codebase" => true
  | _, "ephemeral" => false
  | _, _ => true

def shouldDemote (state : AdapterHeatState) (category : String) (lastUsed : Duration) : Bool :=
  match state, category with
  | .hot, "code" => Duration.fromSecs (24 * 3600) < lastUsed
  | .hot, "framework" => Duration.fromSecs (12 * 3600) < lastUsed
  | .warm, "framework" => Duration.fromSecs (6 * 3600) < lastUsed
  | .hot, "codebase" => Duration.fromSecs (4 * 3600) < lastUsed
  | .warm, "codebase" => Duration.fromSecs (2 * 3600) < lastUsed
  | _, "ephemeral" => true
  | _, _ => false

theorem shouldDemote_resident (category : String) (lastUsed : Duration) :
    shouldDemote .resident category lastUsed = decide (category = "ephemeral") := by
  unfold shouldDemote
  split <;> simp_all

end AdapterHeatState

structure AdapterHeatRecord where
  adapterId : String
  adapterIdx : UInt16
  state : AdapterHeatState := .unloaded
  pinned : Bool := false
  memoryBytes : Nat := 0
  category : String := "code"
  lastActivated : Option SystemTime := none
  activationCount : UInt64 := 0
  deriving DecidableEq

namespace AdapterHeatRecord

variable (r : AdapterHeatRecord)

def pin : AdapterHeatRecord := { r with pinned := true, state := .resident }

def unpin : AdapterHeatRecord := { r with pinned := false }

def recordActivation (now : SystemTime) : AdapterHeatRecord :=
  { r with lastActivated := some now, activationCount := r.activationCount + 1 }

def promote : AdapterHeatRecord × Bool :=
  if r.state.canPromote r.category then
    match r.state.promote with
    | some state => ({ r with state }, true)
    | none => (r, false)
  else (r, false)

def demotable (now : SystemTime) : Bool :=
  match r.lastActivated with
  | some last => r.state.shouldDemote r.category (elapsed now last)
  | none => true

def demote (now : SystemTime) : AdapterHeatRecord × Bool :=
  if r.pinned then (r, false)
  else if !r.demotable now then (r, false)
  else
    match r.state.demote with
    | some state => ({ r with state }, true)
    | none => (r, false)

end AdapterHeatRecord

/-- The 32-bit float operations on percentages. -/
structure PctOps (F : Type*) where
  lit : ℚ → F
  ofNat : Nat → F
  sub : F → F → F
  mul : F → F → F
  div : F → F → F
  abs : F → F
  lt : F → F → Bool

def PctOps.exact : PctOps ℚ where
  lit := id
  ofNat n := n
  sub a b := a - b
  mul a b := a * b
  div a b := a * b⁻¹
  abs a := if a < 0 then -a else a
  lt a b := a < b

structure AdapterMetrics (F : Type*) where
  adapterId : String
  activationPct : F
  qualityDelta : F

structure LifecyclePolicy (F : Type*) where
  minActivationPct : F
  promotionThreshold : F
  demotionThreshold : F
  minQualityDelta : F

section Policy

variable {F : Type*} (ops : PctOps F)

def LifecyclePolicy.fromManifest : LifecyclePolicy F :=
  ⟨ops.lit 2, ops.lit 4, ops.lit 1, ops.lit (1 / 2)⟩

variable (p : LifecyclePolicy F) (m : AdapterMetrics F)

def LifecyclePolicy.shouldPromote : Bool :=
  if ops.lt m.activationPct p.promotionThreshold then false
  else if ops.lt m.qualityDelta p.minQualityDelta then false
  else true

def LifecyclePolicy.shouldDemote : Bool :=
  if ops.lt m.activationPct p.demotionThreshold then true
  else if ops.lt m.qualityDelta (ops.mul p.minQualityDelta (ops.lit (1 / 2))) then true
  else false

def LifecyclePolicy.shouldEvict : Bool := ops.lt m.activationPct p.minActivationPct

end Policy

structure ActivationTracker (F : Type*) where
  windowSize : Nat
  history : List (List UInt16)
  counts : HashMap UInt16 Nat
  lastPercentages : HashMap UInt16 F

namespace ActivationTracker

variable {F : Type*}

def new (windowSize : Nat) : ActivationTracker F := ⟨windowSize, [], ∅, ∅⟩

def epsilon (ops : PctOps F) : F := ops.lit (1 / 20)

def dedupSorted (values : List UInt16) : List UInt16 := (sortBy UInt16.toNat values).dedup

def increment (counts : HashMap UInt16 Nat) (id : UInt16) : HashMap UInt16 Nat :=
  counts.insert id ((counts.get? id).getD 0 + 1)

def decrement (counts : HashMap UInt16 Nat) (id : UInt16) : HashMap UInt16 Nat :=
  match counts.get? id with
  | none => counts
  | some count => if count - 1 = 0 then counts.erase id else counts.insert id (count - 1)

/-- Decisions leave the window from the front. -/
def shrink (windowSize : Nat) :
    List (List UInt16) → HashMap UInt16 Nat → List (List UInt16) × HashMap UInt16 Nat
  | [], counts => ([], counts)
  | old :: history, counts =>
    if windowSize < (old :: history).length then
      shrink windowSize history (old.foldl decrement counts)
    else (old :: history, counts)

/-- The percentages of the window. -/
def percentages (ops : PctOps F) (decisions : Nat) (counts : HashMap UInt16 Nat) :
    HashMap UInt16 F :=
  if 0 < decisions then
    HashMap.collect (counts.items.map fun e =>
      (e.1, ops.mul (ops.div (ops.ofNat e.2) (ops.ofNat decisions)) (ops.lit 100)))
  else ∅

/-- The adapters whose percentage has changed, by their number. -/
def changes (ops : PctOps F) (last current : HashMap UInt16 F) : List (UInt16 × F) :=
  let keys := (last.keys ++ current.keys).dedup
  sortBy (fun e => e.1.toNat) (keys.filterMap fun id =>
    let pct := (current.get? id).getD (ops.lit 0)
    let prev := (last.get? id).getD (ops.lit 0)
    if ops.lt (epsilon ops) (ops.abs (ops.sub pct prev)) then some (id, pct) else none)

def recordDecision (ops : PctOps F) (t : ActivationTracker F) (selected : List UInt16) :
    ActivationTracker F × List (UInt16 × F) :=
  let unique := dedupSorted selected
  let (history, counts) :=
    shrink t.windowSize (t.history ++ [unique]) (unique.foldl increment t.counts)
  let current := percentages ops history.length counts
  (⟨t.windowSize, history, counts, current.retain fun _ pct => ops.lt (ops.lit 0) pct⟩,
    changes ops t.lastPercentages current)

end ActivationTracker

end AdapterOS.Lifecycle
