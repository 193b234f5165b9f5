import AdapterOS.HotSwap.Kernels
import AdapterOS.HotSwap.TableInvariant

/-! The two passes over the retired stacks, and which adapters they unload. -/
namespace AdapterOS.HotSwap

open Library AdapterTable

/-- A call of `detach_adapter`, with the table at that moment. -/
structure DetachCall where
  adapterId : AdapterId
  table : AdapterTable

/-- A pass under way: the list position, the backend if there is one, and the calls made. -/
structure Pass (K : Type*) where
  table : AdapterTable
  kernels : Option K
  index : Nat
  calls : List DetachCall
  cleaned : Nat

section Passes

variable {K : Type*} (b : Backend K) (o : Iteration AdapterId)

def canUnload (t : AdapterTable) (stack : Stack) : Bool :=
  stack.active.keys.all fun id =>
    match t.refcounts.get? id with
    | some rc => t.heap.load rc = 0
    | none => false

/-- The unload loop: it stops at the first failing call, which is made all the same. -/
def detachAll : K → List AdapterId → List AdapterId × Bool × K
  | k, [] => ([], false, k)
  | k, id :: ids =>
    match b.detachAdapter k (b.slot id) with
    | (.ok _, k') => let rest := detachAll k' ids; (id :: rest.1, rest.2)
    | (.error _, k') => ([id], true, k')

/-- Remove the first stack with this generation and forget its retries. -/
def removeRetired (p : Pass K) (generation : Nat) : Pass K :=
  match p.table.retiredStacks.findIdx? (·.generation = generation) with
  | some pos =>
    { p with table := { p.table with retiredStacks := p.table.retiredStacks.eraseIdx pos
                                     retryCounts := p.table.retryCounts.erase generation }
             cleaned := p.cleaned + 1 }
  | none => p

def skip (p : Pass K) : Pass K := { p with index := p.index + 1 }

def quarantine (p : Pass K) (generation : Nat) : Pass K :=
  { p with table := { p.table with retiredStacks := p.table.retiredStacks.eraseIdx p.index
                                   retryCounts := p.table.retryCounts.erase generation } }

def countRetry (p : Pass K) (generation : Nat) : Pass K :=
  let count := (p.table.retryCounts.get? generation).getD 0
  { p with table := { p.table with retryCounts := p.table.retryCounts.insert generation
                                     (count + 1) } }

def unloadStack (p : Pass K) (k : K) (stack : Stack) : Bool × Pass K :=
  let r := detachAll b k (o.visit stack.active.keys)
  (r.2.1, { p with kernels := some r.2.2
                   calls := p.calls ++ r.1.map fun id => ⟨id, p.table⟩ })

/-- One turn of the loop of `process_retired_stacks` at the stack found at the position. -/
def processStack (p : Pass K) (stack : Stack) : Pass K :=
  if canUnload p.table stack then
    if (p.table.retryCounts.get? stack.generation).getD 0 ≥ 3 then
      quarantine p stack.generation
    else
      match p.kernels with
      | some k =>
        match unloadStack b o p k stack with
        | (false, p') => removeRetired p' stack.generation
        | (true, p') => skip (countRetry p' stack.generation)
      | none => removeRetired p stack.generation
  else skip p

/-- One turn of the loop of `force_cleanup_retired`: no quarantine and no retry count. -/
def forceStack (p : Pass K) (stack : Stack) : Pass K :=
  if canUnload p.table stack then
    match p.kernels with
    | some k =>
      match unloadStack b o p k stack with
      | (false, p') => removeRetired p' stack.generation
      | (true, p') => skip p'
    | none => removeRetired p stack.generation
  else skip p

def passLoop (turn : Pass K → Stack → Pass K) : Nat → Pass K → Pass K
  | 0, p => p
  | fuel + 1, p =>
    match p.table.retiredStacks[p.index]? with
    | some stack => passLoop turn fuel (turn p stack)
    | none => p

def Pass.start (t : AdapterTable) (kernels : Option K) : Pass K := ⟨t, kernels, 0, [], 0⟩

def processRetiredStacks (kernels : Option K) (t : AdapterTable) : Pass K :=
  passLoop (processStack b o) t.retiredStacks.length (.start t kernels)

def forceCleanupRetired (kernels : Option K) (t : AdapterTable) : Pass K :=
  passLoop (forceStack b o) t.retiredStacks.length (.start t kernels)

def Pass.rest (p : Pass K) : List Stack := p.table.retiredStacks.drop p.index

def CallsFor (p p' : Pass K) (stack : Stack) : Prop :=
  ∃ ids : List AdapterId, p'.calls = p.calls ++ ids.map (fun id => ⟨id, p.table⟩) ∧
    ∀ id ∈ ids, canUnload p.table stack ∧ id ∈ stack.active

/-- What one turn does: the next stack is done with, the counters are left alone, and calls
are made for that stack's adapters only if it can be unloaded. -/
structure Turn (p p' : Pass K) (stack : Stack) (tail : List Stack) : Prop where
  rest_eq : p'.rest = tail
  active_eq : p'.table.active = p.table.active
  refcounts_eq : p'.table.refcounts = p.table.refcounts
  heap_eq : p'.table.heap = p.table.heap
  callsFor : CallsFor p p' stack

variable {b} {o} {p : Pass K} {stack : Stack} {tail : List Stack} {turn : Pass K → Stack → Pass K}
  {fuel : Nat}

theorem rest_eq_cons (h : p.rest = stack :: tail) : p.table.retiredStacks[p.index]? = some stack ∧
      p.table.retiredStacks.drop (p.index + 1) = tail := by
  grind [Pass.rest, List.drop_eq_nil_of_le, List.drop_eq_getElem_cons]

theorem rest_eq_nil (h : p.rest = []) : p.table.retiredStacks[p.index]? = none := by
  rw [List.getElem?_eq_none_iff]
  exact List.drop_eq_nil_iff.mp h

theorem drop_eraseIdx {α : Type*} {l : List α} {i pos : Nat} (hle : pos ≤ i) :
    (l.eraseIdx pos).drop i = l.drop (i + 1) := by
  apply List.ext_getElem?
  intro n
  rw [List.getElem?_drop, List.getElem?_drop, List.getElem?_eraseIdx_of_ge (by omega)]
  congr 1
  omega

theorem removeRetired_turn {p' : Pass K} (h : p.rest = stack :: tail)
    (ht : p'.table = p.table) (hi : p'.index = p.index) (hc : CallsFor p p' stack) :
    Turn p (removeRetired p' stack.generation) stack tail := by
  obtain ⟨hget, hdrop⟩ := rest_eq_cons h
  obtain ⟨_, hs⟩ := List.getElem?_eq_some_iff.mp hget
  cases hf : p.table.retiredStacks.findIdx? (·.generation = stack.generation) with
  | none => simpa using List.findIdx?_eq_none_iff.mp hf stack (List.mem_of_getElem? hget)
  | some pos =>
    obtain ⟨_, _, hmin⟩ := List.findIdx?_eq_some_iff_getElem.mp hf
    have hle : pos ≤ p.index := by
      by_contra hgt
      have hn := hmin p.index (by omega)
      simp [hs] at hn
    have he : removeRetired p' stack.generation =
        { p' with table := { p.table with retiredStacks := p.table.retiredStacks.eraseIdx pos
                                          retryCounts := p.table.retryCounts.erase
                                            stack.generation }
                  cleaned := p'.cleaned + 1 } := by
      simp only [removeRetired, ht, hf]
    rw [he]
    refine ⟨?_, rfl, rfl, rfl, hc⟩
    simp only [Pass.rest, hi]
    rw [drop_eraseIdx hle, hdrop]

theorem skip_turn {p' : Pass K} (h : p.rest = stack :: tail) (hi : p'.index = p.index)
    (hr : p'.table.retiredStacks = p.table.retiredStacks)
    (ha : p'.table.active = p.table.active) (hf : p'.table.refcounts = p.table.refcounts)
    (hh : p'.table.heap = p.table.heap) (hc : CallsFor p p' stack) :
    Turn p (skip p') stack tail := by
  obtain ⟨_, hdrop⟩ := rest_eq_cons h
  refine ⟨?_, ha, hf, hh, hc⟩
  simp only [Pass.rest, skip, hi, hr]
  exact hdrop

theorem no_calls (p : Pass K) (stack : Stack) : CallsFor p p stack := ⟨[], by simp, by simp⟩

theorem mem_detachAll {k : K} {ids : List AdapterId} {id : AdapterId}
    (h : id ∈ (detachAll b k ids).1) : id ∈ ids := by
  induction ids generalizing k with
  | nil => simp [detachAll] at h
  | cons j ids ih => grind [detachAll]

theorem unloadStack_calls (p : Pass K) (k : K) (hu : canUnload p.table stack) :
    CallsFor p (unloadStack b o p k stack).2 stack := by
  refine ⟨_, rfl, ?_⟩
  intro id hid
  have hk := mem_detachAll hid
  rw [o.mem_visit] at hk
  exact ⟨hu, AList.mem_keys.mp hk⟩

theorem forceStack_turn (h : p.rest = stack :: tail) :
    Turn p (forceStack b o p stack) stack tail := by
  unfold forceStack
  split
  · rename_i hu
    cases p.kernels with
    | none => exact removeRetired_turn h rfl rfl (no_calls p stack)
    | some k =>
      have hc := unloadStack_calls (b := b) (o := o) p k hu
      dsimp only
      split <;> rename_i p' he <;> obtain rfl : (unloadStack b o p k stack).2 = p' := by rw [he]
      · exact removeRetired_turn h rfl rfl hc
      · exact skip_turn h rfl rfl rfl rfl rfl hc
  · exact skip_turn h rfl rfl rfl rfl rfl (no_calls p stack)

theorem processStack_turn (h : p.rest = stack :: tail) :
    Turn p (processStack b o p stack) stack tail := by
  unfold processStack
  split
  · rename_i hu
    split
    · obtain ⟨_, hdrop⟩ := rest_eq_cons h
      refine ⟨?_, rfl, rfl, rfl, no_calls p stack⟩
      exact (drop_eraseIdx (Nat.le_refl _)).trans hdrop
    · cases p.kernels with
      | none => exact removeRetired_turn h rfl rfl (no_calls p stack)
      | some k =>
        have hc := unloadStack_calls (b := b) (o := o) p k hu
        dsimp only
        split <;> rename_i p' he <;> obtain rfl : (unloadStack b o p k stack).2 = p' := by rw [he]
        · exact removeRetired_turn h rfl rfl hc
        · exact skip_turn h rfl rfl rfl rfl rfl hc
  · exact skip_turn h rfl rfl rfl rfl rfl (no_calls p stack)

theorem passLoop_finished (hturn : ∀ p stack tail, p.rest = stack :: tail →
    Turn p (turn p stack) stack tail) (hf : p.rest.length ≤ fuel) :
    (passLoop turn fuel p).rest = [] := by
  induction fuel generalizing p with
  | zero => exact List.eq_nil_of_length_eq_zero (Nat.le_zero.mp hf)
  | succ fuel ih =>
    cases hr : p.rest with
    | nil => simpa only [passLoop, rest_eq_nil hr] using hr
    | cons stack tail =>
      have ht := hturn p stack tail hr
      simp only [passLoop, (rest_eq_cons hr).1]
      exact ih (by grind [ht.rest_eq])

theorem processRetiredStacks_finished (kernels : Option K) (t : AdapterTable) :
    (processRetiredStacks b o kernels t).rest = [] :=
  passLoop_finished (fun _ _ _ => processStack_turn) (Nat.le_refl _)

theorem forceCleanupRetired_finished (kernels : Option K) (t : AdapterTable) :
    (forceCleanupRetired b o kernels t).rest = [] :=
  passLoop_finished (fun _ _ _ => forceStack_turn) (Nat.le_refl _)

theorem passLoop_calls (hturn : ∀ p stack tail, p.rest = stack :: tail →
    Turn p (turn p stack) stack tail) {c : DetachCall}
    (hc : c ∈ (passLoop turn fuel p).calls) : c ∈ p.calls ∨
      ∃ stack ∈ p.rest, canUnload p.table stack ∧ c.adapterId ∈ stack.active ∧
        c.table.active = p.table.active ∧ c.table.refcounts = p.table.refcounts ∧
        c.table.heap = p.table.heap := by
  induction fuel generalizing p with
  | zero => exact Or.inl hc
  | succ fuel ih =>
    cases hr : p.rest with
    | nil =>
      simp only [passLoop, rest_eq_nil hr] at hc
      exact Or.inl hc
    | cons stack tail =>
      have ht := hturn p stack tail hr
      simp only [passLoop, (rest_eq_cons hr).1] at hc
      rcases ih hc with hc | ⟨s, hs, hu, hid, ha, hf, hh⟩
      · obtain ⟨ids, he, hids⟩ := ht.callsFor
        grind
      · obtain ⟨⟩ := ht
        grind [canUnload]

def NeverFails (b : Backend K) : Prop := ∀ k slot, (b.detachAdapter k slot).1 = .ok ()

/-- The pass has a device and no stack has failed before. -/
structure Ready (p : Pass K) : Prop where
  device : ∃ k, p.kernels = some k
  retries : ∀ g, p.table.retryCounts.get? g = none

theorem detachAll_of_neverFails (hb : NeverFails b) (k : K) (ids : List AdapterId) :
    (detachAll b k ids).1 = ids ∧ (detachAll b k ids).2.1 = false := by
  induction ids generalizing k with
  | nil => exact ⟨rfl, rfl⟩
  | cons id ids ih =>
    have hok := hb k (b.slot id)
    grind [detachAll]

theorem removeRetired_calls (p : Pass K) (g : Nat) : (removeRetired p g).calls = p.calls := by
  unfold removeRetired
  cases p.table.retiredStacks.findIdx? (·.generation = g) <;> rfl

theorem removeRetired_ready (h : Ready p) (g : Nat) : Ready (removeRetired p g) := by
  unfold removeRetired
  cases p.table.retiredStacks.findIdx? (·.generation = g) with
  | none => exact h
  | some pos =>
    refine ⟨h.device, ?_⟩
    intro g'
    simp only [AList.get?_erase, h.retries g', ite_self]

theorem processStack_unloads (stack : Stack) (hb : NeverFails b) (h : Ready p) :
    Ready (processStack b o p stack) ∧ (canUnload p.table stack →
      ∀ id ∈ stack.active, ⟨id, p.table⟩ ∈ (processStack b o p stack).calls) := by
  obtain ⟨k, hk⟩ := h.device
  obtain ⟨hids, hfail⟩ := detachAll_of_neverFails hb k (o.visit stack.active.keys)
  cases hu : canUnload p.table stack with
  | false =>
    simp only [processStack, hu]
    exact ⟨⟨h.device, h.retries⟩, by simp⟩
  | true =>
    have he : processStack b o p stack =
        removeRetired (unloadStack b o p k stack).2 stack.generation := by
      simp [processStack, hu, h.retries, hk, unloadStack, hfail]
    rw [he]
    have hready : Ready (unloadStack b o p k stack).2 := ⟨⟨_, rfl⟩, h.retries⟩
    refine ⟨removeRetired_ready hready _, ?_⟩
    intro _ id hid
    rw [removeRetired_calls]
    simp only [unloadStack, hids, List.mem_append, List.mem_map, o.mem_visit]
    exact Or.inr ⟨id, AList.mem_keys.mpr hid, rfl⟩

theorem passLoop_keeps_calls (hturn : ∀ p stack tail, p.rest = stack :: tail →
    Turn p (turn p stack) stack tail) {c : DetachCall} (hc : c ∈ p.calls) :
    c ∈ (passLoop turn fuel p).calls := by
  induction fuel generalizing p with
  | zero => exact hc
  | succ fuel ih =>
    cases hr : p.rest with
    | nil =>
      simp only [passLoop, rest_eq_nil hr]
      exact hc
    | cons stack tail =>
      obtain ⟨ids, he, _⟩ := (hturn p stack tail hr).callsFor
      simp only [passLoop, (rest_eq_cons hr).1]
      apply ih
      rw [he]
      exact List.mem_append_left _ hc

theorem process_unloads (hb : NeverFails b) (h : Ready p)
    (hf : p.rest.length ≤ fuel) (hs : stack ∈ p.rest) (hu : canUnload p.table stack)
    {id : AdapterId} (hid : id ∈ stack.active) :
    ∃ c ∈ (passLoop (processStack b o) fuel p).calls,
      c.adapterId = id ∧ c.table.active = p.table.active := by
  induction fuel generalizing p with
  | zero =>
    rw [List.eq_nil_of_length_eq_zero (Nat.le_zero.mp hf)] at hs
    cases hs
  | succ fuel ih =>
    cases hr : p.rest with
    | nil => simp [hr] at hs
    | cons s tail =>
      have ht := processStack_turn (b := b) (o := o) hr
      obtain ⟨hready, hcalls⟩ := processStack_unloads (o := o) s hb h
      simp only [passLoop, (rest_eq_cons hr).1]
      rw [hr] at hs
      rcases List.mem_cons.mp hs with rfl | hs
      · refine ⟨⟨id, p.table⟩, ?_, rfl, rfl⟩
        exact passLoop_keeps_calls (fun _ _ _ => processStack_turn) (hcalls hu id hid)
      · obtain ⟨⟩ := ht
        grind [canUnload]

end Passes

variable {t : AdapterTable}

/-- Neither pass, on any device and in any iteration order, detaches an adapter that is
active or referenced at that moment. -/
def RetirementSafe (t : AdapterTable) : Prop :=
  ∀ (K : Type) (b : Backend K) (o : Iteration AdapterId) (k : K) (c : DetachCall),
    c ∈ (processRetiredStacks b o (some k) t).calls ∨
      c ∈ (forceCleanupRetired b o (some k) t).calls →
    c.adapterId ∉ c.table.active ∧ c.table.refcount c.adapterId = 0

/-- No retired stack whose counters are all zero shares an adapter with the active map. -/
def IdleStacksDisjoint (t : AdapterTable) : Prop :=
  ∀ stack ∈ t.retiredStacks, canUnload t stack → ∀ id ∈ stack.active, id ∉ t.active

instance : Decidable (IdleStacksDisjoint t) :=
  inferInstanceAs (Decidable (∀ stack ∈ t.retiredStacks, canUnload t stack →
    ∀ id ∈ stack.active.keys, id ∉ t.active))

theorem refcount_of_canUnload {stack : Stack} (h : canUnload t stack) {id : AdapterId}
    (hid : id ∈ stack.active) : t.refcount id = 0 := by
  have hz := List.all_eq_true.mp h id (AList.mem_keys.mpr hid)
  unfold AdapterTable.refcount
  cases hr : t.refcounts.get? id with
  | none => simp [hr] at hz
  | some rc => simpa [hr] using hz

theorem call_of_pass {K : Type} {b : Backend K} {o : Iteration AdapterId} {k : K}
    {c : DetachCall} (hc : c ∈ (processRetiredStacks b o (some k) t).calls ∨
      c ∈ (forceCleanupRetired b o (some k) t).calls) :
    ∃ stack ∈ t.retiredStacks, canUnload t stack ∧ c.adapterId ∈ stack.active ∧
      c.table.active = t.active ∧ c.table.refcounts = t.refcounts ∧ c.table.heap = t.heap := by
  have key : c ∈ (Pass.start t (some k)).calls ∨ ∃ stack ∈ (Pass.start t (some k)).rest,
      canUnload t stack ∧ c.adapterId ∈ stack.active ∧ c.table.active = t.active ∧
      c.table.refcounts = t.refcounts ∧ c.table.heap = t.heap := by
    rcases hc with hc | hc
    · exact passLoop_calls (fun _ _ _ => processStack_turn) hc
    · exact passLoop_calls (fun _ _ _ => forceStack_turn) hc
  exact key.resolve_left nofun

theorem retirementSafe_of_disjoint (h : IdleStacksDisjoint t) : RetirementSafe t := by
  intro K b o k c hc
  obtain ⟨stack, hs, hu, hid, ha, hf, hh⟩ := call_of_pass hc
  refine ⟨?_, ?_⟩
  · rw [ha]
    exact h stack hs hu c.adapterId hid
  · have hz := refcount_of_canUnload hu hid
    simpa [AdapterTable.refcount, hf, hh] using hz

theorem retryCounts_step (op : TableOp) (h : t.retryCounts = ∅) :
    (tableStep t op).retryCounts = ∅ := by
  rcases tableStep_cases t op with ⟨staged, rc, heap, he⟩ | ⟨addIds, removeIds, rfl⟩ | rfl
  · rw [he]
    exact h
  · rcases swap_cases t addIds removeIds with ⟨_, he⟩ | ⟨_, hi⟩
    · simp only [tableStep, he]
      exact h
    · exact hi.retryCounts_eq.trans h
  · cases hr : t.rollbackState with
    | none =>
      simp only [tableStep, rollback_none hr]
      exact h
    | some s => exact (rollback_some hr).2.retryCounts_eq.trans h

theorem retryCounts_tableAfter (identity : AdapterCacheIdentity) (ops : List TableOp) :
    (tableAfter identity ops).retryCounts = ∅ :=
  run_invariant (I := fun t : AdapterTable => t.retryCounts = ∅)
    (fun _ op h => retryCounts_step op h) rfl ops

theorem disjoint_of_retirementSafe (hr : t.retryCounts = ∅) (h : RetirementSafe t) :
    IdleStacksDisjoint t := by
  intro stack hs hu id hid hactive
  have hready : Ready (Pass.start t (some (∅ : Finset UInt16))) :=
    ⟨⟨_, rfl⟩, by simp [Pass.start, hr]⟩
  obtain ⟨c, hc, rfl, ha⟩ := process_unloads (b := testBackend) (o := .asListed)
    (fun _ _ => rfl) hready (Nat.le_refl _) hs hu hid
  obtain ⟨hn, _⟩ := h _ testBackend .asListed ∅ c (Or.inl hc)
  rw [ha] at hn
  exact hn hactive

/-- The passes look at a retired stack's own counters only, so they are safe exactly when no
idle retired stack shares an adapter with the active map. -/
theorem retirementSafe_iff (identity : AdapterCacheIdentity) (ops : List TableOp) :
    RetirementSafe (tableAfter identity ops) ↔ IdleStacksDisjoint (tableAfter identity ops) :=
  ⟨disjoint_of_retirementSafe (retryCounts_tableAfter identity ops), retirementSafe_of_disjoint⟩

/-- `a` is kept by the second swap, and the first pass after it unloads `a` from the device. -/
theorem retirement_unloads_active : ¬ RetirementSafe (tableAfter testIdentity
    [.preload "a" 1 10 0, .swap ["a"] [], .preload "b" 2 10 1, .swap ["b"] []]) := by
  intro h
  have hd := disjoint_of_retirementSafe (retryCounts_tableAfter _ _) h
  revert hd
  decide

end AdapterOS.HotSwap
