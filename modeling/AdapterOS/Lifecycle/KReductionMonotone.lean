import AdapterOS.Lifecycle.KReductionRollback

/-! K along a queue of reduction requests. A request is judged by the K it was computed from, so
one that has waited behind another may take K up again. -/
namespace AdapterOS.Lifecycle

open Library

variable {F : Type*} {ops : PctOps F} {render : F → String}
  {order : Iteration (UInt16 × AdapterHeatRecord)}
  {coordinator : LifecycleKReductionCoordinator F} {request : KReductionRequest F}
  {states : HashMap UInt16 AdapterHeatRecord}

namespace LifecycleKReductionCoordinator

theorem evaluateRequest_approved
    (h : (evaluateRequest ops render order coordinator request states).approved = true) :
    (evaluateRequest ops render order coordinator request states).newK = request.targetK ∧
      coordinator.minK ≤ request.targetK := by
  unfold evaluateRequest at h ⊢
  split_ifs at h ⊢ with hvalid hmin hpressure
  · cases h
  · cases h
  · cases h
  · dsimp only at h ⊢
    split_ifs at h ⊢ with hcount
    · cases h
    · exact ⟨rfl, Nat.le_of_not_lt hmin⟩

theorem mem_evaluateRequest {id : UInt16}
    (h : id ∈ (evaluateRequest ops render order coordinator request states).adaptersToUnload) :
    ∃ r, states.get? id = some r ∧ r.pinned = false := by
  have hselected : id ∈ selectAdaptersForUnload order request.targetK request.currentK states := by
    unfold evaluateRequest at h
    split_ifs at h with hvalid hmin hpressure
    · cases h
    · cases h
    · cases h
    · dsimp only at h
      split_ifs at h with hcount
      · cases h
      · exact h
  obtain ⟨⟨j, r⟩, hmem, rfl⟩ := List.mem_map.mp hselected
  grind [mem_sortBy, Iteration.mem_visit, AList.mem_items]

end LifecycleKReductionCoordinator

namespace LifecycleManager

theorem unloadAll_ok {o : Outcomes} (htelemetry : ∀ n, o.telemetry n = none) (n : Nat)
    (m : LifecycleManager F) (ids : List UInt16) (hfree : ∀ id ∈ ids, m.pins id ≠ some true) :
    (unloadAll o n m ids).2.2 = .ok () := by
  induction ids generalizing n m with
  | nil => rfl
  | cons id ids ih =>
    have hrest : ∀ j ∈ ids, m.pins j ≠ some true := fun j hj =>
      hfree j (List.mem_cons_of_mem id hj)
    cases hget : m.states.get? id with
    | none =>
      simp only [unloadAll, evictAdapter_absent hget]
      exact ih (n + 1) m hrest
    | some r =>
      have hpinned : r.pinned = false := by
        have hid := hfree id List.mem_cons_self
        simpa [pins, hget] using hid
      have hlog : o.log n = .ok () := by simp only [Outcomes.log, htelemetry]
      simp only [unloadAll, evictAdapter_unpinned hget hpinned, hlog]
      refine ih (n + 1) _ ?_
      rw [pins_put_evicted hget]
      exact hrest

end LifecycleManager

namespace KReducer

variable {s : KReducer F} {a : KReductionRequest F × ReductionOutcomes}
  {requests : List (KReductionRequest F × ReductionOutcomes)}

/-- If the request is approved, every eviction of it succeeds. -/
def EvictionsSucceed (ops : PctOps F) (render : F → String)
    (coordinator : LifecycleKReductionCoordinator F) (s : KReducer F)
    (a : KReductionRequest F × ReductionOutcomes) : Prop :=
  (s.evaluate ops render coordinator a.1 a.2).approved = true →
    (s.manager.executeKReduction a.2 (s.evaluate ops render coordinator a.1 a.2)).2 = .ok ()

theorem evictionsSucceed_of_telemetry (h : ∀ n, a.2.evictions.telemetry n = none) :
    EvictionsSucceed ops render coordinator s a := by
  intro _
  have hunload : (LifecycleManager.unloadAll a.2.evictions 0 s.manager
      (s.evaluate ops render coordinator a.1 a.2).adaptersToUnload).2.2 = .ok () := by
    refine LifecycleManager.unloadAll_ok h 0 s.manager _ ?_
    intro id hid
    obtain ⟨r, hget, hpinned⟩ := LifecycleKReductionCoordinator.mem_evaluateRequest hid
    simp [LifecycleManager.pins, hget, hpinned]
  grind [LifecycleManager.executeKReduction]

/-- A request that is approved asks for no more than K is when its turn comes. -/
def NotStale (ops : PctOps F) (render : F → String)
    (coordinator : LifecycleKReductionCoordinator F) (s : KReducer F)
    (a : KReductionRequest F × ReductionOutcomes) : Prop :=
  (s.evaluate ops render coordinator a.1 a.2).approved = true →
    a.1.targetK ≤ s.manager.currentK

theorem currentK_executeKReduction {F : Type*} {m : LifecycleManager F} {o : ReductionOutcomes}
    {response : KReductionResponse} (h : (m.executeKReduction o response).2 = .ok ()) :
    (m.executeKReduction o response).1.currentK = response.newK := by
  grind [LifecycleManager.executeKReduction]

theorem manager_processRequest (s : KReducer F) (a : KReductionRequest F × ReductionOutcomes) :
    (s.processRequest ops render coordinator a).manager =
      if (s.evaluate ops render coordinator a.1 a.2).approved then
        (s.manager.executeKReduction a.2 (s.evaluate ops render coordinator a.1 a.2)).1
      else s.manager := by
  unfold processRequest
  dsimp only
  split_ifs
  · rfl
  · rfl

/-- Whatever is asked for, fails and is taken back, a pinned resident adapter stays so, and loaded. -/
theorem keeps_pollKReductionEvents {i : UInt16} : LifecycleManager.Keeps i s.manager
    (s.pollKReductionEvents ops render coordinator requests).1.manager := by
  refine run_invariant (I := fun t : KReducer F => LifecycleManager.Keeps i s.manager t.manager) ?_
    (.refl i s.manager) requests
  intro t a h
  rw [manager_processRequest]
  split_ifs
  · exact h.trans LifecycleManager.keeps_executeKReduction
  · exact h

theorem currentK_processRequest (h : EvictionsSucceed ops render coordinator s a) :
    (s.processRequest ops render coordinator a).manager.currentK =
      if (s.evaluate ops render coordinator a.1 a.2).approved then a.1.targetK
      else s.manager.currentK := by
  rw [manager_processRequest]
  split_ifs with happroved
  · rw [currentK_executeKReduction (h happroved)]
    exact (LifecycleKReductionCoordinator.evaluateRequest_approved happroved).1
  · rfl

theorem minK_processRequest (h : EvictionsSucceed ops render coordinator s a)
    (hmin : coordinator.minK ≤ s.manager.currentK) :
    coordinator.minK ≤ (s.processRequest ops render coordinator a).manager.currentK := by
  rw [currentK_processRequest h]
  split_ifs with happroved
  · exact (LifecycleKReductionCoordinator.evaluateRequest_approved happroved).2
  · exact hmin

theorem processRequest_le_iff (h : EvictionsSucceed ops render coordinator s a) :
    (s.processRequest ops render coordinator a).manager.currentK ≤ s.manager.currentK ↔
      NotStale ops render coordinator s a := by
  rw [currentK_processRequest h]
  unfold NotStale
  split_ifs with happroved
  · exact ⟨fun hle _ => hle, fun hle => hle happroved⟩
  · exact ⟨fun _ hyes => absurd hyes happroved, fun _ => Nat.le_refl _⟩

/-- Along a queue of requests K never goes below its minimum, and it never rises exactly if none of
those approved is stale. -/
theorem kReduction_monotone_iff (h : Guarded (processRequest ops render coordinator)
      (EvictionsSucceed ops render coordinator) s requests) :
    (Guarded (processRequest ops render coordinator)
        (fun s a => (s.processRequest ops render coordinator a).manager.currentK ≤
          s.manager.currentK) s requests ∧
      (coordinator.minK ≤ s.manager.currentK → Always (processRequest ops render coordinator)
          (fun s => coordinator.minK ≤ s.manager.currentK) s requests)) ↔
      Guarded (processRequest ops render coordinator) (NotStale ops render coordinator) s
        requests := by
  rw [guarded_congr h fun s a ha => processRequest_le_iff ha, and_iff_left_iff_imp]
  intro _ hmin
  exact always_of_guarded (I := fun s => coordinator.minK ≤ s.manager.currentK)
    (fun s a hs ha => minK_processRequest ha hs) (fun _ hs => hs) hmin h

/-- Three cold adapters, with K at five. -/
def threeCold : KReducer ℚ where
  manager :=
    { states := AList.insert 1 { adapterId := "a", adapterIdx := 1, state := .cold } (AList.insert 2
        { adapterId := "b", adapterIdx := 2, state := .cold } (AList.insert 3
          { adapterId := "c", adapterIdx := 3, state := .cold } ∅))
      policy := .fromManifest .exact
      loaded := ∅
      currentK := 5
      activationTracker := .new 200 }
  history := []

def builtCoordinator : LifecycleKReductionCoordinator ℚ := ⟨5, 2, 7 / 10⟩

def urgent (currentK targetK : Nat) : KReductionRequest ℚ × ReductionOutcomes :=
  (⟨"r", targetK, currentK, 9 / 10⟩, ⟨LifecycleManager.calm, fun _ => LifecycleManager.calm⟩)

theorem kReduction_monotone_in_turn : Guarded (processRequest .exact (fun _ => "") builtCoordinator)
        (fun s a => (s.processRequest .exact (fun _ => "") builtCoordinator a).manager.currentK ≤
          s.manager.currentK) threeCold [urgent 5 4, urgent 4 2] ∧
      (builtCoordinator.minK ≤ threeCold.manager.currentK →
        Always (processRequest .exact (fun _ => "") builtCoordinator)
          (fun s => builtCoordinator.minK ≤ s.manager.currentK) threeCold
          [urgent 5 4, urgent 4 2]) := by
  have hsucceed : Guarded (processRequest .exact (fun _ => "") builtCoordinator)
      (EvictionsSucceed .exact (fun _ => "") builtCoordinator) threeCold
      [urgent 5 4, urgent 4 2] := by
    exact ⟨evictionsSucceed_of_telemetry fun _ => rfl,
      evictionsSucceed_of_telemetry fun _ => rfl, trivial⟩
  refine (kReduction_monotone_iff hsucceed).mpr ⟨?_, ?_, trivial⟩
  · intro _
    decide
  · intro _
    decide +kernel

/-- Two requests computed at five: the second takes K from two back to four. -/
theorem stale_request_raises_k :
    (run (processRequest .exact (fun _ => "") builtCoordinator) threeCold
        [urgent 5 2]).manager.currentK = 2 ∧
      (run (processRequest .exact (fun _ => "") builtCoordinator) threeCold
        [urgent 5 2, urgent 5 4]).manager.currentK = 4 ∧
      (run (processRequest .exact (fun _ => "") builtCoordinator) threeCold
        [urgent 5 2, urgent 5 4]).history.map (·.executed) = [true, true] := by
  refine ⟨?_, ?_, ?_⟩
  · decide +kernel
  · decide +kernel
  · decide +kernel

end KReducer

end AdapterOS.Lifecycle
