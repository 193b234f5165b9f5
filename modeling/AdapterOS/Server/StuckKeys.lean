import AdapterOS.Server.AtMostOnce

/-! Keys that stay in progress. The entry of a key is completed or removed after a success, a client
error and a server error; after any other status it stays, and no cleanup takes it away. -/
namespace AdapterOS.Server

open Library

variable {n : Nat} {c : Middleware n} {t : Fin n} {k : String}

namespace Pc

def marked? : Pc → Option String
  | .starting key marked | .executing key marked | .collecting key marked _
  | .storing key marked _ _ | .removing key marked _ => if marked then some key else none
  | _ => none

theorem marked_eq (pc : Pc) :
    pc.marked? = pc.holder?.bind fun p => if p.2 then some p.1 else none := by
  cases pc <;> rfl

theorem key_of_marked {pc : Pc} (h : pc.marked? = some k) : pc.key? = some k := by
  cases pc <;> simp_all [marked?, key?]

theorem marked_of_holder {pc : Pc} {key : String} {marked : Bool}
    (h : pc.holder? = some (key, marked)) (hk : pc.marked? = some k) : k = key := by
  rw [marked_eq, h] at hk
  exact (Option.some.inj (Option.ite_none_right_eq_some.mp hk).2).symm

def runsMarked : Pc → Bool
  | .executing _ marked => marked
  | _ => false

end Pc

namespace Middleware

/-- A request that nothing interrupts is executed, or answered with the stored response, and is not
refused with a conflict. -/
def Served (c : Middleware n) (t : Fin n) (r : Request) (k : String) : Prop :=
  let pc := (run step c [.request t r, .advance t, .advance t, .advance t]).pc t
  pc ≠ .returned conflict ∧
    ((∃ marked, pc = .executing k marked) ∨
      ∃ cached, c.store.getResponse k c.now = some cached ∧
        pc = .returned (buildResponseFromCache cached))

/-- A key of which no request is being processed is not in progress, and its next request is
served. -/
def Unstuck (c : Middleware n) : Prop :=
  ∀ k, (∀ t, (c.pc t).key? ≠ some k) →
    c.store.check k ≠ .inProgress ∧
      ∀ t r, (c.pc t).Ended → r.intake = .keyed k → c.Served t r k

/-- The handler of a request that marked its key returns a success, a client or a server error. -/
def Resolves (c : Middleware n) : Action n → Prop
  | .finish t r =>
    (c.pc t).runsMarked = true →
      r.isSuccess = true ∨ r.isClientError = true ∨ r.isServerError = true
  | _ => True

instance (c : Middleware n) : (a : Action n) → Decidable (c.Resolves a)
  | .finish t r =>
    inferInstanceAs (Decidable ((c.pc t).runsMarked = true →
      r.isSuccess = true ∨ r.isClientError = true ∨ r.isServerError = true))
  | .request .. | .advance _ | .cleanupExpired | .elapse _ => .isTrue trivial

/-- The invariant: an entry in progress has the request that marked it. -/
structure Attended (c : Middleware n) : Prop where
  marked : ∀ k entry, c.store.cache.get? k = some entry → entry.status = .inProgress →
    ∃ t, (c.pc t).marked? = some k
  known : ∀ k entry, c.store.cache.get? k = some entry → entry.status ≠ .new

section Step

/-- One request moves: every entry is an old one, completed, or marked for it, and a key it lets go
of is not in progress any more. -/
theorem Attended.goto {s : IdempotencyStore} {pc : Pc} (h : c.Attended)
    (hentry : ∀ k entry, s.cache.get? k = some entry →
      c.store.cache.get? k = some entry ∨ entry.status = .completed ∨
        entry.status = .inProgress ∧ pc.marked? = some k)
    (hpc : ∀ k, (c.pc t).marked? = some k → pc.marked? = some k ∨
      ∀ entry, s.cache.get? k = some entry → entry.status = .completed) :
    (c.goto t (s, pc)).Attended := by
  obtain ⟨⟩ := h
  constructor <;> simp only [Middleware.goto, Function.update_apply] <;> grind

theorem Attended.finish (h : c.Attended) {key : String} {marked : Bool} {r : Response}
    (hpc : c.pc t = .executing key marked) (hresolves : c.Resolves (.finish t r)) :
    (c.goto t (c.store, afterHandler key marked r)).Attended := by
  refine h.goto (fun _ _ => .inl) fun k hk => .inl ?_
  rw [hpc] at hk
  obtain ⟨rfl, -⟩ := Option.ite_none_right_eq_some.mp hk
  -- no other status comes from a handler that resolves its key
  have hclass := hresolves (by simp [hpc, Pc.runsMarked])
  unfold afterHandler
  split_ifs with hcached hserver
  · exact hk
  · exact hk
  · simp_all

theorem Attended.step (h : c.Attended) (a : Action n) (hresolves : c.Resolves a) :
    (c.step a).Attended := by
  have heffect := c.effect_step a
  generalize c.step a = c' at heffect ⊢
  have hmarked := @Pc.marked_of_holder
  cases heffect with
  | rest => exact h
  | finish hpc => exact h.finish hpc hresolves
  | cleanupExpired =>
    have hold : ∀ k entry, (c.store.cleanupExpired c.now).1.cache.get? k = some entry →
        c.store.cache.get? k = some entry := by
      grind [IdempotencyStore.cache_cleanupExpired, Option.filter_eq_some_iff]
    exact ⟨fun k entry hget => h.marked k entry (hold k entry hget),
      fun k entry hget => h.known k entry (hold k entry hget)⟩
  | elapse => exact ⟨h.marked, h.known⟩
  | store key hholder | remove key hholder =>
    refine h.goto ?_ ?_ <;>
      grind [IdempotencyStore.cache_storeResponse, IdempotencyStore.cache_remove]
  | _ =>
    refine h.goto ?_ ?_ <;> simp only [Pc.marked_eq] <;> grind [Pc.holder?]

end Step

section Serving

theorem conflict_ne_cached (cached : CachedResponse) :
    conflict ≠ buildResponseFromCache cached := by
  intro heq
  have hlast : (conflict.headers.map Prod.fst).getLast? =
      ((buildResponseFromCache cached).headers.map Prod.fst).getLast? := by rw [← heq]
  have hcached : ((buildResponseFromCache cached).headers.map Prod.fst).getLast? =
      some "x-idempotency-cached" := by simp [buildResponseFromCache]
  rw [hcached] at hlast
  revert hlast
  decide

theorem Attended.check_ne (h : c.Attended) (hfree : ∀ t, (c.pc t).key? ≠ some k) :
    c.store.check k ≠ .inProgress := by
  intro hcheck
  obtain ⟨entry, hget, hstatus⟩ := IdempotencyStore.check_eq_inProgress.mp hcheck
  obtain ⟨t, ht⟩ := h.marked k entry hget hstatus
  exact hfree t (Pc.key_of_marked ht)

theorem served_of_check (hknown : ∀ entry, c.store.cache.get? k = some entry → entry.status ≠ .new)
    (hcheck : c.store.check k ≠ .inProgress) {r : Request} (hended : (c.pc t).Ended)
    (hkey : r.intake = .keyed k) : c.Served t r k := by
  have hbegin : c.step (.request t r) = c.goto t (c.store, .checking k) := by
    grind [begin, Middleware.step, Pc.Ended]
  have hself : ∀ (c' : Middleware n) next, (c'.goto t next).pc t = next.2 := by
    intro c' next
    rw [pc_goto, if_pos rfl]
  unfold Served
  simp only [run_cons, run_nil, hbegin, step_advance, hself, store_goto, now_goto]
  grind [IdempotencyStore.check, IdempotencyStore.advance, IdempotencyStore.markInProgress,
    conflict_ne_cached]

theorem Attended.unstuck (h : c.Attended) : c.Unstuck := by
  intro k hfree
  have hcheck := h.check_ne hfree
  refine ⟨hcheck, ?_⟩
  intro t r hended hkey
  exact served_of_check (h.known k) hcheck hended hkey

/-- In a run in which the handler of every request that marked its key returns a success, a client or
a server error, no key is ever stuck. -/
theorem unstuck_of_resolves {now : Timestamp} {actions : List (Action n)}
    (hresolves : Guarded step Resolves (new n now) actions) :
    Always step Unstuck (new n now) actions := by
  refine always_of_guarded (I := Attended) (fun _ a h => h.step a) (fun _ h => h.unstuck) ?_
    hresolves
  exact ⟨nofun, nofun⟩

/-- A server error leaves the key free for a retry. -/
theorem unstuck_serverError : Always step Unstuck (new 2 0)
      (starts p₀ ++ [.finish p₀ (sampleResponse 503), .advance p₀] ++ starts p₁ ++ completes p₁) :=
  unstuck_of_resolves (by decide)

/-- After a redirect the key stays in progress: with no request under way, and after any cleanup, the
next request is refused. -/
theorem not_unstuck_redirect : ¬ Always step Unstuck (new 2 0)
      (starts p₀ ++ [.finish p₀ (sampleResponse 303), .elapse 86400, .cleanupExpired]) := by
  intro halways
  have hunstuck := halways.initial (List.prefix_refl _)
  have hfree : ∀ t, ((run step (new 2 0) (starts p₀ ++ [.finish p₀ (sampleResponse 303),
      .elapse 86400, .cleanupExpired])).pc t).key? ≠ some "k" := by
    decide
  have hstuck : (run step (new 2 0) (starts p₀ ++ [.finish p₀ (sampleResponse 303),
      .elapse 86400, .cleanupExpired])).store.check "k" = .inProgress := by
    decide
  exact (hunstuck "k" hfree).1 hstuck

end Serving

end Middleware

end AdapterOS.Server
