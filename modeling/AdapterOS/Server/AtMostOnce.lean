import AdapterOS.Server.Idempotency

/-! At most one execution of the handler for a key. A request that finds an expired response runs
the handler without marking the key, and nothing keeps a second one out. -/
namespace AdapterOS.Server

open Library

variable {n : Nat} {c : Middleware n} {t : Fin n} {k : String}

namespace Pc

def starting? : Pc → Option String
  | .starting key _ => some key
  | _ => none

def found? : Pc → Option String
  | .found key => some key
  | _ => none

/-- The key of a request from the moment it may run the handler until it has stored or removed. -/
def owned? : Pc → Option String
  | .starting key _ | .executing key _ | .collecting key _ _ | .storing key _ _ _
  | .removing key _ _ => some key
  | _ => none

theorem owned_eq (pc : Pc) : pc.owned? = pc.holder?.map Prod.fst := by
  cases pc <;> rfl

end Pc

namespace Middleware

def Exclusive (c : Middleware n) : Prop :=
  ∀ t u k, (c.pc t).executing? = some k → (c.pc u).executing? = some k → t = u

def StartsUncached (c : Middleware n) : Action n → Prop
  | .advance t => ∀ k ∈ (c.pc t).starting?, c.store.getResponse k c.now = none
  | _ => True

def Unexpired (c : Middleware n) : Action n → Prop
  | .advance t => ∀ k ∈ (c.pc t).found?, (c.store.getResponse k c.now).isSome = true
  | _ => True

instance (c : Middleware n) : (a : Action n) → Decidable (c.Unexpired a)
  | .advance t =>
    inferInstanceAs (Decidable (∀ k ∈ (c.pc t).found?, (c.store.getResponse k c.now).isSome = true))
  | .request .. | .finish .. | .cleanupExpired | .elapse _ => .isTrue trivial

/-- The invariant: the key of every request that may run the handler is marked, for it alone. -/
structure Marked (c : Middleware n) : Prop where
  inProgress : ∀ t k, (c.pc t).owned? = some k →
    c.store.cache.get? k = some ⟨.inProgress, none⟩
  single : ∀ t u k, (c.pc t).owned? = some k → (c.pc u).owned? = some k → t = u

section Step

theorem owned_afterHandler {key : String} {marked : Bool} {r : Response}
    (h : (afterHandler key marked r).owned? = some k) : k = key := by
  unfold afterHandler at h
  split_ifs at h <;> simp_all [Pc.owned?]

theorem Marked.goto {s : IdempotencyStore} {pc : Pc} (h : c.Marked)
    (hothers : ∀ u k, u ≠ t → (c.pc u).owned? = some k → s.cache.get? k = c.store.cache.get? k)
    (hmarked : ∀ k, pc.owned? = some k → s.cache.get? k = some ⟨.inProgress, none⟩)
    (hsingle : ∀ u k, u ≠ t → pc.owned? = some k → (c.pc u).owned? ≠ some k) :
    (c.goto t (s, pc)).Marked := by
  obtain ⟨⟩ := h
  constructor <;> simp only [Middleware.goto, Function.update_apply] <;> grind

theorem Marked.step (h : c.Marked) (a : Action n) (hfresh : c.Unexpired a) : (c.step a).Marked := by
  have heffect := c.effect_step a
  generalize c.step a = c' at heffect ⊢
  have hin := h.inProgress
  have hsingle := h.single
  have hafter := @owned_afterHandler
  simp only [Pc.owned_eq] at hin hsingle hafter
  cases heffect with
  | rest => exact h
  | expired key hpc hnone =>
    have hsome := hfresh key (by simp [hpc, Pc.found?])
    rw [hnone] at hsome
    cases hsome
  | cleanupExpired =>
    refine ⟨?_, h.single⟩
    intro t k hk
    change (c.store.cleanupExpired c.now).1.cache.get? k = _
    rw [IdempotencyStore.cache_cleanupExpired, h.inProgress t k hk]
    rfl
  | elapse => exact ⟨h.inProgress, h.single⟩
  | _ =>
    refine h.goto ?_ ?_ ?_ <;> simp only [Pc.owned_eq] <;>
      grind [Pc.holder?, IdempotencyStore.cache_storeResponse, IdempotencyStore.cache_remove]

end Step

theorem Marked.exclusive (h : c.Marked) : c.Exclusive := by
  have howned : ∀ t k, (c.pc t).executing? = some k → (c.pc t).owned? = some k := by
    intro t k hk
    cases hpc : c.pc t <;> simp_all [Pc.executing?, Pc.owned?]
  intro t u k ht hu
  exact h.single t u k (howned t k ht) (howned u k hu)

theorem Marked.startsUncached (h : c.Marked) (a : Action n) : c.StartsUncached a := by
  cases a with
  | advance t =>
    intro k hk
    have hentry : c.store.cache.get? k = some ⟨.inProgress, none⟩ := by
      refine h.inProgress t k ?_
      cases hpc : c.pc t <;> simp_all [Pc.starting?, Pc.owned?]
    simp [IdempotencyStore.getResponse, hentry]
  | _ => trivial

/-- In a run in which no request finds an expired response, executions for one key exclude each other
and none starts while an unexpired response is stored. -/
theorem atMostOnce_of_unexpired {now : Timestamp} {actions : List (Action n)}
    (hfresh : Guarded step Unexpired (new n now) actions) :
    Always step Exclusive (new n now) actions ∧
      Guarded step StartsUncached (new n now) actions := by
  have hnew : (new n now).Marked := ⟨nofun, nofun⟩
  constructor
  · exact always_of_guarded (I := Marked) (fun _ a h => h.step a) (fun _ h => h.exclusive) hnew
      hfresh
  · have hmarked : Always step Marked (new n now) actions :=
      always_of_guarded (I := Marked) (fun _ a h => h.step a) (fun _ => id) hnew hfresh
    refine guarded_of_always (I := fun _ => True) (A := fun _ _ => True) (fun _ _ _ _ _ => trivial)
      ?_ trivial hmarked (guarded_of_forall fun _ _ _ => trivial)
    intro c a _ h _ _
    exact h.startsUncached a

def sampleRequest : Request := ⟨.post, none, some [107]⟩

def sampleResponse (status : Nat) : Response := ⟨status, [], some []⟩

def starts (t : Fin 2) : List (Action 2) :=
  [.request t sampleRequest, .advance t, .advance t, .advance t]

def completes (t : Fin 2) : List (Action 2) :=
  [.finish t (sampleResponse 200), .advance t, .advance t]

/-- A retry within a day is answered from the store, and the key is free again after a cleanup. -/
theorem atMostOnce_retry : Always step Exclusive (new 2 0)
        (starts p₀ ++ starts p₁ ++ completes p₀ ++ starts p₁ ++
          [.elapse 86400, .cleanupExpired] ++ starts p₁ ++ starts p₀) ∧
      Guarded step StartsUncached (new 2 0) (starts p₀ ++ starts p₁ ++ completes p₀ ++ starts p₁ ++
          [.elapse 86400, .cleanupExpired] ++ starts p₁ ++ starts p₀) :=
  atMostOnce_of_unexpired (by decide)

/-- A day later two requests find the expired response, and both run the handler. -/
theorem not_exclusive_expired : ¬ Always step Exclusive (new 2 0)
      (starts p₀ ++ completes p₀ ++ [.elapse 86400] ++ starts p₀ ++ starts p₁) := by
  intro halways
  have hexclusive := halways.initial (List.prefix_refl _)
  exact absurd (hexclusive p₀ p₁ "k" (by decide) (by decide)) (by decide)

end Middleware

end AdapterOS.Server
