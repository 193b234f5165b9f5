import AdapterOS.Library.Run

/-! Calls on a shared state that look at it, wait, and then write what they have decided. When each
write is the one the call would make then, the calls have run one after another. -/
namespace Library

/-- `start` runs to the wait or to the end of the call, `finish` from the wait to the end. -/
structure TwoPhase (σ κ ω ρ : Type*) where
  start : σ → κ → σ × (ω ⊕ ρ)
  finish : σ → κ → ω → σ × ρ

inductive Progress (ω ρ : Type*) where
  | ready
  | waiting (w : ω)
  | returned (r : ρ)

/-- The shared state and how far each call has come. -/
structure Overlap (ι σ ω ρ : Type*) where
  shared : σ
  progress : ι → Progress ω ρ

def Overlap.initial {ι σ ω ρ : Type*} (s : σ) : Overlap ι σ ω ρ := ⟨s, fun _ => .ready⟩

namespace TwoPhase

variable {ι σ κ ω ρ : Type*} (T : TwoPhase σ κ ω ρ) (calls : ι → κ)

def atomic (s : σ) (k : κ) : σ × ρ :=
  match T.start s k with
  | (s', .inl w) => T.finish s' k w
  | (s', .inr r) => (s', r)

def serially (s : σ) (order : List ι) : σ := run (fun s i => (T.atomic s (calls i)).1) s order

/-- One call goes on to its wait or to its end. -/
def advance [DecidableEq ι] (c : Overlap ι σ ω ρ) (i : ι) : Overlap ι σ ω ρ :=
  match c.progress i with
  | .ready =>
    match T.start c.shared (calls i) with
    | (s, .inl w) => ⟨s, Function.update c.progress i (.waiting w)⟩
    | (s, .inr r) => ⟨s, Function.update c.progress i (.returned r)⟩
  | .waiting w =>
    ⟨(T.finish c.shared (calls i) w).1,
      Function.update c.progress i (.returned (T.finish c.shared (calls i) w).2)⟩
  | .returned _ => c

variable (good : ρ → Prop)

/-- The calls that went well, each once, reach the shared state in turn, and go well so. -/
structure Serial (s₀ : σ) (c : Overlap ι σ ω ρ) (order : List ι) : Prop where
  nodup : order.Nodup
  mem : ∀ i, i ∈ order ↔ ∃ r, c.progress i = .returned r ∧ good r
  shared : c.shared = T.serially calls s₀ order
  well : ∀ before i after, order = before ++ i :: after →
    good (T.atomic (T.serially calls s₀ before) (calls i)).2

/-- A return is that of the whole call made at this moment, or of one that changed nothing. -/
def Returns (s : σ) (k : κ) (s' : σ) (r : ρ) : Prop :=
  (good r ∧ T.atomic s k = (s', r)) ∨ (¬ good r ∧ s' = s)

/-- The next step of a call leaves the state alone, or is as good as the whole call. -/
def Settles (c : Overlap ι σ ω ρ) (i : ι) : Prop :=
  match c.progress i with
  | .ready =>
    match T.start c.shared (calls i) with
    | (s, .inl _) => s = c.shared
    | (s, .inr r) => T.Returns good c.shared (calls i) s r
  | .waiting w =>
    T.Returns good c.shared (calls i) (T.finish c.shared (calls i) w).1
      (T.finish c.shared (calls i) w).2
  | .returned _ => True

variable {T calls good} {s₀ s : σ} {c : Overlap ι σ ω ρ} {order : List ι} {i : ι} {r : ρ}

theorem serially_append (s : σ) (as bs : List ι) :
    T.serially calls s (as ++ bs) = T.serially calls (T.serially calls s as) bs :=
  run_append

theorem serial_initial (s₀ : σ) : Serial T calls good s₀ (.initial s₀) [] where
  nodup := List.nodup_nil
  mem := by
    intro i
    constructor
    · intro h
      cases h
    · rintro ⟨r, hr, -⟩
      cases hr
  shared := rfl
  well := by
    intro before i after h
    simp at h

variable [DecidableEq ι]

section Open

variable (h : Serial T calls good s₀ c order) (hopen : ∀ r, c.progress i ≠ .returned r)

include h hopen

theorem Serial.pass {p : Progress ω ρ} (hp : ∀ r, p = .returned r → ¬ good r) :
    Serial T calls good s₀ ⟨c.shared, Function.update c.progress i p⟩ order where
  nodup := h.nodup
  mem := by
    intro j
    rw [h.mem]
    by_cases hj : j = i
    · subst j
      simp only [Function.update_self]
      constructor
      · rintro ⟨r, hr, -⟩
        exact absurd hr (hopen r)
      · rintro ⟨r, hr, hgood⟩
        exact absurd hgood (hp r hr)
    · simp only [Function.update_of_ne hj]
  shared := h.shared
  well := h.well

theorem Serial.extend (hgood : good r) (hatomic : T.atomic c.shared (calls i) = (s, r)) :
    Serial T calls good s₀ ⟨s, Function.update c.progress i (.returned r)⟩ (order ++ [i]) where
  nodup := by
    have hnew : i ∉ order := by
      intro hi
      obtain ⟨r', hr', -⟩ := (h.mem i).mp hi
      exact hopen r' hr'
    rw [List.nodup_append]
    refine ⟨h.nodup, by simp, ?_⟩
    intro a ha b hb hab
    rw [List.mem_singleton.mp hb] at hab
    exact hnew (hab ▸ ha)
  mem := by
    intro j
    rw [List.mem_append, List.mem_singleton, h.mem]
    by_cases hj : j = i
    · subst j
      simp [hgood]
    · simp [hj]
  shared := by
    rw [serially_append, ← h.shared]
    change s = (T.atomic c.shared (calls i)).1
    rw [hatomic]
  well := by
    intro before j after hsplit
    rcases List.eq_nil_or_concat after with rfl | ⟨after', last, rfl⟩
    · obtain ⟨rfl, hij⟩ := List.append_inj' hsplit rfl
      obtain rfl : i = j := by simpa using hij
      rw [← h.shared, hatomic]
      exact hgood
    · have hsplit' : order ++ [i] = (before ++ j :: after') ++ [last] := by
        rw [hsplit]
        simp
      obtain ⟨horder, -⟩ := List.append_inj' hsplit' rfl
      exact h.well before j after' horder

theorem Serial.returns (hr : T.Returns good c.shared (calls i) s r) :
    ∃ order', Serial T calls good s₀ ⟨s, Function.update c.progress i (.returned r)⟩ order' := by
  rcases hr with ⟨hgood, hatomic⟩ | ⟨hbad, rfl⟩
  · exact ⟨_, h.extend hopen hgood hatomic⟩
  · refine ⟨order, h.pass hopen ?_⟩
    rintro r' hr'
    cases hr'
    exact hbad

end Open

theorem serial_advance (h : Serial T calls good s₀ c order) (hs : T.Settles calls good c i) :
    ∃ order', Serial T calls good s₀ (T.advance calls c i) order' := by
  unfold Settles at hs
  unfold advance
  cases hp : c.progress i with
  | ready =>
    have hopen : ∀ r, c.progress i ≠ .returned r := by
      intro r hr
      rw [hp] at hr
      cases hr
    simp only [hp] at hs
    rcases hstart : T.start c.shared (calls i) with ⟨s, w | r⟩
    · simp only [hstart] at hs ⊢
      subst s
      refine ⟨order, h.pass hopen ?_⟩
      rintro r hr
      cases hr
    · simp only [hstart] at hs ⊢
      exact h.returns hopen hs
  | waiting w =>
    have hopen : ∀ r, c.progress i ≠ .returned r := by
      intro r hr
      rw [hp] at hr
      cases hr
    simp only [hp] at hs
    exact h.returns hopen hs
  | returned r => exact ⟨order, h⟩

/-- When the steps of a run all settle, by what an invariant says of them, the overlap is a serial
execution of what went well. -/
theorem serial_of_guarded {I : Overlap ι σ ω ρ → Prop} {G : Overlap ι σ ω ρ → ι → Prop}
    {schedule : List ι} (hinit : I (.initial s₀))
    (hstep : ∀ c i, I c → G c i → I (T.advance calls c i))
    (hsettles : ∀ c i, I c → G c i → T.Settles calls good c i)
    (hg : Guarded (T.advance calls) G (.initial s₀) schedule) :
    ∃ order, Serial T calls good s₀ (run (T.advance calls) (.initial s₀) schedule) order := by
  have halways : Always (T.advance calls)
      (fun c => I c ∧ ∃ order, Serial T calls good s₀ c order) (.initial s₀) schedule := by
    refine always_of_guarded ?_ (fun _ => id) ⟨hinit, [], serial_initial s₀⟩ hg
    rintro c i ⟨hi, order, hserial⟩ hguard
    exact ⟨hstep c i hi hguard, serial_advance hserial (hsettles c i hi hguard)⟩
  exact (halways.initial (List.prefix_refl schedule)).2

end TwoPhase

end Library
