import AdapterOS.Lifecycle.PinSafety

/-! Overlapping registrations. The index of a new adapter is read under one lock and filled under
another. -/
namespace AdapterOS.Lifecycle

open Library

/-- The manager with the hashes that its loader expects. -/
structure Registry (F : Type*) where
  manager : LifecycleManager F
  hashes : HashMap String B3Hash

/-- A call of `register_adapter`, with what its load meets. -/
structure Registration where
  adapterId : String
  hash : B3Hash
  category : Option String := none
  loadImmediately : Bool := false
  outcomes : Outcomes
  load : Option AosError := none

def Registration.record (k : Registration) (idx : UInt16) : AdapterHeatRecord :=
  { adapterId := k.adapterId, adapterIdx := idx, category := k.category.getD "code" }

/-- The locks that the call takes one after another, with the index it has read. -/
inductive RegistrationPc where
  | readIndex
  | registerHash (idx : UInt16)
  | insert (idx : UInt16)
  | promote (idx : UInt16)
  | reload (idx : UInt16)
  | returned (idx : UInt16)
  deriving DecidableEq

def nextIndex (states : HashMap UInt16 AdapterHeatRecord) : UInt16 :=
  match (states.keys.map UInt16.toNat).max? with
  | some k => UInt16.ofNat (k + 1)
  | none => 0

namespace LifecycleManager

variable {F : Type*} (m : LifecycleManager F)

def getAdapterIdx (o : Outcomes) (name : String) : Option UInt16 := m.named o name

/-- Only an adapter that is unloaded goes to the loader. -/
def getOrReload (o : Outcomes) (load : Option AosError) (name : String) :
    LifecycleManager F × Except AosError Unit :=
  match m.named o name with
  | none => (m, .ok ())
  | some key =>
    match m.states.get? key with
    | none => (m, .ok ())
    | some r =>
      if r.state = .unloaded then
        match load with
        | some err => (m, .error err)
        | none =>
          ({ m with loaded := m.loaded.insert r.adapterIdx () }.put key { r with state := .cold },
            .ok ())
      else (m, .ok ())

def promoteRecord (idx : UInt16) : LifecycleManager F :=
  match m.states.get? idx with
  | some r => m.put idx r.promote.1
  | none => m

end LifecycleManager

/-- The registry and how far each call has come. -/
structure Registering (ι F : Type*) where
  registry : Registry F
  pc : ι → RegistrationPc

namespace Registering

variable {ι F : Type*}

def initial (registry : Registry F) : Registering ι F := ⟨registry, fun _ => .readIndex⟩

def states (c : Registering ι F) : HashMap UInt16 AdapterHeatRecord := c.registry.manager.states

/-- Up to the next lock. -/
def advance [DecidableEq ι] (calls : ι → Registration) (c : Registering ι F) (i : ι) :
    Registering ι F :=
  let k := calls i
  let goto (registry : Registry F) (pc : RegistrationPc) : Registering ι F :=
    ⟨registry, Function.update c.pc i pc⟩
  let m := c.registry.manager
  match c.pc i with
  | .readIndex => goto c.registry (.registerHash (nextIndex m.states))
  | .registerHash idx =>
    goto { c.registry with hashes := c.registry.hashes.insert k.adapterId k.hash } (.insert idx)
  | .insert idx =>
    goto { c.registry with manager := m.put idx (k.record idx) }
      (if k.loadImmediately then .promote idx else .returned idx)
  | .promote idx => goto { c.registry with manager := m.promoteRecord idx } (.reload idx)
  | .reload idx =>
    goto { c.registry with manager := (m.getOrReload k.outcomes k.load k.adapterId).1 }
      (.returned idx)
  | .returned _ => c

end Registering

def RegistrationPc.placed : RegistrationPc → Option UInt16
  | .promote idx | .reload idx | .returned idx => some idx
  | _ => none

def SameNames (states states' : HashMap UInt16 AdapterHeatRecord) : Prop :=
  ∀ k, (states'.get? k).map (fun r => (r.adapterId, r.adapterIdx)) =
    (states.get? k).map fun r => (r.adapterId, r.adapterIdx)

theorem SameNames.refl (states : HashMap UInt16 AdapterHeatRecord) : SameNames states states :=
  fun _ => rfl

namespace LifecycleManager

variable {F : Type*} {m : LifecycleManager F} {key : UInt16} {r r' : AdapterHeatRecord}

theorem sameNames_put (hget : m.states.get? key = some r) (hid : r'.adapterId = r.adapterId)
    (hidx : r'.adapterIdx = r.adapterIdx) : SameNames m.states (m.put key r').states := by
  intro k
  rw [get?_put]
  split_ifs with hk
  · rw [hk, hget, Option.map_some, Option.map_some, hid, hidx]
  · rfl

theorem sameNames_promoteRecord (m : LifecycleManager F) (idx : UInt16) :
    SameNames m.states (m.promoteRecord idx).states := by
  grind [promoteRecord, SameNames.refl, AdapterHeatRecord.promote, sameNames_put]

theorem sameNames_getOrReload (m : LifecycleManager F) (o : Outcomes) (load : Option AosError)
    (name : String) : SameNames m.states (m.getOrReload o load name).1.states := by
  unfold getOrReload
  cases m.named o name with
  | none => exact SameNames.refl _
  | some key =>
    simp only
    cases hget : m.states.get? key with
    | none => exact SameNames.refl _
    | some r =>
      simp only
      split_ifs
      · cases load with
        | some err => exact SameNames.refl _
        | none => exact sameNames_put (m := { m with loaded := _ }) hget rfl rfl
      · exact SameNames.refl _

end LifecycleManager

namespace Registering

variable {ι F : Type*} {calls : ι → Registration} {c c' : Registering ι F} {i : ι}
  {registry : Registry F}

/-- What a step can do: insert an adapter, or leave every adapter where it is. -/
inductive Effect (calls : ι → Registration) (c : Registering ι F) (i : ι) :
    Registering ι F → Prop where
  | keep {c' : Registering ι F} (hnames : SameNames c.states c'.states)
      (hplaced : ∀ j, (c'.pc j).placed = (c.pc j).placed) : Effect calls c i c'
  | insert {c' : Registering ι F} {idx : UInt16} (hpc : c.pc i = .insert idx)
      (hstates : c'.states = c.states.insert idx ((calls i).record idx))
      (hself : (c'.pc i).placed = some idx)
      (hothers : ∀ j, j ≠ i → (c'.pc j).placed = (c.pc j).placed) : Effect calls c i c'

theorem effect_advance [DecidableEq ι] (calls : ι → Registration) (c : Registering ι F) (i : ι) :
    Effect calls c i (c.advance calls i) := by
  have hplaced : ∀ pc : RegistrationPc, pc.placed = (c.pc i).placed →
      ∀ j, (Function.update c.pc i pc j).placed = (c.pc j).placed := by grind
  unfold advance
  cases hp : c.pc i with
  | readIndex | registerHash idx =>
    refine .keep (SameNames.refl _) (hplaced _ ?_)
    rw [hp]
    rfl
  | insert idx =>
    refine .insert hp rfl ?_ ?_
    · simp only [Function.update_self]
      split_ifs
      · rfl
      · rfl
    · intro j hj
      simp only [Function.update_of_ne hj]
  | promote idx =>
    refine .keep (LifecycleManager.sameNames_promoteRecord _ idx) (hplaced _ ?_)
    rw [hp]
    rfl
  | reload idx =>
    refine .keep (LifecycleManager.sameNames_getOrReload _ _ _ _) (hplaced _ ?_)
    rw [hp]
    rfl
  | returned idx => exact .keep (SameNames.refl _) (fun _ => rfl)

def SlotFree (c : Registering ι F) (i : ι) : Prop := ∀ idx, c.pc i = .insert idx → idx ∉ c.states

/-- Every adapter that was inserted is under its index, no two have the same, and nothing else has
come to what was there at first. -/
structure Distinct (calls : ι → Registration) (registry : Registry F) (c : Registering ι F) :
    Prop where
  found : ∀ i idx, (c.pc i).placed = some idx →
    ∃ r, c.states.get? idx = some r ∧ r.adapterId = (calls i).adapterId ∧ r.adapterIdx = idx
  injective : ∀ i j idx, (c.pc i).placed = some idx → (c.pc j).placed = some idx → i = j
  origin : ∀ k r, c.states.get? k = some r →
    (∃ r₀, registry.manager.states.get? k = some r₀ ∧ r₀.adapterId = r.adapterId) ∨
      ∃ i, (c.pc i).placed = some k

theorem distinct_initial (calls : ι → Registration) (registry : Registry F) :
    Distinct calls registry (initial registry) where
  found := by
    intro i idx h
    cases h
  injective := by
    intro i j idx h
    cases h
  origin := by
    intro k r h
    exact Or.inl ⟨r, h, rfl⟩

theorem Distinct.keep (h : Distinct calls registry c) (hnames : SameNames c.states c'.states)
    (hplaced : ∀ j, (c'.pc j).placed = (c.pc j).placed) : Distinct calls registry c' where
  found := by
    intro j idx hj
    rw [hplaced] at hj
    obtain ⟨r, hget, hid, hidx⟩ := h.found j idx hj
    have hsame := hnames idx
    rw [hget, Option.map_some, Option.map_eq_some_iff] at hsame
    obtain ⟨r', hget', hr'⟩ := hsame
    obtain ⟨hid', hidx'⟩ := Prod.mk.inj hr'
    exact ⟨r', hget', hid'.trans hid, hidx'.trans hidx⟩
  injective := by
    intro j k idx hj hk
    rw [hplaced] at hj hk
    exact h.injective j k idx hj hk
  origin := by
    intro k r hget
    have hsame := hnames k
    rw [hget, Option.map_some, eq_comm, Option.map_eq_some_iff] at hsame
    obtain ⟨r₁, hget₁, hr₁⟩ := hsame
    rcases h.origin k r₁ hget₁ with ⟨r₀, hget₀, hid⟩ | ⟨i, hi⟩
    · exact Or.inl ⟨r₀, hget₀, hid.trans (congrArg Prod.fst hr₁)⟩
    · exact Or.inr ⟨i, (hplaced i).trans hi⟩

theorem Distinct.insert {idx : UInt16} (h : Distinct calls registry c) (hfree : idx ∉ c.states)
    (hpc : (c.pc i).placed = none)
    (hstates : c'.states = c.states.insert idx ((calls i).record idx))
    (hself : (c'.pc i).placed = some idx)
    (hothers : ∀ j, j ≠ i → (c'.pc j).placed = (c.pc j).placed) : Distinct calls registry c' := by
  have helse : ∀ j k, j ≠ i → (c'.pc j).placed = some k → k ≠ idx ∧ (c.pc j).placed = some k := by
    obtain ⟨⟩ := h
    grind
  refine ⟨?_, ?_, ?_⟩
  · intro j k hk
    rw [hstates]
    by_cases hj : j = i
    · subst j
      rw [hself] at hk
      cases hk
      exact ⟨_, AList.get?_insert_self _ _ _, rfl, rfl⟩
    · obtain ⟨⟩ := h
      grind [AList.get?_insert_ne]
  · intro j k l hj hk
    by_cases hji : j = i
    · grind
    · obtain ⟨⟩ := h
      grind
  · obtain ⟨⟩ := h
    grind [AList.get?_insert_ne]

theorem distinct_advance [DecidableEq ι] (h : Distinct calls registry c) (hfree : SlotFree c i) :
    Distinct calls registry (c.advance calls i) := by
  have heffect := effect_advance calls c i
  generalize c.advance calls i = c' at heffect ⊢
  cases heffect with
  | keep hnames hplaced => exact h.keep hnames hplaced
  | insert hpc hstates hself hothers =>
    refine h.insert (hfree _ hpc) ?_ hstates hself hothers
    rw [hpc]
    rfl

theorem getAdapterIdx_eq {idx : UInt16} (h : Distinct calls registry c)
    (hnames : ∀ i j, (calls i).adapterId = (calls j).adapterId → i = j)
    (hnew : ∀ k r, registry.manager.states.get? k = some r → ∀ i, r.adapterId ≠ (calls i).adapterId)
    (o : Outcomes) (hi : (c.pc i).placed = some idx) :
    c.registry.manager.getAdapterIdx o (calls i).adapterId = some idx := by
  obtain ⟨r, hget, hid, -⟩ := h.found i idx hi
  unfold LifecycleManager.getAdapterIdx LifecycleManager.named
  cases hfind : (o.order.visit c.registry.manager.states.items).find?
      (fun e => e.2.adapterId = (calls i).adapterId) with
  | none =>
    rw [List.find?_eq_none] at hfind
    have hmem : (idx, r) ∈ o.order.visit c.registry.manager.states.items := by
      rw [Iteration.mem_visit, AList.mem_items]
      exact hget
    exact absurd (decide_eq_true hid) (hfind (idx, r) hmem)
  | some e =>
    obtain ⟨k, r'⟩ := e
    have hyes := List.find?_some hfind
    have hname : r'.adapterId = (calls i).adapterId := of_decide_eq_true hyes
    have hmem := List.mem_of_find?_eq_some hfind
    rw [Iteration.mem_visit, AList.mem_items] at hmem
    rcases h.origin k r' hmem with ⟨r₀, hget₀, hid₀⟩ | ⟨j, hj⟩
    · exact absurd (hid₀.trans hname) (hnew k r₀ hget₀ i)
    · obtain ⟨r'', hget'', hid'', -⟩ := h.found j k hj
      have hsame : r'' = r' := Option.some.inj (hget''.symm.trans hmem)
      grind

/-- Where every registration finds its slot still free, the indices that are returned are pairwise
distinct, and each adapter is found under its own; also by its name, if that is new and its own. -/
theorem registrations_distinct [DecidableEq ι] {schedule : List ι}
    (hg : Guarded (advance calls) SlotFree (initial registry) schedule) :
    (∀ i j idx idx', (run (advance calls) (initial registry) schedule).pc i = .returned idx →
      (run (advance calls) (initial registry) schedule).pc j = .returned idx' → i ≠ j →
      idx ≠ idx') ∧
    (∀ i idx, (run (advance calls) (initial registry) schedule).pc i = .returned idx →
      ∃ r, (run (advance calls) (initial registry) schedule).states.get? idx = some r ∧
        r.adapterId = (calls i).adapterId ∧ r.adapterIdx = idx) ∧
    ((∀ i j, (calls i).adapterId = (calls j).adapterId → i = j) →
      (∀ k r, registry.manager.states.get? k = some r → ∀ i, r.adapterId ≠ (calls i).adapterId) →
      ∀ o i idx, (run (advance calls) (initial registry) schedule).pc i = .returned idx →
        (run (advance calls) (initial registry) schedule).registry.manager.getAdapterIdx o
          (calls i).adapterId = some idx) := by
  have halways : Always (advance calls) (Distinct calls registry) (initial registry) schedule :=
    always_of_guarded (fun c i => distinct_advance) (fun _ => id)
      (distinct_initial calls registry) hg
  have hdistinct := halways.initial (List.prefix_refl schedule)
  generalize run (advance calls) (initial registry) schedule = c at hdistinct ⊢
  have hplaced : ∀ i idx, c.pc i = .returned idx → (c.pc i).placed = some idx := by
    intro i idx h
    rw [h]
    rfl
  refine ⟨?_, ?_, ?_⟩
  · obtain ⟨⟩ := hdistinct
    grind
  · intro i idx hi
    exact hdistinct.found i idx (hplaced i idx hi)
  · intro hnames hnew o i idx hi
    exact getAdapterIdx_eq hdistinct hnames hnew o (hplaced i idx hi)

def emptyRegistry : Registry ℚ where
  manager :=
    { states := ∅
      policy := .fromManifest .exact
      loaded := ∅
      currentK := 4
      activationTracker := .new 200 }
  hashes := ∅

def registerTwo (i : Fin 2) : Registration :=
  if i = p₀ then { adapterId := "a", hash := 1, outcomes := LifecycleManager.calm }
  else { adapterId := "b", hash := 2, loadImmediately := true, outcomes := LifecycleManager.calm }

theorem registrations_distinct_in_turn :
    (run (advance registerTwo) (initial emptyRegistry) [p₀, p₀, p₀, p₁, p₁, p₁, p₁, p₁]).pc p₀ =
        .returned 0 ∧
      (run (advance registerTwo) (initial emptyRegistry) [p₀, p₀, p₀, p₁, p₁, p₁, p₁, p₁]).pc p₁ =
        .returned 1 ∧
      (0 : UInt16) ≠ 1 := by
  have hfree : Guarded (advance registerTwo) SlotFree (initial emptyRegistry)
      [p₀, p₀, p₀, p₁, p₁, p₁, p₁, p₁] := by
    refine ⟨?_, ?_, ?_, ?_, ?_, ?_, ?_, ?_, trivial⟩
    all_goals
      intro idx hpc
      cases hpc
      try decide
  exact ⟨rfl, rfl, (registrations_distinct hfree).1 p₀ p₁ 0 1 rfl rfl (by decide)⟩

/-- Both read the index before either fills it: the second adapter takes the place of the first. -/
theorem registrations_collide :
    (run (advance registerTwo) (initial emptyRegistry) [p₀, p₁, p₀, p₁, p₀, p₁, p₁, p₁]).pc p₀ =
        .returned 0 ∧
      (run (advance registerTwo) (initial emptyRegistry) [p₀, p₁, p₀, p₁, p₀, p₁, p₁, p₁]).pc p₁ =
        .returned 0 ∧
      ((run (advance registerTwo) (initial emptyRegistry)
        [p₀, p₁, p₀, p₁, p₀, p₁, p₁, p₁]).states.get? 0).map (·.adapterId) = some "b" := by
  refine ⟨rfl, rfl, ?_⟩
  decide

end Registering

end AdapterOS.Lifecycle
