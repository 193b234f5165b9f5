import AdapterOS.HotSwap.Manager
import AdapterOS.HotSwap.TableInvariant

/-! The VRAM change that a swap reports, against the change of the table's total. -/
namespace AdapterOS.HotSwap

open Library AdapterTable

variable {t : AdapterTable} {active staged m : AdapterMap} {id : AdapterId}
  {addIds removeIds ids : List AdapterId} {adapter : AdapterLoadState} {delta : Int} {count : Nat}

def loadMb (m : AdapterMap) : Nat := (m.items.map (·.2.vramMb)).sum

theorem totalVramMb_eq (t : AdapterTable) : t.totalVramMb = loadMb t.active % 2 ^ 64 := by
  have hfold : ∀ (es : List (AdapterId × AdapterLoadState)) (sum : Nat), sum < 2 ^ 64 →
      es.foldl (fun sum e => wrap64 (sum + e.2.vramMb)) sum =
        (sum + (es.map (·.2.vramMb)).sum) % 2 ^ 64 := by
    intro es
    induction es with
    | nil =>
      intro sum hsum
      exact (Nat.mod_eq_of_lt hsum).symm
    | cons e es ih =>
      intro sum _
      have hlt : wrap64 (sum + e.2.vramMb) < 2 ^ 64 := Nat.mod_lt _ (by decide)
      rw [List.foldl_cons, ih _ hlt, List.map_cons, List.sum_cons, ← Nat.add_assoc]
      exact Nat.mod_add_mod _ _ _
  have htotal := hfold t.active.items 0 (by decide)
  rw [Nat.zero_add] at htotal
  exact htotal

def entryMb (m : AdapterMap) (id : AdapterId) : Nat := ((m.get? id).map (·.vramMb)).getD 0

theorem entryMb_of_some (h : m.get? id = some adapter) : entryMb m id = adapter.vramMb := by
  rw [entryMb, h]
  rfl

theorem entryMb_of_notMem (h : id ∉ m) : entryMb m id = 0 := by
  rw [entryMb, AList.get?_eq_none.mpr h]
  rfl

theorem loadMb_eq_entry_add (m : AdapterMap) (id : AdapterId) :
    loadMb m = entryMb m id + loadMb (m.erase id) := by
  by_cases hm : id ∈ m
  · obtain ⟨adapter, hget⟩ := AList.mem_iff_get?.mp hm
    have hperm := (AList.items_erase_perm hget).map (·.2.vramMb)
    rw [entryMb_of_some hget, loadMb, hperm.sum_nat]
    rfl
  · rw [entryMb_of_notMem hm, Nat.zero_add, loadMb, loadMb, AList.items_erase_of_notMem hm]

theorem loadMb_insert (m : AdapterMap) (id : AdapterId) (adapter : AdapterLoadState) :
    loadMb (m.insert id adapter) + entryMb m id = adapter.vramMb + loadMb m := by
  have hinsert : loadMb (m.insert id adapter) = adapter.vramMb + loadMb (m.erase id) := by
    rw [loadMb, AList.items_insert]
    rfl
  have hsplit := loadMb_eq_entry_add m id
  omega

def unloadedMb : AdapterMap → List AdapterId → Nat
  | _, [] => 0
  | m, id :: ids =>
    match m.get? id with
    | some adapter => adapter.vramMb + unloadedMb (m.erase id) ids
    | none => unloadedMb m ids

def stagedMb (staged : AdapterMap) (ids : List AdapterId) : Nat := (ids.map (entryMb staged)).sum

/-- Megabytes that the additions overwrite: entries still active, or added a moment before. -/
def replacedMb (staged : AdapterMap) : AdapterMap → List AdapterId → Nat
  | _, [] => 0
  | m, id :: ids =>
    match staged.get? id with
    | some adapter => entryMb m id + replacedMb staged (m.insert id (activate adapter)) ids
    | none => replacedMb staged m ids

theorem asI64_add_asI64 (a b : Int) : asI64 (asI64 a + asI64 b) = asI64 (a + b) := by
  simp [asI64]

theorem asI64_sub_asI64 (a b : Int) : asI64 (asI64 a - asI64 b) = asI64 (a - b) := by
  simp [asI64]

theorem loadMb_removeActive (m : AdapterMap) (delta : Int) (ids : List AdapterId) :
    loadMb (removeActive m delta ids).1 + unloadedMb m ids = loadMb m := by
  induction ids generalizing m delta with
  | nil => rfl
  | cons id ids ih => grind [loadMb_eq_entry_add, entryMb_of_some, removeActive, unloadedMb]

theorem delta_removeActive (m : AdapterMap) (delta : Int) (ids : List AdapterId) :
    (removeActive m (asI64 delta) ids).2 = asI64 (delta - unloadedMb m ids) := by
  induction ids generalizing m delta with
  | nil => simp [removeActive, unloadedMb]
  | cons id ids ih =>
    cases hget : m.get? id with
    | some adapter =>
      simp only [removeActive, hget, unloadedMb]
      rw [asI64_sub_asI64, ih]
      congr 1
      push_cast
      omega
    | none => simpa only [removeActive, hget, unloadedMb] using ih m delta

theorem addStaged_accounts {delta delta' : Int} {count count' : Nat} {m' : AdapterMap}
    (h : addStaged staged m (asI64 delta) count ids = .ok (m', delta', count')) :
    loadMb m' + replacedMb staged m ids = loadMb m + stagedMb staged ids ∧
      delta' = asI64 (delta + stagedMb staged ids) := by
  induction ids generalizing m delta count with
  | nil => cases h; simp [replacedMb, stagedMb]
  | cons id ids ih =>
    cases hget : staged.get? id with
    | none => simp [addStaged, hget] at h
    | some adapter =>
      simp only [addStaged, hget] at h
      rw [asI64_add_asI64] at h
      obtain ⟨hload, hdelta⟩ := ih h
      have hinsert := loadMb_insert m id (activate adapter)
      have hcounted : stagedMb staged (id :: ids) = adapter.vramMb + stagedMb staged ids := by
        simp [stagedMb, entryMb_of_some hget]
      have hsame : (activate adapter).vramMb = adapter.vramMb := rfl
      grind [replacedMb]

def AdapterTable.overwrittenMb (t : AdapterTable) (addIds removeIds : List AdapterId) : Nat :=
  replacedMb t.staged (removeActive t.active 0 removeIds).1 addIds

def AdapterTable.changeMb (t : AdapterTable) (addIds removeIds : List AdapterId) : Int :=
  stagedMb t.staged addIds - unloadedMb t.active removeIds - t.overwrittenMb addIds removeIds

theorem nextActive_of_swap (h : (t.swap addIds removeIds).1 = .ok (delta, count)) :
    nextActive t.active t.staged addIds removeIds =
      .ok ((t.swap addIds removeIds).2.active, delta, count) := by
  have hstaged := swap_isOk_iff.mp ⟨_, h⟩
  have hfind : addIds.find? (· ∉ t.saveRollback.staged) = none := by
    rw [List.find?_eq_none]
    intro id hid hp
    exact of_decide_eq_true hp (hstaged id hid)
  obtain ⟨d, hnext⟩ := nextActive_ok hstaged t.active removeIds
  have hswap : t.swap addIds removeIds = (.ok (d, addIds.length),
      t.saveRollback.installStack (swapActive t.active t.staged addIds removeIds)) := by
    have hsaved : nextActive t.saveRollback.active t.saveRollback.staged addIds removeIds =
        .ok (swapActive t.active t.staged addIds removeIds, d, addIds.length) := hnext
    simp only [swap, hfind, hsaved]
  rw [hswap] at h ⊢
  cases h
  rw [(installStack_spec _ _).active_eq]
  exact hnext

theorem swap_accounts (h : (t.swap addIds removeIds).1 = .ok (delta, count)) :
    (loadMb (t.swap addIds removeIds).2.active : Int) =
        loadMb t.active + t.changeMb addIds removeIds ∧
      delta = asI64 (t.changeMb addIds removeIds + t.overwrittenMb addIds removeIds) := by
  have hnext := nextActive_of_swap h
  have hremoved := loadMb_removeActive t.active 0 removeIds
  have hdelta := delta_removeActive t.active 0 removeIds
  have hzero : asI64 0 = 0 := rfl
  rw [hzero] at hdelta
  rw [nextActive, hdelta] at hnext
  obtain ⟨hload, hcounted⟩ := addStaged_accounts hnext
  unfold changeMb overwrittenMb
  refine ⟨by omega, ?_⟩
  rw [hcounted]
  congr 1
  omega

/-- The change of the 64-bit total is a signed 64-bit number. -/
def AdapterTable.ChangeFits (t : AdapterTable) (addIds removeIds : List AdapterId) : Prop :=
  -2 ^ 63 ≤ (loadMb t.active + t.changeMb addIds removeIds) % 2 ^ 64 - t.totalVramMb ∧
    (loadMb t.active + t.changeMb addIds removeIds) % 2 ^ 64 - t.totalVramMb < 2 ^ 63

theorem asI64_eq_iff (change twice load : Int) :
    asI64 (change + twice) = (load + change) % 2 ^ 64 - load % 2 ^ 64 ↔
      2 ^ 64 ∣ twice ∧ -2 ^ 63 ≤ (load + change) % 2 ^ 64 - load % 2 ^ 64 ∧
        (load + change) % 2 ^ 64 - load % 2 ^ 64 < 2 ^ 63 := by
  have hbmod := Int.bmod_def (change + twice) (2 ^ 64)
  unfold asI64
  omega

theorem swap_delta_eq_iff (h : (t.swap addIds removeIds).1 = .ok (delta, count)) :
    delta = ((t.swap addIds removeIds).2.totalVramMb : Int) - t.totalVramMb ↔
      2 ^ 64 ∣ t.overwrittenMb addIds removeIds ∧ t.ChangeFits addIds removeIds := by
  obtain ⟨hload, hdelta⟩ := swap_accounts h
  have hafter : ((t.swap addIds removeIds).2.totalVramMb : Int) =
      (loadMb t.active + t.changeMb addIds removeIds) % 2 ^ 64 := by
    rw [totalVramMb_eq, ← hload]
    norm_cast
  have hbefore : (t.totalVramMb : Int) = (loadMb t.active : Int) % 2 ^ 64 := by
    rw [totalVramMb_eq]
    norm_cast
  rw [hdelta, hafter, ChangeFits, hbefore, asI64_eq_iff]
  norm_cast

def Sized (m : AdapterMap) : Prop := ∀ id adapter, m.get? id = some adapter → 0 < adapter.vramMb

theorem entryMb_eq_zero_iff (h : Sized m) : entryMb m id = 0 ↔ id ∉ m := by
  constructor
  · intro hzero hm
    obtain ⟨adapter, hget⟩ := AList.mem_iff_get?.mp hm
    have hpos := h id adapter hget
    rw [entryMb_of_some hget] at hzero
    omega
  · exact entryMb_of_notMem

theorem Sized.insert (h : Sized m) (hpos : 0 < adapter.vramMb) : Sized (m.insert id adapter) := by
  intro j other hget
  rw [AList.get?_insert] at hget
  split at hget
  · cases hget
    exact hpos
  · exact h j other hget

theorem Sized.removeActive (h : Sized m) (delta : Int) (ids : List AdapterId) :
    Sized (removeActive m delta ids).1 := by
  intro id adapter hget
  rw [get?_removeActive] at hget
  split at hget
  · cases hget
  · exact h id adapter hget

theorem replacedMb_eq_zero_iff (hs : Sized staged) (hm : Sized m) (hmem : ∀ id ∈ ids, id ∈ staged) :
    replacedMb staged m ids = 0 ↔ ids.Nodup ∧ ∀ id ∈ ids, id ∉ m := by
  induction ids generalizing m with
  | nil => simp [replacedMb]
  | cons id ids ih =>
    obtain ⟨adapter, hget⟩ := AList.mem_iff_get?.mp (hmem id List.mem_cons_self)
    have hpos : 0 < (activate adapter).vramMb := hs id adapter hget
    have hnext : Sized (m.insert id (activate adapter)) := hm.insert hpos
    have hrest := ih hnext (fun j hj => hmem j (List.mem_cons_of_mem id hj))
    simp only [replacedMb, hget, Nat.add_eq_zero_iff, entryMb_eq_zero_iff hm, hrest,
      AList.mem_insert, List.nodup_cons, List.forall_mem_cons, not_or]
    grind

def AdapterTable.AddsNew (t : AdapterTable) (addIds removeIds : List AdapterId) : Prop :=
  addIds.Nodup ∧ ∀ id ∈ addIds, id ∈ t.active → id ∈ removeIds

theorem overwrittenMb_eq_zero_iff (hs : Sized t.staged) (ha : Sized t.active)
    (hmem : ∀ id ∈ addIds, id ∈ t.staged) :
    t.overwrittenMb addIds removeIds = 0 ↔ t.AddsNew addIds removeIds := by
  have hgone : ∀ id, id ∉ (removeActive t.active 0 removeIds).1 ↔
      (id ∈ t.active → id ∈ removeIds) := by
    intro id
    rw [← AList.get?_eq_none, get?_removeActive]
    by_cases hr : id ∈ removeIds
    · simp [hr]
    · simp [hr, AList.get?_eq_none]
  rw [overwrittenMb, replacedMb_eq_zero_iff hs (ha.removeActive 0 removeIds) hmem, AddsNew]
  simp only [hgone]

theorem overwrittenMb_le (h : (t.swap addIds removeIds).1 = .ok (delta, count)) :
    t.overwrittenMb addIds removeIds ≤ loadMb t.active + stagedMb t.staged addIds := by
  have hload := (swap_accounts h).1
  unfold changeMb at hload
  omega

theorem changeFits_of_small (h : (t.swap addIds removeIds).1 = .ok (delta, count))
    (hsmall : loadMb t.active + stagedMb t.staged addIds < 2 ^ 63) :
    t.ChangeFits addIds removeIds := by
  have hload := (swap_accounts h).1
  have hchange : loadMb t.active + t.changeMb addIds removeIds ≤
      loadMb t.active + stagedMb t.staged addIds := by
    unfold changeMb
    omega
  unfold ChangeFits
  rw [totalVramMb_eq]
  omega

/-- Every map of the table holds sized adapters only. -/
structure SizedTable (t : AdapterTable) : Prop where
  active : Sized t.active
  staged : Sized t.staged
  saved : ∀ s, t.rollbackState = some s → Sized s.active

theorem sized_empty : Sized ∅ := fun _ _ h => by simp at h

theorem sizedTable_new (identity : AdapterCacheIdentity) : SizedTable (.new identity) :=
  ⟨sized_empty, sized_empty, fun _ h => by simp [AdapterTable.new] at h⟩

theorem sized_swapActive (ha : Sized active) (hs : Sized staged)
    (hmem : ∀ id ∈ addIds, id ∈ staged) (removeIds : List AdapterId) :
    Sized (swapActive active staged addIds removeIds) := by
  intro id adapter hget
  rw [get?_swapActive hmem] at hget
  split at hget
  · obtain ⟨source, hsource, rfl⟩ := Option.map_eq_some_iff.mp hget
    exact hs id source hsource
  · split at hget
    · cases hget
    · exact ha id adapter hget

theorem sized_preload (h : Sized t.staged) (id : AdapterId) (hash : B3Hash) (vramMb now : Nat) :
    Sized (t.preload id hash vramMb now).2.staged := by
  unfold preload preloadWithBacking
  split
  · exact h
  · rename_i hsize
    obtain ⟨rc, heap, he⟩ := ensureRefcount_frame (t.stage id hash hash vramMb none now) id
    rw [he]
    unfold stage
    split
    · exact h
    · exact h.insert (Nat.pos_of_ne_zero hsize)

theorem sizedTable_step (op : TableOp) (h : SizedTable t) : SizedTable (tableStep t op) := by
  cases op with
  | preload id hash vramMb now =>
    have hstaged := sized_preload h.staged id hash vramMb now
    obtain ⟨staged, rc, heap, he⟩ := preload_frame t id hash hash vramMb none now
    change SizedTable (t.preload id hash vramMb now).2
    rw [preload, he] at hstaged ⊢
    exact ⟨h.active, hstaged, h.saved⟩
  | swap addIds removeIds =>
    have hsaved : ∀ s, t.saveRollback.rollbackState = some s → Sized s.active := by
      rintro s ⟨⟩
      exact h.active
    change SizedTable (t.swap addIds removeIds).2
    rcases swap_cases t addIds removeIds with ⟨_, he⟩ | ⟨hmem, hi⟩
    · rw [he]
      exact ⟨h.active, h.staged, hsaved⟩
    · have hactive := sized_swapActive h.active h.staged hmem removeIds
      exact ⟨hi.active_eq ▸ hactive, hi.staged_eq ▸ h.staged, hi.rollbackState_eq ▸ hsaved⟩
  | rollback =>
    change SizedTable t.rollback.2
    cases hr : t.rollbackState with
    | none => rwa [rollback_none hr]
    | some s =>
      obtain ⟨_, hres⟩ := rollback_some hr
      exact ⟨hres.active_eq ▸ h.saved s hr, hres.staged_eq ▸ h.staged,
        hres.rollbackState_eq ▸ nofun⟩
  | incRef id =>
    obtain ⟨heap, he⟩ := incRef_frame t id
    simp only [tableStep, he]
    exact ⟨h.active, h.staged, h.saved⟩
  | decRef id =>
    obtain ⟨heap, he⟩ := decRef_frame t id
    simp only [tableStep, he]
    exact ⟨h.active, h.staged, h.saved⟩

theorem sizedTable_tableAfter (identity : AdapterCacheIdentity) (ops : List TableOp) :
    SizedTable (tableAfter identity ops) :=
  run_invariant (fun _ op h => sizedTable_step op h) (sizedTable_new identity) ops

/-- The reported change is right exactly when the additions overwrite nothing, up to the width
of the words that are summed; where no sum comes near that width, exactly when the ids added
are new. -/
theorem swap_reports_vram_change_iff {delta : Int} {count : Nat}
    (h : (t.swap addIds removeIds).1 = .ok (delta, count)) :
    (delta = ((t.swap addIds removeIds).2.totalVramMb : Int) - t.totalVramMb ↔
      2 ^ 64 ∣ t.overwrittenMb addIds removeIds ∧ t.ChangeFits addIds removeIds) ∧
    (∀ identity ops, t = tableAfter identity ops →
      loadMb t.active + stagedMb t.staged addIds < 2 ^ 63 →
      (delta = ((t.swap addIds removeIds).2.totalVramMb : Int) - t.totalVramMb ↔
        t.AddsNew addIds removeIds)) := by
  refine ⟨swap_delta_eq_iff h, ?_⟩
  intro identity ops hreached hsmall
  have hsized : SizedTable t := hreached ▸ sizedTable_tableAfter identity ops
  have hle := overwrittenMb_le h
  have hdvd : 2 ^ 64 ∣ t.overwrittenMb addIds removeIds ↔
      t.overwrittenMb addIds removeIds = 0 := by omega
  rw [swap_delta_eq_iff h, hdvd,
    overwrittenMb_eq_zero_iff hsized.staged hsized.active (swap_isOk_iff.mp ⟨_, h⟩)]
  exact and_iff_left (changeFits_of_small h hsmall)

/-- One adapter takes the place of another. -/
theorem swap_reports_vram_change_two :
    ((tableAfter testIdentity [.preload "a" 1 10 0, .swap ["a"] [], .preload "b" 2 4 1]).swap
        ["b"] ["a"]).1 = .ok (-6, 1) ∧
      (-6 : Int) = (((tableAfter testIdentity [.preload "a" 1 10 0, .swap ["a"] [],
        .preload "b" 2 4 1]).swap ["b"] ["a"]).2.totalVramMb : Int) -
        (tableAfter testIdentity [.preload "a" 1 10 0, .swap ["a"] [],
          .preload "b" 2 4 1]).totalVramMb := by
  refine ⟨rfl, (swap_reports_vram_change_iff rfl).1.mpr ⟨?_, ?_⟩⟩
  · decide
  · exact ⟨by decide, by decide⟩

/-- The same adapter swapped in twice: the second swap reports its size, the total stays. -/
theorem swap_counts_active_again :
    ((tableAfter testIdentity [.preload "a" 1 10 0, .swap ["a"] []]).swap ["a"] []).1 =
        .ok (10, 1) ∧
      (tableAfter testIdentity [.preload "a" 1 10 0, .swap ["a"] []]).totalVramMb = 10 ∧
      ((tableAfter testIdentity [.preload "a" 1 10 0, .swap ["a"] []]).swap
        ["a"] []).2.totalVramMb = 10 := by
  refine ⟨rfl, by decide, by decide⟩

end AdapterOS.HotSwap
