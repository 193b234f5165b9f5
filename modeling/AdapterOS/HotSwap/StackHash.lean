import AdapterOS.Core.Hex
import AdapterOS.HotSwap.ManagerSpec
import AdapterOS.Library.Ranking

/-! The stack hash that a swap predicts, and the hash of the stack that becomes active. -/
namespace AdapterOS

open Library

theorem stackBuffer_perm {adapters others : List (AdapterId × B3Hash)}
    (hkeys : (adapters.map Prod.fst).Nodup) (hperm : adapters.Perm others) :
    stackBuffer adapters = stackBuffer others := by
  have hone : ∀ x ∈ adapters, ∀ y ∈ adapters, x.1 = y.1 → x = y := by
    intro x hx y hy hxy
    exact List.inj_on_of_nodup_map hkeys hx hy hxy
  have hsort : (sortBy Prod.fst adapters).map id = (sortBy Prod.fst others).map id := by
    apply map_sortBy_eq Prod.fst <;> grind
  rw [List.map_id, List.map_id] at hsort
  exact congrArg (fun sorted => (sorted.map fun a : AdapterId × B3Hash =>
    a.1 ++ ":" ++ B3Hash.toHex a.2).foldl (· ++ ·) "") hsort

theorem computeStackHash_perm {D : Type*} (hash : ByteArray → D)
    {adapters others : List (AdapterId × B3Hash)} (hkeys : (adapters.map Prod.fst).Nodup)
    (hperm : adapters.Perm others) :
    computeStackHash hash adapters = computeStackHash hash others := by
  rw [computeStackHash, computeStackHash, stackBuffer_perm hkeys hperm]

section Binding

variable {adapters others : List (AdapterId × B3Hash)}

def stackText (adapters : List (AdapterId × B3Hash)) : List Char :=
  adapters.flatMap fun a => a.1.toList ++ ':' :: (B3Hash.toHex a.2).toList

theorem toList_stackBuffer (adapters : List (AdapterId × B3Hash)) : (stackBuffer adapters).toList =
      stackText (adapters.insertionSort fun a b => a.1 ≤ b.1) := by
  have hfold : ∀ (l : List (AdapterId × B3Hash)) (text : String),
      ((l.map fun a => a.1 ++ ":" ++ B3Hash.toHex a.2).foldl (· ++ ·) text).toList =
        text.toList ++ stackText l := by
    intro l text
    induction l generalizing text with
    | nil => simp [stackText]
    | cons a l ih => simp [ih, stackText]
  exact hfold _ ""

theorem stackText_inj (hids : ∀ a ∈ adapters, ':' ∉ a.1.toList)
    (hothers : ∀ a ∈ others, ':' ∉ a.1.toList) (h : stackText adapters = stackText others) :
    adapters = others := by
  induction adapters generalizing others with
  | nil =>
    cases others with
    | nil => rfl
    | cons b others => simp [stackText] at h
  | cons a adapters ih =>
    cases others with
    | nil => simp [stackText] at h
    | cons b others =>
      simp only [stackText, List.flatMap_cons, List.append_assoc, List.cons_append] at h
      rw [List.forall_mem_cons] at hids hothers
      obtain ⟨hid, hafter⟩ := sep_append_inj hids.1 hothers.1 h
      obtain ⟨hhex, hrest⟩ := List.append_inj hafter (by simp [B3Hash.toHex])
      have ha : a = b :=
        Prod.ext (String.toList_inj.mp hid) (toHex_inj.mp (String.toList_inj.mp hhex))
      rw [ha, ih hids.2 hothers.2 hrest]

/-- The stack hash binds the stack up to the order of its adapters. -/
theorem computeStackHash_eq_iff {D : Type*} {hash : ByteArray → D} (hinj : Function.Injective hash)
    (hkeys : (adapters.map Prod.fst).Nodup) (_ : (others.map Prod.fst).Nodup)
    (hids : ∀ a ∈ adapters, ':' ∉ a.1.toList) (hothers : ∀ a ∈ others, ':' ∉ a.1.toList) :
    computeStackHash hash adapters = computeStackHash hash others ↔ adapters.Perm others := by
  refine ⟨?_, computeStackHash_perm hash hkeys⟩
  intro h
  have htext := congrArg String.toList (String.toByteArray_inj.mp (hinj h))
  rw [toList_stackBuffer, toList_stackBuffer] at htext
  have hsorted := stackText_inj (by simpa using hids) (by simpa using hothers) htext
  calc adapters.Perm (adapters.insertionSort fun a b => a.1 ≤ b.1) :=
        (List.perm_insertionSort _ _).symm
    _ = others.insertionSort fun a b => a.1 ≤ b.1 := hsorted
    List.Perm _ others := List.perm_insertionSort _ _

theorem computeStackHash_eq_iff_pair :
    computeStackHash id [("b", 2), ("a", 1)] = computeStackHash id [("a", 1), ("b", 2)] ↔
      [(("b" : AdapterId), (2 : B3Hash)), ("a", 1)].Perm [("a", 1), ("b", 2)] :=
  computeStackHash_eq_iff Function.injective_id (by decide) (by decide) (by decide) (by decide)

end Binding

namespace HotSwap

namespace AdapterTable

variable {t : AdapterTable} {active staged : AdapterMap} {addIds removeIds ids : List AdapterId}
  {id : AdapterId} {h : B3Hash}

theorem stackPairs_keys (active : AdapterMap) : (stackPairs active).map Prod.fst = active.keys := by
  simp [stackPairs, ← AList.items_keys, Function.comp_def]

theorem stackPairs_keys_nodup (active : AdapterMap) : ((stackPairs active).map Prod.fst).Nodup := by
  rw [stackPairs_keys]
  exact active.keys_nodup

theorem mem_stackPairs : (id, h) ∈ stackPairs active ↔ (active.get? id).map (·.hash) = some h := by
  grind [stackPairs, Prod.exists, AList.mem_items, Option.map_eq_some_iff]

theorem items_perm_stackPairs {m : HashMap AdapterId B3Hash}
    (hm : ∀ id, m.get? id = (active.get? id).map (·.hash)) : m.items.Perm (stackPairs active) := by
  have hnodup : (stackPairs active).Nodup := (stackPairs_keys_nodup active).of_map
  rw [List.perm_ext_iff_of_nodup m.items_nodup hnodup]
  rintro ⟨id, h⟩
  rw [AList.mem_items, mem_stackPairs, hm]

theorem foldlM_staged_ok (hids : ∀ id ∈ ids, id ∈ staged) (m : HashMap AdapterId B3Hash) :
    ∃ m' : HashMap AdapterId B3Hash, ids.foldlM (fun (m : HashMap AdapterId B3Hash) id =>
        match staged.get? id with
        | some state => Except.ok (m.insert id state.hash)
        | none => .error (notStagedError id)) m = .ok m' ∧
      ∀ id, m'.get? id = if id ∈ ids then (staged.get? id).map (·.hash) else m.get? id := by
  induction ids generalizing m with
  | nil => exact ⟨m, rfl, by simp⟩
  | cons j ids ih =>
    obtain ⟨state, hj⟩ := AList.mem_iff_get?.mp (hids j (by simp))
    obtain ⟨m', hfold, hget⟩ := ih (fun i hi => hids i (by simp [hi])) (m.insert j state.hash)
    refine ⟨m', ?_, ?_⟩
    · rw [List.foldlM_cons, hj]
      exact hfold
    all_goals grind

theorem collect_stackPairs (active : AdapterMap) (id : AdapterId) :
    (HashMap.collect (stackPairs active)).get? id = (active.get? id).map (·.hash) := by
  apply Option.ext
  intro h
  rw [HashMap.get?_collect (stackPairs_keys_nodup active), mem_stackPairs]

theorem computeStackHashWith_eq (hash : ByteArray → B3Hash) (hadd : ∀ id ∈ addIds, id ∈ t.staged)
    (removeIds : List AdapterId) :
    t.computeStackHashWith hash addIds removeIds =
      .ok (computeStackHash hash (stackPairs (swapActive t.active t.staged addIds removeIds))) := by
  obtain ⟨m, hfold, hget⟩ := foldlM_staged_ok hadd
    ((HashMap.collect (stackPairs t.active)).eraseAll removeIds)
  have hsame : ∀ id, m.get? id =
      ((swapActive t.active t.staged addIds removeIds).get? id).map (·.hash) := by
    intro id
    rw [hget, get?_swapActive hadd, AList.get?_eraseAll, collect_stackPairs]
    by_cases ha : id ∈ addIds
    · simp only [if_pos ha, Option.map_map]
      rfl
    · by_cases hr : id ∈ removeIds
      · simp [ha, hr]
      · simp [ha, hr]
  have hperm := items_perm_stackPairs hsame
  have hkeys : (m.items.map Prod.fst).Nodup := by
    rw [AList.items_keys]
    exact m.keys_nodup
  have hpredicted : t.computeStackHashWith hash addIds removeIds =
      .ok (computeStackHash hash m.items) :=
    congrArg (Except.map fun m : HashMap AdapterId B3Hash => computeStackHash hash m.items) hfold
  rw [hpredicted, computeStackHash_perm hash hkeys hperm]

theorem swap_active (hadd : ∀ id ∈ addIds, id ∈ t.staged) (removeIds : List AdapterId) :
    (t.swap addIds removeIds).2.active = swapActive t.active t.staged addIds removeIds := by
  obtain ⟨d, hd⟩ := swap_ok hadd removeIds
  rw [hd]
  exact (installStack_spec _ _).active_eq

end AdapterTable

namespace HotSwapManager

open AdapterTable

variable {K : Type*} {b : Backend K} {env : Env} {m m' : HotSwapManager K}
  {addIds removeIds : List AdapterId} {expected : B3Hash} {result : AdapterCommandResult}

theorem checkStackHash_ok (h : m.checkStackHash b addIds removeIds (some expected) = .ok ()) :
    m.table.computeStackHashWith b.hash addIds removeIds = .ok expected := by
  grind [checkStackHash]

theorem checkSwapIntegrity_predicted
    (h : m.checkSwapIntegrity b env addIds removeIds (some expected) = (.ok (), m')) :
    m'.table.computeStackHashWith b.hash addIds removeIds = .ok expected := by
  unfold checkSwapIntegrity at h
  split at h
  · cases h
  · rw [if_pos (Or.inr (Option.isSome_some))] at h
    split at h
    · cases h
    · rw [Prod.mk.injEq] at h
      obtain ⟨hcheck, rfl⟩ := h
      exact checkStackHash_ok hcheck

theorem swap_eq_ok {hash : Option B3Hash}
    (h : m.swap b env addIds removeIds hash = (.ok result, m')) :
    ∃ m₁ m₂ delta, m.checkSwapIntegrity b env addIds removeIds hash = (.ok (), m₁) ∧
      m₁.attachStagedForSwap b addIds = (.ok (), m₂) ∧
      m₂.commitSwap b addIds removeIds = (.ok delta, m') ∧
      result.stackHash = some (m'.table.tableStackHash b.hash) := by
  grind [swap]

theorem swap_expected (h : m.swap b env addIds removeIds (some expected) = (.ok result, m')) :
    m'.table.tableStackHash b.hash = expected ∧ result.stackHash = some expected := by
  obtain ⟨m₁, m₂, delta, hcheck, hattach, hcommit, hreported⟩ := swap_eq_ok h
  have hrestaged := checkSwapIntegrity_restaged b env m addIds removeIds (some expected)
  rw [hcheck] at hrestaged
  have hstaged : ∀ id ∈ addIds, id ∈ m₁.table.staged := by
    intro id hid
    exact (hrestaged.mem id).mpr (checkSwapIntegrity_staged (by rw [hcheck]) id hid)
  have htable : m₂.table = m₁.table := by
    have hattached : (m₁.attachStagedForSwap b addIds).2.table = m₁.table := attachEach_table _
    rwa [hattach] at hattached
  have hactive : m'.table.active = swapActive m₁.table.active m₁.table.staged addIds removeIds := by
    grind [commitSwap_of_staged, hintSwitch_table, detachRemovedAfterSwap_table, swap_active]
  have hhash : m'.table.tableStackHash b.hash = expected := by
    have hpredicted := checkSwapIntegrity_predicted hcheck
    rw [computeStackHashWith_eq b.hash hstaged, ← hactive] at hpredicted
    exact Except.ok.inj hpredicted
  exact ⟨hhash, hreported.trans (congrArg some hhash)⟩

end HotSwapManager

section Prediction

open AdapterTable

def stagedPair : HotSwapManager (Finset UInt16) :=
  ⟨tableAfter testIdentity [.preload "a" 1 10 0, .swap ["a"] [], .preload "b" 2 4 1], some ∅,
    ["repo"], "tenant", .enforce⟩

set_option maxRecDepth 1000

end Prediction

end HotSwap

end AdapterOS
