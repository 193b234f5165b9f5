import AdapterOS.Library.Run
import AdapterOS.Storage.IndexKeys
import Mathlib.Data.List.Perm.Subperm
import Mathlib.Data.List.Sort
import Mathlib.Data.String.Basic

/-! The pages of a listing, read one by one while the store changes. -/
namespace AdapterOS.Storage

open Library

structure PaginatedResult where
  items : List AdapterKv
  nextCursor : Option String
  hasMore : Bool

namespace AdapterRepository

section Pages

variable (o : Iteration String) (tenantId : String) (limit : Nat)

def tenantIds (kv : KvBackend) : List String :=
  (queryIndex o AdapterIndex.byTenant.name tenantId kv).insertionSort (· ≤ ·)

def startIndex (ids : List String) : Option String → Nat
  | some cursorId => ((ids.idxOf? cursorId).map (· + 1)).getD 0
  | none => 0

def pageIds (cursor : Option String) (ids : List String) : List String :=
  (ids.drop (startIndex ids cursor)).take limit

def hasMore (cursor : Option String) (ids : List String) : Bool :=
  startIndex ids cursor + (pageIds limit cursor ids).length < ids.length

def nextCursor (cursor : Option String) (ids : List String) : Option String :=
  if hasMore limit cursor ids then (pageIds limit cursor ids).getLast? else none

def listPaginated (cursor : Option String) (kv : KvBackend) : PaginatedResult :=
  let allIds := tenantIds o tenantId kv
  ⟨loadAdapters (pageIds limit cursor allIds) kv, nextCursor limit cursor allIds,
    hasMore limit cursor allIds⟩

/-- The pages of a client that follows the cursors, one call for each of the lists that the store
has at the time, until a page comes without a cursor. -/
def enumerate : Option String → List (List String) → List (List String)
  | _, [] => []
  | cursor, ids :: later => pageIds limit cursor ids ::
      match nextCursor limit cursor ids with
      | some next => enumerate (some next) later
      | none => []

/-- What that client is given, call by call. -/
def pages : Option String → List KvBackend → List PaginatedResult
  | _, [] => []
  | cursor, kv :: later => listPaginated o tenantId limit cursor kv ::
      match (listPaginated o tenantId limit cursor kv).nextCursor with
      | some next => pages (some next) later
      | none => []

/-- A property of the cursor and the listed ids at every call of the client. -/
def AtCalls (P : Option String → List String → Prop) : Option String → List (List String) → Prop
  | _, [] => True
  | cursor, ids :: later =>
    P cursor ids ∧ ∀ next, nextCursor limit cursor ids = some next → AtCalls P (some next) later

def Ascends (cursor : Option String) (ids : List String) : Prop :=
  ∀ c ∈ cursor, ∀ id ∈ pageIds limit cursor ids, c < id

def Resumes (cursor : Option String) (ids : List String) : Prop :=
  ∀ c ∈ cursor, c ∈ ids ∨ ∀ id ∈ ids, c < id

def after (cursor : Option String) (ids : List String) : List String :=
  ids.filter fun id => ∀ c ∈ cursor, c < id

end Pages

section Ids

variable {o : Iteration String} {name v key key' e : String} {kv : KvBackend}

theorem intercalate_append_splitOn (ws : List (List Char)) (r : List Char) :
    [':'].intercalate (ws ++ r.splitOn ':') = terminated ':' ws ++ r := by
  induction ws with
  | nil => simp [terminated, List.intercalate_splitOn]
  | cons w ws ih =>
    rw [List.cons_append, List.intercalate_cons_of_ne_nil (by simp [List.splitOn_ne_nil]), ih]
    simp [terminated]

theorem entityOf_inj (hname : ColonFree name) (hkey : (indexPrefix name v).toList <+: key.toList)
    (hkey' : (indexPrefix name v).toList <+: key'.toList) (he : entityOf key = some e)
    (he' : entityOf key' = some e) : key = key' := by
  obtain ⟨w, ws, hv⟩ := List.exists_cons_of_ne_nil (List.splitOn_ne_nil ':' v.toList)
  have hread : ∀ {k : String} {r : List Char}, (indexPrefix name v).toList ++ r = k.toList →
      entityOf k = some (String.ofList (terminated ':' ws ++ r)) := by
    intro k r hr
    have hparts : k.toList.splitOn ':' =
        "index".toList :: name.toList :: w :: (ws ++ r.splitOn ':') := by
      rw [← hr, toList_indexPrefix]
      simp only [List.append_assoc, List.cons_append, List.nil_append]
      rw [splitOn_sep colon_notMem_index, splitOn_sep hname, splitOn_append_sep, hv,
        List.cons_append]
    simp [entityOf, hparts, intercalate_append_splitOn]
  obtain ⟨r, hr⟩ := hkey
  obtain ⟨r', hr'⟩ := hkey'
  rw [hread hr] at he
  rw [hread hr'] at he'
  have htext := String.ofList_inj.mp (Option.some.inj (he.trans he'.symm))
  rw [← String.toList_inj, ← hr, ← hr', List.append_cancel_left htext]

theorem nodup_queryIndex (hname : ColonFree name) : (queryIndex o name v kv).Nodup := by
  have hkeys : (scanPrefix o (indexPrefix name v) kv).Nodup :=
    ((o.perm kv.keys).nodup_iff.mpr kv.keys_nodup).filter _
  rw [queryIndex, List.Nodup, List.pairwise_filterMap]
  refine hkeys.imp_of_mem ?_
  rintro key key' hkey hkey' hne e he _ he' rfl
  exact hne (entityOf_inj hname (mem_scanPrefix.mp hkey).2 (mem_scanPrefix.mp hkey').2 he he')

theorem sorted_tenantIds (o : Iteration String) (tenantId : String) (kv : KvBackend) :
    (tenantIds o tenantId kv).Pairwise (· < ·) := by
  have hnodup : (tenantIds o tenantId kv).Nodup :=
    (List.perm_insertionSort _ _).nodup_iff.mpr (nodup_queryIndex (AdapterIndex.colonFree_name _))
  exact (List.pairwise_insertionSort _ _).imp₂ (fun _ _ hle hne => lt_of_le_of_ne hle hne) hnodup

end Ids

section Step

variable {cursor : Option String} {ids : List String} {limit : Nat} {next : String}
  (hids : ids.Pairwise (· < ·))

include hids

theorem drop_startIndex (h : Resumes cursor ids) :
    ids.drop (startIndex ids cursor) = after cursor ids := by
  cases cursor with
  | none => simp [startIndex, after]
  | some c =>
    simp only [startIndex, after, Option.mem_some_iff, forall_eq']
    rcases h c rfl with hc | hc
    · induction ids with
      | nil => cases hc
      | cons id ids ih =>
        obtain ⟨hfirst, hrest⟩ := List.pairwise_cons.mp hids
        by_cases hid : id = c
        · subst hid
          have hall : ids.filter (fun j => id < j) = ids := by simpa using hfirst
          rw [List.filter_cons_of_neg (by simp), hall, List.idxOf?_cons, if_pos (by simp)]
          rfl
        · have hmem : c ∈ ids := by grind
          have hlt : ¬ c < id := (hfirst c hmem).not_gt
          obtain ⟨n, hn⟩ := Option.ne_none_iff_exists'.mp
            (mt List.idxOf?_eq_none_iff.mp (not_not.mpr hmem))
          rw [List.filter_cons_of_neg (by simpa using hlt), ← ih hrest (fun _ _ => .inl (by grind))
            hmem, List.idxOf?_cons, if_neg (by simpa using hid), hn]
          rfl
    · rw [List.idxOf?_eq_none_iff.mpr fun hmem => lt_irrefl c (hc c hmem)]
      exact (List.filter_eq_self.mpr fun id hid => decide_eq_true (hc id hid)).symm

theorem ascends_iff (hlimit : 1 ≤ limit) : Ascends limit cursor ids ↔ Resumes cursor ids := by
  constructor
  · rintro h c rfl
    by_cases hc : c ∈ ids
    · exact .inl hc
    · right
      cases ids with
      | nil => simp
      | cons id ids =>
        have hpage : id ∈ pageIds limit (some c) (id :: ids) := by
          rw [pageIds, startIndex, List.idxOf?_eq_none_iff.mpr hc]
          obtain ⟨n, rfl⟩ := Nat.exists_eq_add_of_le' hlimit
          simp
        have hfirst := h c rfl id hpage
        intro j hj
        rcases List.mem_cons.mp hj with rfl | hj
        · exact hfirst
        · exact hfirst.trans ((List.pairwise_cons.mp hids).1 j hj)
  · rintro h c rfl id hid
    rw [pageIds, drop_startIndex hids h] at hid
    simpa [after] using (List.mem_filter.mp (List.mem_of_mem_take hid)).2

theorem nextCursor_eq (h : Resumes cursor ids) : nextCursor limit cursor ids =
    if limit < (after cursor ids).length then ((after cursor ids).take limit).getLast? else none := by
  have hdrop := drop_startIndex hids h
  have hlen := congrArg List.length hdrop
  rw [List.length_drop] at hlen
  simp only [nextCursor, hasMore, pageIds, hdrop, List.length_take, decide_eq_true_eq]
  congr 1
  rw [eq_iff_iff]
  omega

theorem after_split (h : Resumes cursor ids) (hnext : nextCursor limit cursor ids = some next) :
    next ∈ pageIds limit cursor ids ∧ (∀ id ∈ pageIds limit cursor ids, id ≤ next) ∧
      after cursor ids = pageIds limit cursor ids ++ after (some next) ids := by
  rw [nextCursor_eq hids h] at hnext
  split_ifs at hnext with hmore
  rw [pageIds, drop_startIndex hids h]
  have hsorted : (after cursor ids).Pairwise (· < ·) := hids.filter _
  generalize hl : after cursor ids = l at *
  obtain ⟨init, hinit⟩ := List.getLast?_eq_some_iff.mp hnext
  have hsplit := List.take_append_drop limit l
  rw [← hsplit, hinit, List.pairwise_append, List.pairwise_append] at hsorted
  obtain ⟨⟨-, -, hbefore⟩, -, hdrop⟩ := hsorted
  have hle : ∀ id ∈ l.take limit, id ≤ next := by
    intro id hid
    rw [hinit, List.mem_append, List.mem_singleton] at hid
    exact hid.elim (fun hid => (hbefore id hid next (by simp)).le) le_of_eq
  refine ⟨by rw [hinit]; simp, hle, ?_⟩
  have hmem : next ∈ after cursor ids := by
    rw [hl, ← hsplit, hinit]
    simp
  have hcursor : ∀ c ∈ cursor, c < next := by simpa using (List.mem_filter.mp hmem).2
  have hrest : after (some next) ids = l.filter (next < ·) := by
    rw [← hl, after, after, List.filter_filter]
    refine List.filter_congr fun id _ => ?_
    simpa using fun hid c hc => (hcursor c hc).trans hid
  have htake : (l.take limit).filter (next < ·) = [] :=
    List.filter_eq_nil_iff.mpr fun id hid => by simpa using (hle id hid).not_gt
  have hkept : (l.drop limit).filter (next < ·) = l.drop limit := by
    simpa using hdrop next (by simp)
  rw [hrest, ← congrArg (List.filter (next < ·)) hsplit, List.filter_append, htake, hkept,
    List.nil_append, hsplit]

theorem after_last (h : Resumes cursor ids) (hlimit : 1 ≤ limit)
    (hnext : nextCursor limit cursor ids = none) : pageIds limit cursor ids = after cursor ids := by
  rw [nextCursor_eq hids h] at hnext
  rw [pageIds, drop_startIndex hids h]
  refine List.take_of_length_le ?_
  split_ifs at hnext with hmore
  · have hempty := congrArg List.length (List.getLast?_eq_none_iff.mp hnext)
    simp only [List.length_take, List.length_nil] at hempty
    omega
  · omega

end Step

section Run

variable {limit : Nat} {cursor : Option String} {ids : List String} {later : List (List String)}

theorem enumerate_ascends (hsorted : ∀ ids ∈ later, ids.Pairwise (· < ·))
    (h : AtCalls limit Resumes cursor later) :
    (enumerate limit cursor later).flatten.Pairwise (· < ·) ∧
      ∀ id ∈ (enumerate limit cursor later).flatten, ∀ c ∈ cursor, c < id := by
  induction later generalizing cursor with
  | nil => simp [enumerate]
  | cons ids later ih =>
    obtain ⟨hresume, hlater⟩ := h
    obtain ⟨hids, hsorted⟩ := List.forall_mem_cons.mp hsorted
    have hpage : ∀ id ∈ pageIds limit cursor ids, ∀ c ∈ cursor, c < id := by
      rw [pageIds, drop_startIndex hids hresume]
      intro id hid
      simpa using (List.mem_filter.mp (List.mem_of_mem_take hid)).2
    have hpages : (pageIds limit cursor ids).Pairwise (· < ·) := hids.drop.take
    cases hnext : nextCursor limit cursor ids with
    | none =>
      simp only [enumerate, hnext, List.flatten_cons, List.flatten_nil, List.append_nil]
      exact ⟨hpages, hpage⟩
    | some next =>
      obtain ⟨hmem, hle, -⟩ := after_split hids hresume hnext
      obtain ⟨hrest, hafter⟩ := ih hsorted (hlater next hnext)
      simp only [enumerate, hnext, List.flatten_cons, List.pairwise_append, List.mem_append]
      refine ⟨⟨hpages, hrest, fun a ha b hb => (hle a ha).trans_lt (hafter b hb next rfl)⟩, ?_⟩
      rintro id (hid | hid) c hc
      · exact hpage id hid c hc
      · exact (hpage next hmem c hc).trans (hafter id hid next rfl)

theorem mem_enumerate (hsorted : ∀ ids ∈ later, ids.Pairwise (· < ·))
    (h : AtCalls limit Resumes cursor later) (hlimit : 1 ≤ limit) {e : String}
    (hall : ∀ ids ∈ later, e ∈ ids) (he : ∀ c ∈ cursor, c < e)
    (hend : (enumerate limit cursor later).length < later.length) :
    e ∈ (enumerate limit cursor later).flatten := by
  induction later generalizing cursor with
  | nil => simp at hend
  | cons ids later ih =>
    obtain ⟨hresume, hlater⟩ := h
    rw [List.forall_mem_cons] at hall hsorted
    have hmem : e ∈ after cursor ids := List.mem_filter.mpr ⟨hall.1, by simpa using he⟩
    cases hnext : nextCursor limit cursor ids with
    | none => simpa [enumerate, hnext, after_last hsorted.1 hresume hlimit hnext] using hmem
    | some next =>
      simp only [enumerate, hnext, List.length_cons, List.flatten_cons, List.mem_append] at hend ⊢
      rw [(after_split hsorted.1 hresume hnext).2.2, List.mem_append] at hmem
      refine hmem.imp_right fun hmem => ih hsorted.2 (hlater next hnext) hall.2 ?_ (by omega)
      simpa using (List.mem_filter.mp hmem).2

theorem length_enumerate (hsorted : ∀ l ∈ ids :: later, l.Pairwise (· < ·))
    (h : AtCalls limit Resumes cursor (ids :: later))
    (hshrink : (ids :: later).Pairwise fun l m => m ⊆ l) :
    (enumerate limit cursor (ids :: later)).length ≤ (after cursor ids).length + 1 := by
  induction later generalizing cursor ids with
  | nil => grind [enumerate]
  | cons ids' later ih =>
    obtain ⟨hresume, hlater⟩ := h
    rw [List.forall_mem_cons] at hsorted
    obtain ⟨hfirst, hrest⟩ := List.pairwise_cons.mp hshrink
    cases hnext : nextCursor limit cursor ids with
    | none => simp [enumerate, hnext]
    | some next =>
      obtain ⟨hmem, -, hsplit⟩ := after_split hsorted.1 hresume hnext
      have hpages := ih hsorted.2 (hlater next hnext) hrest
      have hnodup : (after (some next) ids').Nodup :=
        ((hsorted.2 ids' (by simp)).filter _).imp ne_of_lt
      have hsub : after (some next) ids' ⊆ after (some next) ids :=
        List.filter_subset _ (hfirst ids' (by simp))
      have hle := (List.subperm_of_subset hnodup hsub).length_le
      have hpos := List.length_pos_of_mem hmem
      rw [enumerate, hnext, List.length_cons, hsplit, List.length_append]
      dsimp only
      omega

theorem items_pages (o : Iteration String) (tenantId : String) (limit : Nat)
    (cursor : Option String) (kvs : List KvBackend) :
    (pages o tenantId limit cursor kvs).map (·.items) =
      List.zipWith loadAdapters (enumerate limit cursor (kvs.map (tenantIds o tenantId))) kvs := by
  induction kvs generalizing cursor with
  | nil => rfl
  | cons kv later ih =>
    simp only [pages, enumerate, listPaginated, List.map_cons, List.zipWith_cons_cons]
    cases nextCursor limit cursor (tenantIds o tenantId kv) with
    | none => rfl
    | some next => rw [ih]

theorem flatten_pages {o : Iteration String} {tenantId : String} {kv : KvBackend} {n : Nat}
    (hkv : tenantIds o tenantId kv = ids) (hlimit : 1 ≤ limit) (h : Resumes cursor ids)
    (hn : (after cursor ids).length < n) :
    (pages o tenantId limit cursor (List.replicate n kv)).flatMap (·.items) =
      loadAdapters (after cursor ids) kv := by
  have hids := hkv ▸ sorted_tenantIds o tenantId kv
  induction n generalizing cursor with
  | zero => omega
  | succ n ih =>
    rw [List.replicate_succ, pages, List.flatMap_cons, listPaginated, hkv]
    cases hnext : nextCursor limit cursor ids with
    | none => simp [after_last hids h hlimit hnext]
    | some next =>
      obtain ⟨hmem, -, hsplit⟩ := after_split hids h hnext
      have hlisted : Resumes (some next) ids := by
        rintro c ⟨⟩
        exact .inl (List.mem_of_mem_drop (List.mem_of_mem_take hmem))
      have hpos := List.length_pos_of_mem hmem
      rw [hsplit, List.length_append] at hn
      simp only [ih hlisted (by omega)]
      rw [hsplit, loadAdapters, loadAdapters, loadAdapters, List.filterMap_append]

/-- Paging through a store that no one changes gives what listing the tenant gives. -/
theorem pages_perm_listByTenant (o : Iteration String) (tenantId : String) (kv : KvBackend)
    (limit n : Nat) : ((pages o tenantId (limit + 1) none
      (List.replicate ((tenantIds o tenantId kv).length + 1 + n) kv)).flatMap (·.items)).Perm
      (listByTenant o tenantId kv) := by
  have hall : after none (tenantIds o tenantId kv) = tenantIds o tenantId kv := by simp [after]
  rw [flatten_pages rfl (Nat.le_add_left 1 limit) (by rintro _ ⟨⟩) (by rw [hall]; omega), hall]
  exact (List.perm_insertionSort _ _).filterMap _

/-- A client that follows the cursors gets only ids after its cursor if and only if at every call
the cursor is listed still or nothing listed is before it. Then no id is returned twice, one that
is listed all the time is returned, and without new ids the pages end. -/
theorem enumerate_ascends_iff (o : Iteration String) (tenantId : String) {limit : Nat}
    (hlimit : 1 ≤ limit) (kv : KvBackend) (kvs : List KvBackend) :
    let lists := (kv :: kvs).map (tenantIds o tenantId)
    (pages o tenantId limit none (kv :: kvs)).map (·.items) =
      List.zipWith loadAdapters (enumerate limit none lists) (kv :: kvs) ∧
    (AtCalls limit (Ascends limit) none lists ↔ AtCalls limit Resumes none lists) ∧
    (AtCalls limit Resumes none lists → (enumerate limit none lists).flatten.Nodup ∧
      (∀ e, (∀ ids ∈ lists, e ∈ ids) → (enumerate limit none lists).length < lists.length →
        e ∈ (enumerate limit none lists).flatten) ∧
      ((lists.Pairwise fun l m => m ⊆ l) →
        (enumerate limit none lists).length ≤ (tenantIds o tenantId kv).length + 1)) := by
  intro lists
  have hsorted : ∀ ids ∈ lists, ids.Pairwise (· < ·) := by
    rintro ids hids
    obtain ⟨kv', -, rfl⟩ := List.mem_map.mp hids
    exact sorted_tenantIds o tenantId kv'
  have hiff : ∀ l, (∀ ids ∈ l, ids.Pairwise (· < ·)) → ∀ cursor,
      AtCalls limit (Ascends limit) cursor l ↔ AtCalls limit Resumes cursor l := by
    intro l
    induction l with
    | nil => exact fun _ _ => .rfl
    | cons ids l ih =>
      intro hl cursor
      rw [List.forall_mem_cons] at hl
      simp only [AtCalls, ascends_iff hl.1 hlimit, ih hl.2]
  refine ⟨items_pages o tenantId limit none _, hiff lists hsorted none, fun h =>
    ⟨(enumerate_ascends hsorted h).1.imp ne_of_lt, ?_, ?_⟩⟩
  · exact fun e hall hend => mem_enumerate hsorted h hlimit hall (by simp) hend
  · exact fun hshrink => (length_enumerate hsorted h hshrink).trans (by simp [after])

def pagedAdapter (id : String) : AdapterKv :=
  ⟨id, "t", "tier", id, none, 1, "warm", 0, none, "active", none⟩

def pagedStore : KvBackend := run (step .asListed) ∅
  [.create (pagedAdapter "a"), .create (pagedAdapter "b"), .create (pagedAdapter "c")]

/-- With the cursor's adapter gone, the listing starts over. -/
theorem deleted_cursor_restarts :
    let given := pages .asListed "t" 2 none
      [pagedStore, step .asListed pagedStore (.delete "t" "b")]
    given.map (fun page => page.items.map (·.id)) = [["a", "b"], ["a", "c"]] ∧
      ¬ (given.map fun page => page.items.map (·.id)).flatten.Nodup := by
  decide +kernel

theorem enumerate_ascends_iff_unchanged :
    AtCalls 2 (Ascends 2) none [tenantIds .asListed "t" pagedStore] ↔
      AtCalls 2 Resumes none [tenantIds .asListed "t" pagedStore] :=
  (enumerate_ascends_iff .asListed "t" (by decide) pagedStore []).2.1

end Run

end AdapterRepository

end AdapterOS.Storage
