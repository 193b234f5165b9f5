import AdapterOS.Audit.PolicyAudit
import AdapterOS.Library.HashMap

/-! The policy audit trail in the key-value store: an entry is kept under its id, and a second key
with its number and its id says where it stands in its tenant's chain. -/
namespace AdapterOS.Audit

open Library

section Texts

def splitOnce (sep : Char) : List Char → Option (List Char × List Char)
  | [] => none
  | c :: cs => if c = sep then some ([], cs) else (splitOnce sep cs).map fun p => (c :: p.1, p.2)

def rsplitOnce (sep : Char) (text : List Char) : Option (List Char × List Char) :=
  (splitOnce sep text.reverse).map fun p => (p.2.reverse, p.1.reverse)

def parseDigits (digits : List Char) : Option Nat :=
  if digits ≠ [] ∧ digits.all Char.isDigit then some (Nat.ofDigitChars 10 digits 0) else none

/-- `parse::<i64>` of a number in its range. -/
def parseI64 : List Char → Option Int
  | [] => none
  | c :: digits =>
    if c = '-' then (parseDigits digits).map fun n => -(n : Int)
    else if c = '+' then (parseDigits digits).map Int.ofNat
    else (parseDigits (c :: digits)).map Int.ofNat

def zeroPadded (n : Int) : List Char :=
  if n < 0 then '-' :: (Nat.toDigits 10 n.natAbs).leftpad 19 '0'
  else (Nat.toDigits 10 n.natAbs).leftpad 20 '0'

variable {sep : Char} {a b : List Char}

theorem splitOnce_append (h : sep ∉ a) : splitOnce sep (a ++ sep :: b) = some (a, b) := by
  induction a with
  | nil => simp [splitOnce]
  | cons c a ih =>
    rw [List.mem_cons, not_or] at h
    simp [splitOnce, Ne.symm h.1, ih h.2]

theorem rsplitOnce_append (h : sep ∉ b) : rsplitOnce sep (a ++ sep :: b) = some (a, b) := by
  have hreverse : (a ++ sep :: b).reverse = b.reverse ++ sep :: a.reverse := by simp
  rw [rsplitOnce, hreverse, splitOnce_append (by simpa using h)]
  simp

theorem zeroPadded_natCast (n : Nat) :
    zeroPadded n = List.replicate (20 - (Nat.toDigits 10 n).length) '0' ++ Nat.toDigits 10 n := by
  have hn : ¬ (n : Int) < 0 := by omega
  rw [zeroPadded, if_neg hn, List.leftpad, Int.natAbs_natCast]

theorem isDigit_of_mem_zeroPadded {n : Nat} {c : Char} (h : c ∈ zeroPadded n) :
    c.isDigit = true := by
  rw [zeroPadded_natCast, List.mem_append, List.mem_replicate] at h
  rcases h with ⟨-, rfl⟩ | h
  · decide
  · exact Nat.isDigit_of_mem_toDigits (by decide) (by decide) h

theorem ofDigitChars_zeroPadded (n : Nat) : Nat.ofDigitChars 10 (zeroPadded n) 0 = n := by
  have hzeros : ∀ k,
      (List.replicate k '0').foldl (fun m c => 10 * m + (c.toNat - '0'.toNat)) 0 = 0 := by
    intro k
    induction k with
    | zero => rfl
    | succ k ih => exact ih
  rw [zeroPadded_natCast, Nat.ofDigitChars, List.foldl_append, hzeros]
  exact Nat.ofDigitChars_ten_toDigits

theorem parseI64_zeroPadded (n : Nat) : parseI64 (zeroPadded n) = some (n : Int) := by
  have hdigits := fun c => @isDigit_of_mem_zeroPadded n c
  have hvalue := ofDigitChars_zeroPadded n
  cases hz : zeroPadded n with
  | nil =>
    rw [zeroPadded_natCast, List.append_eq_nil_iff] at hz
    exact absurd hz.2 Nat.toDigits_ne_nil
  | cons c digits =>
    rw [hz] at hdigits hvalue
    have hc := hdigits c List.mem_cons_self
    have hminus : c ≠ '-' := by
      rintro rfl
      exact absurd hc (by decide)
    have hplus : c ≠ '+' := by
      rintro rfl
      exact absurd hc (by decide)
    grind [parseI64, parseDigits]

end Texts

section Keys

def entryKey (tenantId id : String) : String := "tenant/" ++ tenantId ++ "/policy_audit/" ++ id

def seqKey (tenantId : String) (seq : Int) (id : String) : String :=
  "tenant/" ++ tenantId ++ "/policy_audit/seq/" ++ String.ofList (zeroPadded seq) ++ ":" ++ id

def seqPrefix (tenantId : String) : String := "tenant/" ++ tenantId ++ "/policy_audit/seq/"

def parseSeqKey (key : String) : Option (Int × String) := do
  let (_, last) ← rsplitOnce '/' key.toList
  let (seqStr, id) ← splitOnce ':' last
  let seq ← parseI64 seqStr
  return (seq, String.ofList id)

variable {t t' id id' : String} {x y : List Char} {n : Nat}

def tenantPath (tenantId : String) (rest : List Char) : List Char :=
  tenantId.toList ++ '/' :: rest

theorem toList_entryKey (t id : String) : (entryKey t id).toList =
      "tenant/".toList ++ tenantPath t ("policy_audit/".toList ++ id.toList) := by
  have htext : "/policy_audit/".toList = '/' :: "policy_audit/".toList := by decide
  simp only [entryKey, tenantPath, String.toList_append, htext, List.append_assoc, List.cons_append]

theorem toList_seqPrefix (t : String) :
    (seqPrefix t).toList = "tenant/".toList ++ tenantPath t "policy_audit/seq/".toList := by
  have htext : "/policy_audit/seq/".toList = '/' :: "policy_audit/seq/".toList := by decide
  simp only [seqPrefix, tenantPath, String.toList_append, htext, List.append_assoc]

theorem toList_seqKey (t : String) (seq : Int) (id : String) :
    (seqKey t seq id).toList = "tenant/".toList ++
      tenantPath t ("policy_audit/seq/".toList ++ (zeroPadded seq ++ ':' :: id.toList)) := by
  grind [seqKey, tenantPath, String.toList_append, String.toList_ofList]

theorem tenantPath_inj (ht : '/' ∉ t.toList) (ht' : '/' ∉ t'.toList)
    (h : tenantPath t x = tenantPath t' y) : t = t' ∧ x = y := by
  obtain ⟨he, hrest⟩ := sep_append_inj ht ht' h
  exact ⟨String.toList_inj.mp he, hrest⟩

theorem tenantPath_isPrefix_split (ht : '/' ∉ t.toList) (ht' : '/' ∉ t'.toList)
    (h : tenantPath t x <+: tenantPath t' y) : t = t' ∧ x <+: y := by
  obtain ⟨he, hrest⟩ := sep_isPrefix_split ht ht' h
  exact ⟨String.toList_inj.mp he, hrest⟩

theorem slash_notMem_numbered (hid : '/' ∉ id.toList) : '/' ∉ zeroPadded n ++ ':' :: id.toList := by
  intro h
  rcases List.mem_append.mp h with h | h
  · exact absurd (isDigit_of_mem_zeroPadded h) (by decide)
  · rcases List.mem_cons.mp h with h | h
    · exact absurd h (by decide)
    · exact hid h

@[simp] theorem parseSeqKey_seqKey (hid : '/' ∉ id.toList) :
    parseSeqKey (seqKey t n id) = some ((n : Int), id) := by
  have hcolon : ':' ∉ zeroPadded n := by
    intro h
    exact absurd (isDigit_of_mem_zeroPadded h) (by decide)
  have hkey : (seqKey t n id).toList =
      ("tenant/".toList ++ tenantPath t "policy_audit/seq".toList) ++
        '/' :: (zeroPadded n ++ ':' :: id.toList) := by
    have htext : "policy_audit/seq/".toList = "policy_audit/seq".toList ++ ['/'] := by decide
    simp only [toList_seqKey, tenantPath, htext, List.append_assoc, List.cons_append,
      List.nil_append]
  rw [parseSeqKey, hkey, rsplitOnce_append (slash_notMem_numbered hid)]
  simp [splitOnce_append hcolon, parseI64_zeroPadded]

theorem entryKey_inj (ht : '/' ∉ t.toList) (ht' : '/' ∉ t'.toList)
    (h : entryKey t id = entryKey t' id') : t = t' ∧ id = id' := by
  have hpath := congrArg String.toList h
  rw [toList_entryKey, toList_entryKey] at hpath
  obtain ⟨rfl, hrest⟩ := tenantPath_inj ht ht' (List.append_cancel_left hpath)
  exact ⟨rfl, String.toList_inj.mp (List.append_cancel_left hrest)⟩

theorem seqPrefix_seqKey (t : String) (seq : Int) (id : String) :
    (seqPrefix t).toList <+: (seqKey t seq id).toList := by
  rw [toList_seqPrefix, toList_seqKey]
  refine ⟨zeroPadded seq ++ ':' :: id.toList, ?_⟩
  simp only [tenantPath, List.append_assoc, List.cons_append]

theorem tenant_eq_of_seqPrefix {seq : Int} (ht : '/' ∉ t.toList) (ht' : '/' ∉ t'.toList)
    (h : (seqPrefix t).toList <+: (seqKey t' seq id).toList) : t = t' := by
  rw [toList_seqPrefix, toList_seqKey] at h
  exact (tenantPath_isPrefix_split ht ht' ((List.prefix_append_right_inj _).mp h)).1

theorem not_seqPrefix_entryKey (ht : '/' ∉ t.toList) (ht' : '/' ∉ t'.toList)
    (hid : '/' ∉ id.toList) : ¬ (seqPrefix t).toList <+: (entryKey t' id).toList := by
  rw [toList_seqPrefix, toList_entryKey]
  intro h
  obtain ⟨z, hz⟩ := (tenantPath_isPrefix_split ht ht' ((List.prefix_append_right_inj _).mp h)).2
  have htext : "policy_audit/seq/".toList = "policy_audit/".toList ++ "seq/".toList := by decide
  have hslash : '/' ∈ "seq/".toList := by decide
  grind [List.append_cancel_left]

end Keys

section Repository

/-- A value is an entry as JSON, or the id that a sequence key leads to. -/
inductive KvValue where
  | entry (e : AuditEntry)
  | id (id : String)
  deriving DecidableEq

abbrev KvStore := HashMap String KvValue

variable (o : Iteration String) (hash : List UInt8 → B3Hash) (tenantId : String)

def scanPrefix (text : String) (kv : KvStore) : List String :=
  (o.visit kv.keys).filter fun key => text.toList.isPrefixOf key.toList

/-- The id under the highest number. -/
def latestForTenant (kv : KvStore) : Option (String × Int) :=
  (scanPrefix o (seqPrefix tenantId) kv).foldl (fun maxSeq key =>
    match parseSeqKey key with
    | none => maxSeq
    | some (seq, id) =>
      if maxSeq.all fun m => seq > m.2 then some (id, seq) else maxSeq) none

def getEntry (id : String) (kv : KvStore) : Except AosError (Option AuditEntry) :=
  match kv.get? (entryKey tenantId id) with
  | none => .ok none
  | some (.entry e) => .ok (some e)
  | some (.id _) => .error (.serialization "expected value at line 1 column 1")

def latestEntry (kv : KvStore) : Except AosError (Option AuditEntry) :=
  match latestForTenant o tenantId kv with
  | some (latestId, _) => getEntry tenantId latestId kv
  | none => .ok none

/-- The messages of the writes that fail. -/
structure WriteFaults where
  row : Option String := none
  entry : Option String := none
  seq : Option String := none

/-- The entry, hashed once more, and then its sequence key. -/
def putEntry (faults : WriteFaults) (entry : AuditEntry) (kv : KvStore) :
    KvStore × Except AosError Unit :=
  let entry := { entry with entryHash := entry.displayHash hash }
  match faults.entry with
  | some e => (kv, .error (.database ("Failed to store policy audit entry: " ++ e)))
  | none =>
    let kv := kv.insert (entryKey entry.tenantId entry.id) (.entry entry)
    match faults.seq with
    | some e => (kv, .error (.database ("Failed to store policy audit seq: " ++ e)))
    | none =>
      (kv.insert (seqKey entry.tenantId entry.chainSequence entry.id) (.id entry.id), .ok ())

/-- The entries that sequence keys lead to. -/
def getEntries (kv : KvStore) : List String → Except AosError (List AuditEntry)
  | [] => .ok []
  | key :: keys =>
    match parseSeqKey key with
    | none => getEntries kv keys
    | some (_, id) => do
      let found ← getEntry tenantId id kv
      let rest ← getEntries kv keys
      return found.toList ++ rest

def kvChain (kv : KvStore) : Except AosError (List AuditEntry) :=
  (getEntries tenantId kv (scanPrefix o (seqPrefix tenantId) kv)).map
    (sortBy AuditEntry.chainSequence)

def verifyChainForTenant (chain : List AuditEntry) : ChainVerificationResult :=
  match firstFailure (AuditEntry.displayHash hash) policyLinkError
      (fun _ => "Entry hash mismatch - possible tampering") 0 none 0 chain with
  | some (idx, entry, message) =>
    ⟨false, idx + 1, some entry.chainSequence, some message, true, some tenantId⟩
  | none => ⟨true, chain.length, none, none, false, some tenantId⟩

def verifyKvChain (kv : KvStore) : Except AosError ChainVerificationResult :=
  (kvChain o tenantId kv).map (verifyChainForTenant hash tenantId)

end Repository

section Contents

variable {t t' : String} {l : List AuditEntry}
  {kv : KvStore} {e : AuditEntry} {key : String} {v : KvValue}

def isSeqKey (tenantId key : String) : Bool := (seqPrefix tenantId).toList.isPrefixOf key.toList

theorem isSeqKey_iff : isSeqKey t key = true ↔ (seqPrefix t).toList <+: key.toList :=
  List.isPrefixOf_iff_prefix

def numbered (tenantId : String) (keys : List String) : List (Int × String) :=
  (keys.filter (isSeqKey tenantId)).filterMap parseSeqKey

/-- The store has the chain `l` for the tenant: its sequence keys and its entries. -/
structure Holds (tenantId : String) (l : List AuditEntry) (kv : KvStore) : Prop where
  keys : (numbered tenantId kv.keys).Perm (l.map fun e => (e.chainSequence, e.id))
  entries : ∀ e ∈ l, kv.get? (entryKey tenantId e.id) = some (.entry e)
  ids : ∀ e ∈ l, '/' ∉ e.id.toList

theorem holds_empty (t : String) : Holds t [] ∅ := ⟨.refl _, by simp, by simp⟩

theorem numbered_insert_outside (kv : KvStore) (v : KvValue)
    (hkey : ¬ (seqPrefix t).toList <+: key.toList) :
    numbered t (kv.insert key v).keys = numbered t kv.keys := by
  have hnot : ¬ isSeqKey t key = true := fun h => hkey (isSeqKey_iff.mp h)
  unfold numbered
  rw [AList.keys_insert, List.filter_cons_of_neg hnot, kv.keys_nodup.erase_eq_filter,
    List.filter_filter]
  grind [List.filter_congr]

theorem Holds.insert (h : Holds t l kv) (hkey : ¬ (seqPrefix t).toList <+: key.toList)
    (hne : ∀ e ∈ l, entryKey t e.id ≠ key) (v : KvValue) : Holds t l (kv.insert key v) := by
  refine ⟨?_, ?_, h.ids⟩
  · rw [numbered_insert_outside kv v hkey]
    exact h.keys
  · intro e he
    rw [AList.get?_insert_ne (hne e he)]
    exact h.entries e he

theorem Holds.insert_entry_other (h : Holds t l kv) (ht : '/' ∉ t.toList) (ht' : '/' ∉ t'.toList)
    (hne : t ≠ t') (hid : '/' ∉ e.id.toList) (v : KvValue) :
    Holds t l (kv.insert (entryKey t' e.id) v) := by
  refine h.insert (not_seqPrefix_entryKey ht ht' hid) ?_ v
  intro other _ he
  exact hne (entryKey_inj ht ht' he).1

theorem Holds.insert_seq_other {n : Int} (h : Holds t l kv) (ht : '/' ∉ t.toList)
    (ht' : '/' ∉ t'.toList) (hne : t ≠ t') (id : String) (v : KvValue) :
    Holds t l (kv.insert (seqKey t' n id) v) := by
  refine h.insert (fun hp => hne (tenant_eq_of_seqPrefix ht ht' hp)) ?_ v
  intro other hother he
  apply not_seqPrefix_entryKey ht' ht (h.ids other hother)
  rw [he]
  exact seqPrefix_seqKey t' n id

theorem Holds.insert_entry (h : Holds t l kv) (ht : '/' ∉ t.toList) (hid : '/' ∉ e.id.toList)
    (hnew : e.id ∉ l.map AuditEntry.id) (v : KvValue) :
    Holds t l (kv.insert (entryKey t e.id) v) := by
  refine h.insert (not_seqPrefix_entryKey ht ht hid) ?_ v
  intro other hother he
  apply hnew
  rw [← (entryKey_inj ht ht he).2]
  exact List.mem_map_of_mem hother

theorem Holds.put {n : Nat} (h : Holds t l kv) (ht : '/' ∉ t.toList) (hid : '/' ∉ e.id.toList)
    (hnew : e.id ∉ l.map AuditEntry.id) (hn : e.chainSequence = n) :
    Holds t (l ++ [e]) ((kv.insert (entryKey t e.id) (.entry e)).insert
      (seqKey t e.chainSequence e.id) (.id e.id)) := by
  have hentry := h.insert_entry ht hid hnew (.entry e)
  have hparse : parseSeqKey (seqKey t e.chainSequence e.id) = some (e.chainSequence, e.id) := by
    rw [hn]
    exact parseSeqKey_seqKey hid
  have hprefix : isSeqKey t (seqKey t e.chainSequence e.id) = true :=
    isSeqKey_iff.mpr (seqPrefix_seqKey t e.chainSequence e.id)
  have hfresh : seqKey t e.chainSequence e.id ∉ (kv.insert (entryKey t e.id) (.entry e)).keys := by
    intro hmem
    have hnumbered : (e.chainSequence, e.id) ∈
        numbered t (kv.insert (entryKey t e.id) (.entry e)).keys :=
      List.mem_filterMap.mpr ⟨_, List.mem_filter.mpr ⟨hmem, hprefix⟩, hparse⟩
    obtain ⟨⟩ := hentry
    grind
  have hseq : ∀ other : AuditEntry, '/' ∉ other.id.toList →
      entryKey t other.id ≠ seqKey t e.chainSequence e.id := by
    intro other hother he
    apply not_seqPrefix_entryKey ht ht hother
    rw [he]
    exact seqPrefix_seqKey t e.chainSequence e.id
  refine ⟨?_, ?_, ?_⟩
  · obtain ⟨⟩ := hentry
    grind [numbered, AList.keys_insert, List.erase_of_not_mem]
  · obtain ⟨⟩ := h
    obtain ⟨⟩ := hentry
    grind [AList.get?_insert_ne, AList.get?_insert_self]
  · obtain ⟨⟩ := h
    grind

end Contents

section Reading

variable {o : Iteration String} {hash : List UInt8 → B3Hash} {t : String} {l : List AuditEntry}
  {kv : KvStore} {p : Int × String} {xs : List (Int × String)}

def highest (found : Option (String × Int)) (xs : List (Int × String)) : Option (String × Int) :=
  xs.foldl (fun m p => if m.all fun m => p.1 > m.2 then some (p.2, p.1) else m) found

theorem highest_of_le (h : ∀ q ∈ xs, q.1 ≤ p.1) :
    highest (some (p.2, p.1)) xs = some (p.2, p.1) := by
  induction xs with
  | nil => rfl
  | cons q xs ih => grind [highest]

theorem highest_eq {found : Option (String × Int)} (hp : p ∈ xs)
    (h : ∀ q ∈ xs, q = p ∨ q.1 < p.1) (hfound : ∀ m ∈ found, m.2 < p.1) :
    highest found xs = some (p.2, p.1) := by
  induction xs generalizing found with
  | nil => simp at hp
  | cons q xs ih =>
    have htail : ∀ r ∈ xs, r = p ∨ r.1 < p.1 := fun r hr => h r (List.mem_cons_of_mem q hr)
    by_cases hq : q = p
    · have hall : found.all (fun m => p.1 > m.2) = true := by
        cases found with
        | none => rfl
        | some m => simpa using hfound m rfl
      have hstep : highest found (q :: xs) = highest (some (p.2, p.1)) xs := by
        simp only [highest, List.foldl_cons, hq, hall, if_true]
      grind [highest_of_le]
    · have hlt : q.1 < p.1 := (h q List.mem_cons_self).resolve_left hq
      refine ih ((List.mem_cons.mp hp).resolve_left (Ne.symm hq)) htail ?_
      grind

theorem latestForTenant_eq (o : Iteration String) (t : String) (kv : KvStore) :
    latestForTenant o t kv = highest none (numbered t (o.visit kv.keys)) := by
  unfold latestForTenant highest numbered scanPrefix
  rw [List.foldl_filterMap]
  congr 1
  funext m key
  cases parseSeqKey key <;> rfl

theorem Holds.visited (h : Holds t l kv) (o : Iteration String) :
    (numbered t (o.visit kv.keys)).Perm (l.map fun e => (e.chainSequence, e.id)) :=
  (((o.perm kv.keys).filter _).filterMap _).trans h.keys

theorem Holds.latestEntry (h : Holds t l kv) (o : Iteration String)
    (hl : Accepted (AuditEntry.displayHash hash) none 0 l) :
    latestEntry o t kv = .ok l.getLast? := by
  have hvisited := h.visited o
  rw [Audit.latestEntry, latestForTenant_eq]
  obtain rfl | ⟨init, e, rfl⟩ := List.eq_nil_or_concat l
  · rw [List.map_nil, List.perm_nil] at hvisited
    rw [hvisited]
    rfl
  · rw [List.concat_eq_append] at h hl hvisited ⊢
    have hhighest : highest none (numbered t (o.visit kv.keys)) = some (e.id, e.chainSequence) := by
      refine highest_eq (p := (e.chainSequence, e.id)) ?_ ?_ (by simp)
      · rw [hvisited.mem_iff]
        exact List.mem_map_of_mem (by simp)
      · intro q hq
        obtain ⟨other, hother, rfl⟩ := List.mem_map.mp (hvisited.mem_iff.mp hq)
        rcases List.mem_append.mp hother with hother | hother
        · right
          exact (List.pairwise_append.mp hl.pairwise).2.2 other hother e (by simp)
        · left
          rw [List.mem_singleton.mp hother]
    rw [hhighest]
    simp only [getEntry, h.entries e (by simp)]
    simp

def foundEntry (tenantId : String) (kv : KvStore) (p : Int × String) : Option AuditEntry :=
  match kv.get? (entryKey tenantId p.2) with
  | some (.entry e) => some e
  | _ => none

theorem getEntries_eq {keys : List String}
    (h : ∀ p ∈ keys.filterMap parseSeqKey, (foundEntry t kv p).isSome) :
    getEntries t kv keys = .ok ((keys.filterMap parseSeqKey).filterMap (foundEntry t kv)) := by
  induction keys with
  | nil => rfl
  | cons key keys ih =>
    cases hkey : parseSeqKey key with
    | none => grind [getEntries]
    | some p =>
      obtain ⟨seq, id⟩ := p
      rw [List.filterMap_cons_some hkey] at h ⊢
      obtain ⟨e, he⟩ := Option.isSome_iff_exists.mp (h _ List.mem_cons_self)
      have hget : getEntry t id kv = .ok (some e) := by grind [foundEntry, getEntry]
      have hrest := ih fun q hq => h q (List.mem_cons_of_mem _ hq)
      simp only [getEntries, hkey, hget, hrest, List.filterMap_cons_some he]
      rfl

theorem Holds.kvChain (h : Holds t l kv) (o : Iteration String)
    (hl : Accepted (AuditEntry.displayHash hash) none 0 l) : kvChain o t kv = .ok l := by
  have hvisited := h.visited o
  have hfound : ∀ e ∈ l, foundEntry t kv (e.chainSequence, e.id) = some e := by
    intro e he
    simp only [foundEntry, h.entries e he]
  have hkeys : ∀ p ∈ numbered t (o.visit kv.keys), (foundEntry t kv p).isSome := by grind
  have hperm : ((numbered t (o.visit kv.keys)).filterMap (foundEntry t kv)).Perm l := by
    refine (hvisited.filterMap _).trans (.of_eq ?_)
    simp_all
  have hentries : getEntries t kv (scanPrefix o (seqPrefix t) kv) =
      .ok ((numbered t (o.visit kv.keys)).filterMap (foundEntry t kv)) := getEntries_eq hkeys
  rw [Audit.kvChain, hentries]
  exact congrArg Except.ok (sortBy_eq_of_perm hl.pairwise hperm)

theorem verifyChainForTenant_isValid (hash : List UInt8 → B3Hash) (t : String)
    (chain : List AuditEntry) :
    (verifyChainForTenant hash t chain).isValid = true ↔
      Accepted (AuditEntry.displayHash hash) none 0 chain := by
  rw [← firstFailure_eq_none (fun _ => "Entry hash mismatch - possible tampering")
    policyLinkError_eq_none 0]
  unfold verifyChainForTenant
  split <;> simp_all

end Reading

end AdapterOS.Audit
