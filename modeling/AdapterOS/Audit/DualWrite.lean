import AdapterOS.Audit.AuditKv

/-! The policy audit trail in two stores: a call inserts a row, then writes the entry and its
sequence key, and refuses to begin while the stores differ. A write that fails after the row leaves
them apart. -/
namespace AdapterOS.Audit

open Library

/-- The table and the key-value store. -/
structure DualLog where
  rows : List AuditEntry
  kv : KvStore

/-- A call with what it generates, and the writes that fail in it. The characters of a generated id
are letters, digits and dashes. -/
structure LogCall where
  tenantId : String
  draft : Draft
  faults : WriteFaults := {}
  id_noSlash : '/' ∉ draft.id.toList

namespace DualLog

variable (o : Iteration String) (hash : List UInt8 → B3Hash)

def empty : DualLog := ⟨[], ∅⟩

/-- The last entry of the key-value store must be the tail of the table. -/
def checkAligned (tenantId : String) (tail : Option (String × Int)) (kv : KvStore) :
    Except AosError Unit :=
  let previousSeq := (tail.map Prod.snd).getD 0
  match latestEntry o tenantId kv with
  | .error e => .error e
  | .ok (some latest) =>
    if latest.chainSequence ≠ previousSeq then
      .error (.validation ("KV policy audit chain out of sync (expected seq " ++
        toString previousSeq ++ ", found " ++ toString latest.chainSequence ++ ")"))
    else
      match tail with
      | some (previousHash, _) =>
        if latest.entryHash ≠ previousHash then
          .error (.validation "KV policy audit previous hash mismatch")
        else .ok ()
      | none => .ok ()
  | .ok none =>
    if previousSeq ≠ 0 then
      .error (.validation "KV policy audit missing prior entries while SQL has history")
    else .ok ()

/-- The id is the primary key. -/
def insertRow (fault : Option String) (entry : AuditEntry) (rows : List AuditEntry) :
    Except AosError (List AuditEntry) :=
  match fault with
  | some e => .error (.database e)
  | none =>
    if entry.id ∈ rows.map AuditEntry.id then
      .error (.database "UNIQUE constraint failed: policy_audit_decisions.id")
    else .ok (rows ++ [entry])

/-- The entry is read back after it has been written. -/
def confirmEntry (tenantId : String) (entry : AuditEntry) (kv : KvStore) :
    Except AosError String :=
  match latestEntry o tenantId kv with
  | .error e => .error e
  | .ok none => .error (.validation "KV policy audit missing after write")
  | .ok (some latest) =>
    if latest.chainSequence ≠ entry.chainSequence ∨ latest.entryHash ≠ entry.entryHash then
      .error (.validation "KV policy audit entry does not match SQL write")
    else .ok entry.id

/-- `log_policy_decision` while both stores are written to. -/
def logPolicyDecision (s : DualLog) (c : LogCall) : DualLog × Except AosError String :=
  match validatePolicyAuditTail hash c.tenantId s.rows with
  | .error e => (s, .error e)
  | .ok tail =>
    match checkAligned o c.tenantId tail s.kv with
    | .error e => (s, .error e)
    | .ok () =>
      let entry := c.draft.entry hash c.tenantId tail
      match insertRow c.faults.row entry s.rows with
      | .error e => (s, .error e)
      | .ok rows =>
        match putEntry hash c.faults entry s.kv with
        | (kv, .error e) => (⟨rows, kv⟩, .error e)
        | (kv, .ok ()) => (⟨rows, kv⟩, confirmEntry o c.tenantId entry kv)

def step (s : DualLog) (c : LogCall) : DualLog := (s.logPolicyDecision o hash c).1

/-- The call succeeds, and then both stores have the same chain for its tenant, which verifies. -/
structure Recovers (s : DualLog) (c : LogCall) : Prop where
  succeeds : (s.logPolicyDecision o hash c).2 = .ok c.draft.id
  agree : kvChain o c.tenantId (s.step o hash c).kv =
    .ok (chainOf c.tenantId (s.step o hash c).rows)
  sqlValid : (verifyPolicyAuditChain hash c.tenantId (s.step o hash c).rows).isValid = true
  kvValid : ∃ result, verifyKvChain o hash c.tenantId (s.step o hash c).kv = .ok result ∧
    result.isValid = true

def Stranded (s : DualLog) (c : LogCall) : Prop :=
  (s.step o hash c).rows ≠ s.rows ∧ (s.logPolicyDecision o hash c).2.isOk = false

instance (s : DualLog) (c : LogCall) : Decidable (Stranded o hash s c) :=
  inferInstanceAs (Decidable (_ ∧ _))

section Calls

variable {o hash} {s : DualLog} {c : LogCall} {t : String} {l : List AuditEntry} {kv : KvStore}
  {e : AuditEntry}

theorem checkAligned_of_holds (h : Holds t l kv)
    (hl : Accepted (AuditEntry.displayHash hash) none 0 l) :
    checkAligned o t (tailOf l) kv = .ok () := by
  simp only [checkAligned, h.latestEntry o hl]
  obtain rfl | ⟨init, e, rfl⟩ := List.eq_nil_or_concat l
  · simp [tailOf]
  · simp [tailOf]

theorem checkAligned_of_missing (h : Holds t l kv)
    (hl : Accepted (AuditEntry.displayHash hash) none 0 (l ++ [e])) :
    ∃ err, checkAligned o t (tailOf (l ++ [e])) kv = .error err := by
  obtain ⟨hinit, hseq, -⟩ := accepted_append.mp hl
  have hprevious : ((tailOf (l ++ [e])).map Prod.snd).getD 0 = (l.length : Int) + 1 := by
    simpa using hl.tailOf_number
  have hnumber := hinit.tailOf_number
  simp only [checkAligned, h.latestEntry o hinit, hprevious]
  cases hlast : l.getLast? with
  | none =>
    have hne : (l.length : Int) + 1 ≠ 0 := by omega
    simp only [hne, ne_eq, not_false_eq_true, if_true]
    exact ⟨_, rfl⟩
  | some latest =>
    have hne : latest.chainSequence ≠ (l.length : Int) + 1 := by
      simp only [tailOf, hlast, Option.map_some, Option.getD_some] at hnumber
      omega
    simp only [hne, ne_eq, not_false_eq_true, if_true]
    exact ⟨_, rfl⟩

/-- The stores have the same accepted chain for the tenant. -/
structure Synced (hash : List UInt8 → B3Hash) (t : String) (s : DualLog) : Prop where
  accepted : Accepted (AuditEntry.displayHash hash) none 0 (chainOf t s.rows)
  holds : Holds t (chainOf t s.rows) s.kv

/-- The last row of the tenant is missing from the key-value store. -/
structure Behind (hash : List UInt8 → B3Hash) (t : String) (s : DualLog) : Prop where
  accepted : Accepted (AuditEntry.displayHash hash) none 0 (chainOf t s.rows)
  missing : ∃ l e, chainOf t s.rows = l ++ [e] ∧ Holds t l s.kv

theorem Behind.logPolicyDecision (h : Behind hash c.tenantId s) :
    ∃ err, s.logPolicyDecision o hash c = (s, .error err) := by
  obtain ⟨l, e, hchain, hholds⟩ := h.missing
  have haccepted := h.accepted
  rw [hchain] at haccepted
  obtain ⟨err, herr⟩ := checkAligned_of_missing (o := o) hholds haccepted
  refine ⟨err, ?_⟩
  simp only [DualLog.logPolicyDecision, validatePolicyAuditTail_eq h.accepted, hchain, herr]

def nextEntry (hash : List UInt8 → B3Hash) (s : DualLog) (c : LogCall) : AuditEntry :=
  c.draft.entry hash c.tenantId (tailOf (chainOf c.tenantId s.rows))

theorem Synced.logPolicyDecision (h : Synced hash c.tenantId s) : s.logPolicyDecision o hash c =
      match insertRow c.faults.row (nextEntry hash s c) s.rows with
      | .error e => (s, .error e)
      | .ok rows =>
        match putEntry hash c.faults (nextEntry hash s c) s.kv with
        | (kv, .error e) => (⟨rows, kv⟩, .error e)
        | (kv, .ok ()) => (⟨rows, kv⟩, confirmEntry o c.tenantId (nextEntry hash s c) kv) := by
  simp only [DualLog.logPolicyDecision, validatePolicyAuditTail_eq h.accepted,
    checkAligned_of_holds (o := o) h.holds h.accepted]
  rfl

theorem Synced.accepted_next (h : Synced hash c.tenantId s) :
    Accepted (AuditEntry.displayHash hash) none 0
      (chainOf c.tenantId s.rows ++ [nextEntry hash s c]) :=
  h.accepted.concat_entry c.tenantId c.draft

theorem Synced.chainOf_next (h : Synced hash c.tenantId s) :
    chainOf c.tenantId (s.rows ++ [nextEntry hash s c]) =
      chainOf c.tenantId s.rows ++ [nextEntry hash s c] :=
  chainOf_concat rfl h.accepted_next

theorem insertRow_ok {fault : Option String} {rows rows' : List AuditEntry}
    (h : insertRow fault e rows = .ok rows') :
    fault = none ∧ e.id ∉ rows.map AuditEntry.id ∧ rows' = rows ++ [e] := by
  cases fault with
  | some m => simp [insertRow] at h
  | none => by_cases hid : e.id ∈ rows.map AuditEntry.id <;> grind [insertRow]

theorem mem_of_mem_chainOf {rows : List AuditEntry} (h : e ∈ chainOf t rows) : e ∈ rows :=
  (List.mem_filter.mp (mem_sortBy.mp h)).1

theorem putEntry_cases (hash : List UInt8 → B3Hash) (faults : WriteFaults)
    (he : e.entryHash = e.displayHash hash) (kv : KvStore) :
    (∃ err, putEntry hash faults e kv = (kv, .error err)) ∨
    (∃ err, putEntry hash faults e kv =
      (kv.insert (entryKey e.tenantId e.id) (.entry e), .error err)) ∨
    putEntry hash faults e kv = ((kv.insert (entryKey e.tenantId e.id) (.entry e)).insert
      (seqKey e.tenantId e.chainSequence e.id) (.id e.id), .ok ()) := by
  unfold putEntry
  rw [← he]
  cases faults.entry with
  | some m => exact .inl ⟨_, rfl⟩
  | none =>
    cases faults.seq with
    | some m => exact .inr (.inl ⟨_, rfl⟩)
    | none => exact .inr (.inr rfl)

theorem Synced.put (h : Synced hash c.tenantId s) (ht : '/' ∉ c.tenantId.toList)
    (hid : c.draft.id ∉ s.rows.map AuditEntry.id) :
    (∃ kv, putEntry hash c.faults (nextEntry hash s c) s.kv = (kv, .ok ()) ∧
      Synced hash c.tenantId ⟨s.rows ++ [nextEntry hash s c], kv⟩) ∨
    (∃ kv err, putEntry hash c.faults (nextEntry hash s c) s.kv = (kv, .error err) ∧
      Behind hash c.tenantId ⟨s.rows ++ [nextEntry hash s c], kv⟩) := by
  have haccepted := h.accepted_next
  have hchain := h.chainOf_next
  rw [← hchain] at haccepted
  have hslash : '/' ∉ (nextEntry hash s c).id.toList := c.id_noSlash
  have hnew : (nextEntry hash s c).id ∉ (chainOf c.tenantId s.rows).map AuditEntry.id := by
    intro hmem
    obtain ⟨e, he, heq⟩ := List.mem_map.mp hmem
    exact hid (List.mem_map.mpr ⟨e, mem_of_mem_chainOf he, heq⟩)
  rcases putEntry_cases hash c.faults (e := nextEntry hash s c) rfl s.kv with
    ⟨err, hput⟩ | ⟨err, hput⟩ | hput
  · exact .inr ⟨_, _, hput, haccepted, _, _, hchain, h.holds⟩
  · have hstored := h.holds.insert_entry ht hslash hnew (.entry (nextEntry hash s c))
    exact .inr ⟨_, _, hput, haccepted, _, _, hchain, hstored⟩
  · have hnumber : (nextEntry hash s c).chainSequence =
        (((chainOf c.tenantId s.rows).length + 1 : Nat) : Int) := by
      simp [nextEntry, Draft.entry, h.accepted.tailOf_number]
    have hholds := h.holds.put ht hslash hnew hnumber
    rw [← hchain] at hholds
    exact .inl ⟨_, hput, haccepted, hholds⟩

theorem confirmEntry_of_holds (h : Holds t (l ++ [e]) kv)
    (hl : Accepted (AuditEntry.displayHash hash) none 0 (l ++ [e])) :
    confirmEntry o t e kv = .ok e.id := by
  simp [confirmEntry, h.latestEntry o hl]

theorem Synced.step_own (h : Synced hash c.tenantId s) (ht : '/' ∉ c.tenantId.toList) :
    (¬ Stranded o hash s c ∧ Synced hash c.tenantId (s.step o hash c)) ∨
      (Stranded o hash s c ∧ Behind hash c.tenantId (s.step o hash c)) := by
  have heq := h.logPolicyDecision (o := o)
  cases hrow : insertRow c.faults.row (nextEntry hash s c) s.rows with
  | error err => grind [Stranded, DualLog.step]
  | ok rows =>
    obtain ⟨-, hid, rfl⟩ := insertRow_ok hrow
    simp only [hrow] at heq
    rcases h.put ht hid with ⟨kv, hput, hsynced⟩ | ⟨kv, err, hput, hbehind⟩
    · left
      have hholds := hsynced.holds
      rw [h.chainOf_next] at hholds
      have hconfirm := confirmEntry_of_holds (o := o) hholds h.accepted_next
      simp only [hput, hconfirm] at heq
      simp only [Stranded, DualLog.step, heq]
      refine ⟨?_, hsynced⟩
      rintro ⟨-, he⟩
      cases he
    · right
      simp only [hput] at heq
      simp only [Stranded, DualLog.step, heq]
      refine ⟨⟨?_, rfl⟩, hbehind⟩
      simp

theorem Synced.recovers (h : Synced hash c.tenantId s) (ht : '/' ∉ c.tenantId.toList)
    (hhealthy : c.faults = {}) (hid : c.draft.id ∉ s.rows.map AuditEntry.id) :
    Recovers o hash s c := by
  have heq := h.logPolicyDecision (o := o)
  have hnext : (nextEntry hash s c).id ∉ s.rows.map AuditEntry.id := hid
  have hrow : insertRow c.faults.row (nextEntry hash s c) s.rows =
      .ok (s.rows ++ [nextEntry hash s c]) := by
    simp only [insertRow, hhealthy, if_neg hnext]
  simp only [hrow] at heq
  rcases h.put ht hid with ⟨kv, hput, hsynced⟩ | ⟨kv, err, hput, -⟩
  · have hholds := hsynced.holds
    rw [h.chainOf_next] at hholds
    have hconfirm := confirmEntry_of_holds (o := o) hholds h.accepted_next
    simp only [hput, hconfirm] at heq
    have hkv := hsynced.holds.kvChain o hsynced.accepted
    have hstep : s.step o hash c = ⟨s.rows ++ [nextEntry hash s c], kv⟩ := by
      rw [DualLog.step, heq]
    refine ⟨by rw [heq]; rfl, ?_, ?_, ?_⟩
    · rw [hstep]
      exact hkv
    · rw [hstep, verifyPolicyAuditChain_isValid]
      exact hsynced.accepted
    · rw [hstep]
      refine ⟨_, congrArg (Except.map _) hkv, ?_⟩
      exact (verifyChainForTenant_isValid hash c.tenantId _).mpr hsynced.accepted
  · simp [putEntry, hhealthy] at hput

theorem Behind.not_recovers (h : Behind hash c.tenantId s) : ¬ Recovers o hash s c := by
  intro hr
  obtain ⟨err, herr⟩ := h.logPolicyDecision (o := o)
  have hok := hr.succeeds
  rw [herr] at hok
  cases hok

end Calls

section Runs

variable {o hash} {s : DualLog} {c : LogCall} {t : String} {calls : List LogCall}

theorem step_cases (o : Iteration String) (hash : List UInt8 → B3Hash) (s : DualLog) (c : LogCall) :
    s.step o hash c = s ∨ ∃ tail, s.step o hash c = ⟨s.rows ++ [c.draft.entry hash c.tenantId tail],
        (putEntry hash c.faults (c.draft.entry hash c.tenantId tail) s.kv).1⟩ := by
  cases htail : validatePolicyAuditTail hash c.tenantId s.rows with
  | error err =>
    left
    simp only [DualLog.step, DualLog.logPolicyDecision, htail]
  | ok tail =>
    cases hcheck : checkAligned o c.tenantId tail s.kv with
    | error err =>
      left
      simp only [DualLog.step, DualLog.logPolicyDecision, htail, hcheck]
    | ok _ =>
      cases hrow : insertRow c.faults.row (c.draft.entry hash c.tenantId tail) s.rows with
      | error err =>
        left
        simp only [DualLog.step, DualLog.logPolicyDecision, htail, hcheck, hrow]
      | ok rows =>
        obtain ⟨-, -, rfl⟩ := insertRow_ok hrow
        grind [DualLog.step, DualLog.logPolicyDecision]

theorem chainOf_other {e : AuditEntry} (he : e.tenantId ≠ t) (rows : List AuditEntry) :
    chainOf t (rows ++ [e]) = chainOf t rows := by
  simp [chainOf, he]

theorem step_other (ht : '/' ∉ t.toList) (hc : '/' ∉ c.tenantId.toList) (hne : t ≠ c.tenantId)
    (o : Iteration String) (hash : List UInt8 → B3Hash) (s : DualLog) :
    chainOf t (s.step o hash c).rows = chainOf t s.rows ∧
      ∀ l, Holds t l s.kv → Holds t l (s.step o hash c).kv := by
  rcases step_cases o hash s c with h | ⟨tail, h⟩
  · rw [h]
    exact ⟨rfl, fun _ => id⟩
  · rw [h]
    refine ⟨chainOf_other (Ne.symm hne) _, ?_⟩
    intro l hl
    set e := c.draft.entry hash c.tenantId tail
    have hslash : '/' ∉ e.id.toList := c.id_noSlash
    have hentry : Holds t l (s.kv.insert (entryKey c.tenantId e.id) (.entry e)) :=
      hl.insert_entry_other ht hc hne hslash _
    rcases putEntry_cases hash c.faults (e := e) rfl s.kv with ⟨err, hput⟩ | ⟨err, hput⟩ | hput
    · rw [hput]
      exact hl
    · rw [hput]
      exact hentry
    · rw [hput]
      exact hentry.insert_seq_other ht hc hne _ _

theorem Synced.step_other (h : Synced hash t s) (ht : '/' ∉ t.toList)
    (hc : '/' ∉ c.tenantId.toList) (hne : t ≠ c.tenantId) : Synced hash t (s.step o hash c) := by
  obtain ⟨hchain, hholds⟩ := DualLog.step_other ht hc hne o hash s
  refine ⟨?_, ?_⟩
  · rw [hchain]
    exact h.accepted
  · rw [hchain]
    exact hholds _ h.holds

theorem Behind.step (h : Behind hash t s) (ht : '/' ∉ t.toList) (hc : '/' ∉ c.tenantId.toList) :
    Behind hash t (s.step o hash c) := by
  by_cases hne : t = c.tenantId
  · subst t
    obtain ⟨err, herr⟩ := h.logPolicyDecision (o := o)
    rw [DualLog.step, herr]
    exact h
  · obtain ⟨hchain, hholds⟩ := DualLog.step_other ht hc hne o hash s
    obtain ⟨l, e, hl, hkv⟩ := h.missing
    refine ⟨?_, l, e, ?_, hholds l hkv⟩
    · rw [hchain]
      exact h.accepted
    · rw [hchain, hl]

def kept (o : Iteration String) (hash : List UInt8 → B3Hash) (t : String) (s : DualLog)
    (c : LogCall) : Prop :=
  c.tenantId = t → ¬ Stranded o hash s c

instance (t : String) (s : DualLog) (c : LogCall) : Decidable (kept o hash t s c) :=
  inferInstanceAs (Decidable (_ → _))

theorem Synced.run (h : Synced hash t s) (ht : '/' ∉ t.toList)
    (hcalls : ∀ c ∈ calls, '/' ∉ c.tenantId.toList) :
    (Guarded (DualLog.step o hash) (kept o hash t) s calls ∧
        Synced hash t (run (DualLog.step o hash) s calls)) ∨
      (¬ Guarded (DualLog.step o hash) (kept o hash t) s calls ∧
        Behind hash t (run (DualLog.step o hash) s calls)) := by
  induction calls generalizing s with
  | nil => exact .inl ⟨trivial, h⟩
  | cons c calls ih =>
    have hc := hcalls c List.mem_cons_self
    have hrest : ∀ d ∈ calls, '/' ∉ d.tenantId.toList :=
      fun d hd => hcalls d (List.mem_cons_of_mem c hd)
    by_cases hne : t = c.tenantId
    · subst t
      rcases h.step_own (o := o) hc with ⟨hkept, hs⟩ | ⟨hstranded, hb⟩
      · rcases ih hs hrest with ⟨hg, hend⟩ | ⟨hg, hend⟩
        · exact .inl ⟨⟨fun _ => hkept, hg⟩, hend⟩
        · exact .inr ⟨fun hall => hg hall.2, hend⟩
      · right
        refine ⟨fun hall => hall.1 rfl hstranded, ?_⟩
        rw [run_cons]
        exact run_invariant_of_forall (I := Behind hash c.tenantId)
          (A := fun d => '/' ∉ d.tenantId.toList) (fun _ _ hi hd => hi.step ht hd) hb hrest
    · have hs := h.step_other (o := o) ht hc hne
      rcases ih hs hrest with ⟨hg, hend⟩ | ⟨hg, hend⟩
      · exact .inl ⟨⟨fun he => absurd he.symm hne, hg⟩, hend⟩
      · exact .inr ⟨fun hall => hg hall.2, hend⟩

theorem synced_empty (t : String) : Synced hash t empty := ⟨trivial, holds_empty t⟩

/-- After any calls, one without a failing write succeeds and leaves one valid chain in both stores
exactly if no call of its tenant has put a row into the table and failed after it. -/
theorem recovers_iff (calls : List LogCall) (c : LogCall)
    (hslash : ∀ d ∈ c :: calls, '/' ∉ d.tenantId.toList) (hhealthy : c.faults = {})
    (hid : c.draft.id ∉ (run (DualLog.step o hash) empty calls).rows.map AuditEntry.id) :
    Recovers o hash (run (DualLog.step o hash) empty calls) c ↔
      Guarded (DualLog.step o hash) (kept o hash c.tenantId) empty calls := by
  have hc := hslash c List.mem_cons_self
  have hcalls : ∀ d ∈ calls, '/' ∉ d.tenantId.toList :=
    fun d hd => hslash d (List.mem_cons_of_mem c hd)
  have hempty : Synced hash c.tenantId empty := synced_empty c.tenantId
  rcases hempty.run (o := o) hc hcalls with ⟨hg, hs⟩ | ⟨hg, hb⟩
  · exact ⟨fun _ => hg, fun _ => hs.recovers hc hhealthy hid⟩
  · exact ⟨fun hr => absurd hr hb.not_recovers, fun hall => absurd hall hg⟩

def sampleCall (tenantId id : String) (faults : WriteFaults)
    (h : '/' ∉ id.toList := by decide) : LogCall :=
  ⟨tenantId, AuditLog.sampleDraft id, faults, h⟩

/-- A row that is not inserted and another tenant's failure do no harm. -/
theorem recovers_after_rowFault :
    Recovers .asListed digitHash (run (DualLog.step .asListed digitHash) empty
        [sampleCall "t" "a" {}, sampleCall "t" "b" { row := some "locked" },
          sampleCall "u" "c" { seq := some "full" }])
      (sampleCall "t" "d" {}) := by
  refine (recovers_iff _ _ ?_ rfl ?_).mpr ?_
  · decide
  · decide
  · decide

/-- One entry that is not written, and no later call of the tenant is accepted. Without a failing
write, a tenant id that reaches into the keys of another has the same effect. -/
theorem not_recovers_after_entryFault :
    ¬ Recovers .asListed digitHash (run (DualLog.step .asListed digitHash) empty
        [sampleCall "t" "a" { entry := some "full" }]) (sampleCall "t" "b" {}) ∧
      ¬ Recovers .asListed digitHash (run (DualLog.step .asListed digitHash) empty
        [sampleCall "t/policy_audit/seq" "a" {}, sampleCall "t/policy_audit/seq" "b" {}])
          (sampleCall "t" "c" {}) := by
  have hbehind : ((run (DualLog.step .asListed digitHash) empty
      [sampleCall "t" "a" { entry := some "full" }]).logPolicyDecision .asListed digitHash
        (sampleCall "t" "b" {})).2 =
      .error (.validation "KV policy audit missing prior entries while SQL has history") := by
    decide
  have hforeign : ((run (DualLog.step .asListed digitHash) empty
      [sampleCall "t/policy_audit/seq" "a" {},
        sampleCall "t/policy_audit/seq" "b" {}]).logPolicyDecision .asListed digitHash
          (sampleCall "t" "c" {})).2 =
      .error (.validation "KV policy audit missing after write") := by
    decide +kernel
  refine ⟨?_, ?_⟩
  · intro h
    have hok := h.succeeds
    rw [hbehind] at hok
    cases hok
  · intro h
    have hok := h.succeeds
    rw [hforeign] at hok
    cases hok

end Runs

end DualLog

end AdapterOS.Audit
