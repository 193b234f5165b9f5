import AdapterOS.Audit.AuditChain
import AdapterOS.Library.Chain
import AdapterOS.Library.Ranking
import AdapterOS.Library.Run

/-! The policy audit trail in the database: a call reads the tail of its tenant's chain, and later
inserts the entry that follows it. -/
namespace AdapterOS.Audit

open Library

def AuditEntry.displayHash (hash : List UInt8 → B3Hash) (e : AuditEntry) : String :=
  B3Hash.display (e.computeEntryHash hash)

section Table

def chainOf (tenantId : String) (rows : List AuditEntry) : List AuditEntry :=
  sortBy AuditEntry.chainSequence (rows.filter fun e => e.tenantId = tenantId)

def auditChainDivergence (message : String) : AosError :=
  .validation ("AUDIT_CHAIN_DIVERGED: " ++ message)

/-- The hash and the number of the last entry, after a check of the last two. -/
def validatePolicyAuditTail (hash : List UInt8 → B3Hash) (tenantId : String)
    (rows : List AuditEntry) : Except AosError (Option (String × Int)) :=
  let chain := rows.filter fun e => e.tenantId = tenantId
  match (sortBy (fun e => -e.chainSequence) chain).take 2 with
  | [] => .ok none
  | latest :: tail =>
    if latest.displayHash hash ≠ latest.entryHash then
      .error (auditChainDivergence ("tail hash mismatch at seq " ++ toString latest.chainSequence ++
        " (expected " ++ latest.displayHash hash ++ ", found " ++ latest.entryHash ++ ")"))
    else if latest.chainSequence = 1 then
      if latest.previousHash.isSome then
        .error (auditChainDivergence "first entry unexpectedly has previous_hash")
      else .ok (some (latest.entryHash, latest.chainSequence))
    else
      match tail with
      | [] => .error (auditChainDivergence "missing predecessor for latest audit entry")
      | prev :: _ =>
        if prev.displayHash hash ≠ prev.entryHash then
          .error (auditChainDivergence ("previous entry hash mismatch at seq " ++
            toString prev.chainSequence))
        else
          match latest.previousHash with
          | some stored =>
            if stored = prev.entryHash then .ok (some (latest.entryHash, latest.chainSequence))
            else
              .error (auditChainDivergence ("previous_hash mismatch at seq " ++
                toString latest.chainSequence ++ " (expected " ++ prev.entryHash ++ ", found " ++
                stored ++ ")"))
          | none => .error (auditChainDivergence "latest entry missing previous_hash linkage")

structure ChainVerificationResult where
  isValid : Bool
  entriesChecked : Nat
  firstInvalidSequence : Option Int
  errorMessage : Option String
  divergenceDetected : Bool
  tenantId : Option String

def policyLinkError : Option String → Option String → Option String
  | some expected, link => if link ≠ some expected then some "Previous hash mismatch" else none
  | none, some _ => some "First entry has non-null previous_hash"
  | none, none => none

/-- The check of one tenant's chain. -/
def verifyPolicyAuditChain (hash : List UInt8 → B3Hash) (tenantId : String)
    (rows : List AuditEntry) : ChainVerificationResult :=
  match firstFailure (AuditEntry.displayHash hash) policyLinkError
      (fun _ => "Entry hash mismatch - possible tampering") 0 none 0 (chainOf tenantId rows) with
  | some (idx, entry, message) =>
    ⟨false, idx + 1, some entry.chainSequence, some message, true, some tenantId⟩
  | none => ⟨true, (chainOf tenantId rows).length, none, none, false, some tenantId⟩

end Table

/-- What a call brings along and generates before its insert. -/
structure Draft where
  id : String
  timestamp : String
  policyPackId : String
  hook : String
  decision : String
  reason : Option String := none
  requestId : Option String := none
  userId : Option String := none
  resourceType : Option String := none
  resourceId : Option String := none
  metadataJson : Option String := none

/-- The entry that follows a tail. -/
def Draft.entry (hash : List UInt8 → B3Hash) (tenantId : String) (tail : Option (String × Int))
    (d : Draft) : AuditEntry :=
  let e : AuditEntry :=
    { id := d.id, tenantId := tenantId, policyPackId := d.policyPackId, hook := d.hook
      decision := d.decision, reason := d.reason, requestId := d.requestId, userId := d.userId
      resourceType := d.resourceType, resourceId := d.resourceId, metadataJson := d.metadataJson
      timestamp := d.timestamp, entryHash := "", previousHash := tail.map Prod.fst
      chainSequence := (tail.map Prod.snd).getD 0 + 1 }
  { e with entryHash := e.displayHash hash }

/-- The table, and for every task the tail that its call has read and not yet used. -/
structure AuditLog (n : Nat) where
  rows : List AuditEntry
  pending : Fin n → Option (Option (String × Int))

inductive AuditAction (n : Nat) where
  | query (task : Fin n)
  | insert (task : Fin n) (draft : Draft)

section Chains

variable {digest : AuditEntry → String} {prev : Option String} {seq : Int} {l m : List AuditEntry}
  {e : AuditEntry}

theorem accepted_append : Accepted digest prev seq (l ++ m) ↔ Accepted digest prev seq l ∧
      Accepted digest (tip AuditEntry.entryHash prev l) (seq + l.length) m := by
  induction l generalizing prev seq with
  | nil => simp [Accepted]
  | cons e l ih =>
    simp only [List.cons_append, Accepted, ih, tip_cons, List.length_cons, and_assoc]
    rw [Nat.cast_succ, add_assoc, add_comm (1 : Int)]

theorem Accepted.numbers (h : Accepted digest prev seq l) :
    l.map AuditEntry.chainSequence = (List.range l.length).map fun (i : Nat) => seq + 1 + i := by
  induction l generalizing prev seq with
  | nil => rfl
  | cons e l ih =>
    obtain ⟨hseq, -, -, hrest⟩ := h
    grind [List.range_succ_eq_map, Function.comp_def]

theorem Accepted.pairwise (h : Accepted digest prev seq l) :
    l.Pairwise fun a b => a.chainSequence < b.chainSequence := by
  have hnumbers : (l.map AuditEntry.chainSequence).Pairwise (· < ·) := by
    rw [h.numbers, List.pairwise_map]
    refine List.pairwise_lt_range.imp ?_
    intro i j hij
    omega
  exact List.pairwise_map.mp hnumbers

def tailOf (l : List AuditEntry) : Option (String × Int) :=
  l.getLast?.map fun e => (e.entryHash, e.chainSequence)

theorem policyLinkError_eq_none (prev link : Option String) :
    policyLinkError prev link = none ↔ link = prev := by
  cases prev with
  | none => cases link <;> simp [policyLinkError]
  | some expected => simp [policyLinkError]

theorem verifyPolicyAuditChain_isValid (hash : List UInt8 → B3Hash) (tenantId : String)
    (rows : List AuditEntry) :
    (verifyPolicyAuditChain hash tenantId rows).isValid = true ↔
      Accepted (AuditEntry.displayHash hash) none 0 (chainOf tenantId rows) := by
  rw [← firstFailure_eq_none (fun _ => "Entry hash mismatch - possible tampering")
    policyLinkError_eq_none 0]
  unfold verifyPolicyAuditChain
  split <;> simp_all

end Chains

section Tail

variable {hash : List UInt8 → B3Hash} {tenantId : String} {rows : List AuditEntry}

theorem sortBy_desc (h : Accepted (AuditEntry.displayHash hash) none 0 (chainOf tenantId rows)) :
    sortBy (fun e => -e.chainSequence) (rows.filter fun e => e.tenantId = tenantId) =
      (chainOf tenantId rows).reverse := by
  refine sortBy_eq_of_perm ?_ ?_
  · rw [List.pairwise_reverse]
    exact h.pairwise.imp fun hlt => neg_lt_neg hlt
  · exact (sortBy_perm _ _).symm.trans (List.reverse_perm _).symm

theorem validatePolicyAuditTail_eq
    (h : Accepted (AuditEntry.displayHash hash) none 0 (chainOf tenantId rows)) :
    validatePolicyAuditTail hash tenantId rows = .ok (tailOf (chainOf tenantId rows)) := by
  simp only [validatePolicyAuditTail]
  rw [sortBy_desc h]
  generalize chainOf tenantId rows = l at h
  obtain rfl | ⟨init, latest, rfl⟩ := List.eq_nil_or_concat l
  · rfl
  rw [List.concat_eq_append] at h ⊢
  obtain ⟨hinit, hseq, hprev, hhash, -⟩ := accepted_append.mp h
  obtain rfl | ⟨init, before, rfl⟩ := List.eq_nil_or_concat init
  · have hone : latest.chainSequence = 1 := hseq
    have hnone : latest.previousHash = none := hprev
    simp [hone, hnone, hhash, tailOf]
  · rw [List.concat_eq_append] at hinit hseq hprev ⊢
    obtain ⟨-, -, -, hbefore, -⟩ := accepted_append.mp hinit
    have hlater : latest.chainSequence ≠ 1 := by
      rw [hseq, List.length_append, List.length_singleton]
      omega
    grind [tip_concat, tailOf]

theorem tailOf_hash (l : List AuditEntry) :
    (tailOf l).map Prod.fst = tip AuditEntry.entryHash none l := by
  simp [tailOf, tip, Function.comp_def]

theorem Accepted.tailOf_number {digest : AuditEntry → String} {prev : Option String}
    {l : List AuditEntry} (h : Accepted digest prev 0 l) :
    ((tailOf l).map Prod.snd).getD 0 = l.length := by
  obtain rfl | ⟨init, latest, rfl⟩ := List.eq_nil_or_concat l
  · rfl
  rw [List.concat_eq_append] at h ⊢
  obtain ⟨-, hseq, -⟩ := accepted_append.mp h
  simp [tailOf, hseq]

theorem Accepted.concat_entry {l : List AuditEntry}
    (h : Accepted (AuditEntry.displayHash hash) none 0 l) (tenantId : String) (d : Draft) :
    Accepted (AuditEntry.displayHash hash) none 0 (l ++ [d.entry hash tenantId (tailOf l)]) := by
  refine accepted_append.mpr ⟨h, ?_, tailOf_hash l, rfl, trivial⟩
  simp [Draft.entry, h.tailOf_number]

theorem chainOf_concat_perm (rows : List AuditEntry) {e : AuditEntry} (he : e.tenantId = tenantId) :
    (chainOf tenantId (rows ++ [e])).Perm (chainOf tenantId rows ++ [e]) := by
  grind [chainOf, sortBy_perm]

theorem chainOf_concat {e : AuditEntry} (he : e.tenantId = tenantId)
    (h : Accepted (AuditEntry.displayHash hash) none 0 (chainOf tenantId rows ++ [e])) :
    chainOf tenantId (rows ++ [e]) = chainOf tenantId rows ++ [e] := by
  have hperm := (sortBy_perm _ _).symm.trans (chainOf_concat_perm rows he)
  exact sortBy_eq_of_perm h.pairwise hperm

end Tail

namespace AuditLog

variable {n : Nat} (hash : List UInt8 → B3Hash) (tenantId : String)

def new (n : Nat) (rows : List AuditEntry) : AuditLog n := ⟨rows, fun _ => none⟩

/-- A tail that is refused ends the call, and so does an id that is taken, the primary key. -/
def step (s : AuditLog n) : AuditAction n → AuditLog n
  | .query task =>
    match s.pending task, validatePolicyAuditTail hash tenantId s.rows with
    | none, .ok tail => { s with pending := Function.update s.pending task (some tail) }
    | _, _ => s
  | .insert task draft =>
    match s.pending task with
    | none => s
    | some tail =>
      { rows :=
          if draft.id ∈ s.rows.map AuditEntry.id then s.rows
          else s.rows ++ [draft.entry hash tenantId tail]
        pending := Function.update s.pending task none }

def Valid (s : AuditLog n) : Prop :=
  (verifyPolicyAuditChain hash tenantId s.rows).isValid = true

/-- A row goes in only while the tail that its call has read is the tail of the table. -/
def fresh (s : AuditLog n) : AuditAction n → Bool
  | .query _ => true
  | .insert task draft =>
    match s.pending task with
    | none => true
    | some tail => draft.id ∈ s.rows.map AuditEntry.id ||
        validatePolicyAuditTail hash tenantId s.rows = .ok tail

section Interleaving

/-- The chain is accepted, and what a call has read is the tail of some beginning of it. -/
structure Inv (s : AuditLog n) : Prop where
  accepted : Accepted (AuditEntry.displayHash hash) none 0 (chainOf tenantId s.rows)
  seen : ∀ task tail, s.pending task = some tail →
    ∃ l, l <+: chainOf tenantId s.rows ∧ tail = tailOf l

variable {hash tenantId} {s : AuditLog n} {task : Fin n} {draft : Draft}
  {tail : Option (String × Int)}

theorem Inv.append (h : Inv hash tenantId s) (draft : Draft)
    {pending : Fin n → Option (Option (String × Int))}
    (hpending : ∀ other tail, pending other = some tail → s.pending other = some tail) :
    Inv hash tenantId
      ⟨s.rows ++ [draft.entry hash tenantId (tailOf (chainOf tenantId s.rows))], pending⟩ := by
  have haccepted := h.accepted.concat_entry tenantId draft
  have htenant : (draft.entry hash tenantId (tailOf (chainOf tenantId s.rows))).tenantId =
      tenantId := rfl
  have hchain := chainOf_concat htenant haccepted
  constructor
  · rw [hchain]
    exact haccepted
  · obtain ⟨⟩ := h
    grind

theorem Inv.step (h : Inv hash tenantId s) (a : AuditAction n)
    (hf : s.fresh hash tenantId a = true) : Inv hash tenantId (s.step hash tenantId a) := by
  cases a with
  | query task =>
    cases hp : s.pending task with
    | some tail =>
      simp only [AuditLog.step, hp]
      exact h
    | none =>
      simp only [AuditLog.step, hp, validatePolicyAuditTail_eq h.accepted]
      refine ⟨h.accepted, ?_⟩
      obtain ⟨⟩ := h
      grind
  | insert task draft =>
    cases hp : s.pending task with
    | none =>
      simp only [AuditLog.step, hp]
      exact h
    | some tail =>
      simp only [AuditLog.step, hp]
      have hother : ∀ other t, Function.update s.pending task none other = some t →
          s.pending other = some t := by grind
      by_cases hid : draft.id ∈ s.rows.map AuditEntry.id
      · rw [if_pos hid]
        exact ⟨h.accepted, fun other t ht => h.seen other t (hother other t ht)⟩
      · rw [if_neg hid]
        have htail : tail = tailOf (chainOf tenantId s.rows) := by
          simpa [fresh, hp, hid, validatePolicyAuditTail_eq h.accepted, eq_comm] using hf
        rw [htail]
        exact h.append draft hother

theorem Inv.fresh_of_valid (h : Inv hash tenantId s) (a : AuditAction n)
    (hv : (s.step hash tenantId a).Valid hash tenantId) : s.fresh hash tenantId a = true := by
  cases a with
  | query task => rfl
  | insert task draft =>
    cases hp : s.pending task with
    | none => simp [fresh, hp]
    | some tail =>
      by_cases hid : draft.id ∈ s.rows.map AuditEntry.id
      · simp [fresh, hp, hid]
      · obtain ⟨l, ⟨rest, hl⟩, rfl⟩ := h.seen task tail hp
        rw [Valid, verifyPolicyAuditChain_isValid] at hv
        simp only [AuditLog.step, hp, if_neg hid] at hv
        have haccepted := h.accepted
        rw [← hl] at haccepted
        have hbegin := (accepted_append.mp haccepted).1
        have hnodup : ((chainOf tenantId s.rows ++ [draft.entry hash tenantId (tailOf l)]).map
            AuditEntry.chainSequence).Nodup := by
          have htenant : (draft.entry hash tenantId (tailOf l)).tenantId = tenantId := rfl
          refine ((chainOf_concat_perm s.rows htenant).map _).nodup_iff.mp ?_
          exact List.pairwise_map.mpr (hv.pairwise.imp ne_of_lt)
        have hrest : rest = [] := by
          cases rest with
          | nil => rfl
          | cons e rest =>
            obtain ⟨hseq, -⟩ := (accepted_append.mp haccepted).2
            rw [← hl, List.map_append] at hnodup
            have hne := (List.nodup_append.mp hnodup).2.2 e.chainSequence (by simp)
              (draft.entry hash tenantId (tailOf l)).chainSequence (by simp)
            exact absurd (by simp [hseq, Draft.entry, hbegin.tailOf_number]) hne
        rw [hrest, List.append_nil] at hl
        simp [fresh, hp, validatePolicyAuditTail_eq h.accepted, hl]

/-- Along any interleaving the chain stays accepted exactly if every insert is taken while the tail
that its call has read is still the tail. -/
theorem valid_iff_fresh (rows : List AuditEntry) (actions : List (AuditAction n))
    (hrows : (verifyPolicyAuditChain hash tenantId rows).isValid = true) :
    Always (AuditLog.step hash tenantId) (Valid hash tenantId) (new n rows) actions ↔
      Guarded (AuditLog.step hash tenantId) (fun s a => s.fresh hash tenantId a = true)
        (new n rows) actions := by
  have hinv : Inv hash tenantId (new n rows) :=
    ⟨(verifyPolicyAuditChain_isValid hash tenantId rows).mp hrows, by simp [new]⟩
  refine always_iff_guarded_of_kept (I := Inv hash tenantId) (fun _ a h hf => h.step a hf) ?_
    (fun _ a h hv => h.fresh_of_valid a hv) hinv
  intro s h
  exact (verifyPolicyAuditChain_isValid hash tenantId s.rows).mpr h.accepted

def sampleDraft (id : String) : Draft :=
  { id := id, timestamp := "0", policyPackId := "p", hook := "h", decision := "allow" }

/-- Two calls one after the other. -/
theorem serial_valid : Always (AuditLog.step digitHash "t") (Valid digitHash "t") (new 2 [])
      [.query p₀, .insert p₀ (sampleDraft "a"), .query p₁, .insert p₁ (sampleDraft "b")] := by
  refine (valid_iff_fresh [] _ ?_).mpr ?_
  · decide
  · decide

/-- Two calls that both read the empty table: both insert entry 1. -/
theorem overlapping_invalid : ((run (AuditLog.step digitHash "t") (new 2 []) [.query p₀, .query p₁,
        .insert p₀ (sampleDraft "a"), .insert p₁ (sampleDraft "b")]).rows.map
          fun e => (e.id, e.chainSequence, e.previousHash)) = [("a", 1, none), ("b", 1, none)] ∧
      ¬ (run (AuditLog.step digitHash "t") (new 2 []) [.query p₀, .query p₁,
        .insert p₀ (sampleDraft "a"), .insert p₁ (sampleDraft "b")]).Valid digitHash "t" := by
  refine ⟨by decide, ?_⟩
  unfold Valid
  decide

end Interleaving

end AuditLog

end AdapterOS.Audit
