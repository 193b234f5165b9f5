import AdapterOS.Evidence.Verifier
import AdapterOS.Library.Ranking
import AdapterOS.Library.Run

/-! The table of evidence envelopes: a chain for each tenant and scope, to which an envelope is
added only if it is linked to the last one. -/
namespace AdapterOS.Evidence

open Library

structure EvidenceEnvelopeRow where
  id : String
  tenantId : String
  scope : String
  previousRoot : Option String
  root : String
  payloadJson : EvidenceEnvelope
  chainSequence : Int

/-- The rows in the order of their insertion, and the known tenants. -/
structure EvidenceTable where
  tenants : String → Bool
  rows : List EvidenceEnvelopeRow

def evidenceChainDivergence (message : String) : AosError :=
  .validation ("EVIDENCE_CHAIN_DIVERGED: " ++ message)

/-- `B3Hash::from_hex`. -/
def readRoot (text : String) : Except AosError B3Hash :=
  match decodeHex text with
  | none => .error (.invalidHash "Invalid hex")
  | some bytes =>
    if bytes.length ≠ 32 then
      .error (.invalidHash ("Expected 32 bytes, got " ++ toString bytes.length))
    else .ok (B3Hash.ofBytes bytes)

@[simp] theorem readRoot_toHex (h : B3Hash) : readRoot (B3Hash.toHex h) = .ok h := by
  simp [readRoot, decodeHex_toHex]

section Table

variable (tenantId : String) (scope : EvidenceScope)

def chainRows (rows : List EvidenceEnvelopeRow) : List EvidenceEnvelopeRow :=
  rows.filter fun r => r.tenantId = tenantId ∧ r.scope = scope.asStr

/-- The root and the number of the latest row. -/
def chainTail (rows : List EvidenceEnvelopeRow) : Except AosError (Option (B3Hash × Int)) :=
  match (sortBy (fun r => -r.chainSequence) (chainRows tenantId scope rows)).head? with
  | none => .ok none
  | some r =>
    match readRoot r.root with
    | .error err => .error err
    | .ok root => .ok (some (root, r.chainSequence))

def readRow (r : EvidenceEnvelopeRow) : Except AosError EvidenceEnvelope := do
  let root ← readRoot r.root
  let previousRoot ← r.previousRoot.mapM readRoot
  return { r.payloadJson with root, previousRoot }

def readRows : List EvidenceEnvelopeRow → Except AosError (List EvidenceEnvelope)
  | [] => .ok []
  | r :: rows => do
    let e ← readRow r
    let rest ← readRows rows
    return e :: rest

def EvidenceTable.queryEvidenceEnvelopes (t : EvidenceTable) :
    Except AosError (List EvidenceEnvelope) :=
  readRows (sortBy EvidenceEnvelopeRow.chainSequence (chainRows tenantId scope t.rows))

def EvidenceTable.verifyEvidenceChain (hash : List UInt8 → B3Hash)
    (verifySignature : EvidenceEnvelope → Except AosError Bool) (t : EvidenceTable) :
    Except AosError ChainVerificationResult :=
  match t.queryEvidenceEnvelopes tenantId scope with
  | .error err => .error err
  | .ok [] => .ok {}
  | .ok envelopes => verifyChain hash verifySignature envelopes

end Table

section Storing

/-- An envelope that begins its chain has no link. -/
def firstEntryError (expectedSequence : Int) (previousRoot : Option B3Hash) : Option String :=
  match previousRoot with
  | some prev =>
    if expectedSequence = 1 then
      some ("CHAIN_SEQUENCE_FIRST_ENTRY_INVALID: unexpected previous_root. First envelope in " ++
        "chain must have previous_root = None, but got previous_root = " ++ B3Hash.toShortHex prev ++
        ". First entries cannot reference a prior envelope.")
    else none
  | none => none

/-- The link must be the root of the tail. -/
def linkageError (previousRoot : Option B3Hash) (tail : Option (B3Hash × Int)) : Option String :=
  match previousRoot, tail with
  | some prev, some (expectedRoot, seq) =>
    if prev ≠ expectedRoot then
      some ("PREVIOUS_ROOT_MISMATCH: previous_root mismatch. Expected previous_root = " ++
        B3Hash.toShortHex expectedRoot ++ " (sequence " ++ toString seq ++
        "), but envelope has previous_root = " ++ B3Hash.toShortHex prev ++
        ". Chain linkage is broken.")
    else none
  | none, some (expectedRoot, seq) =>
    some ("PREVIOUS_ROOT_MISSING: Chain has " ++ toString seq ++ " entries (last sequence = " ++
      toString seq ++ "), expected previous_root = " ++ B3Hash.toShortHex expectedRoot ++
      ", but envelope has previous_root = None. Non-first entries must reference the prior " ++
      "envelope's root.")
  | some prev, none =>
    some ("PREVIOUS_ROOT_UNEXPECTED: unexpected previous_root. Envelope claims previous_root = " ++
      B3Hash.toShortHex prev ++ ", but chain is empty. First envelope must have previous_root " ++
      "= None.")
  | none, none => none

def rowOf (id : String) (e : EvidenceEnvelope) (chainSequence : Int) : EvidenceEnvelopeRow :=
  { id, tenantId := e.tenantId, scope := e.scope.asStr
    previousRoot := e.previousRoot.map B3Hash.toHex, root := B3Hash.toHex e.root, payloadJson := e
    chainSequence }

/-- The keys of the table: the id, the tenant, and one row for each number of a chain. -/
def EvidenceTable.insert (t : EvidenceTable) (r : EvidenceEnvelopeRow) :
    Except AosError EvidenceTable :=
  if r.id ∈ t.rows.map EvidenceEnvelopeRow.id then
    .error (.database ("Failed to insert evidence envelope: UNIQUE constraint failed: " ++
      "evidence_envelopes.id"))
  else if ¬ t.tenants r.tenantId then
    .error (.database "Failed to insert evidence envelope: FOREIGN KEY constraint failed")
  else if (r.tenantId, r.scope, r.chainSequence) ∈
      t.rows.map fun r => (r.tenantId, r.scope, r.chainSequence) then
    .error (.database ("Failed to insert evidence envelope: UNIQUE constraint failed: " ++
      "evidence_envelopes.tenant_id, evidence_envelopes.scope, " ++
      "evidence_envelopes.chain_sequence"))
  else .ok { t with rows := t.rows ++ [r] }

def EvidenceTable.storeEvidenceEnvelope (t : EvidenceTable) (id : String) (e : EvidenceEnvelope) :
    EvidenceTable × Except AosError String :=
  match e.validate with
  | .error err => (t, .error err)
  | .ok () =>
    match chainTail e.tenantId e.scope t.rows with
    | .error err => (t, .error err)
    | .ok tail =>
      let expectedSequence := (tail.map Prod.snd).getD 0 + 1
      match firstEntryError expectedSequence e.previousRoot with
      | some message => (t, .error (evidenceChainDivergence message))
      | none =>
        match linkageError e.previousRoot tail with
        | some message => (t, .error (evidenceChainDivergence message))
        | none =>
          match t.insert (rowOf id e expectedSequence) with
          | .error err => (t, .error err)
          | .ok t' => (t', .ok id)

end Storing

/-- What an envelope is made of. -/
inductive Payload where
  | telemetry (r : BundleMetadataRef)
  | policy (r : PolicyAuditRef)
  | inference (r : InferenceReceiptRef)

/-- A call with a new unsigned envelope that claims some link. -/
structure StoreCall where
  id : String
  tenantId : String
  previousRoot : Option B3Hash
  createdAt : String
  payload : Payload

def StoreCall.envelope (hash : List UInt8 → B3Hash) (c : StoreCall) : EvidenceEnvelope :=
  match c.payload with
  | .telemetry r => .newTelemetry hash c.tenantId c.previousRoot c.createdAt r
  | .policy r => .newPolicy c.tenantId c.previousRoot c.createdAt r
  | .inference r => .newInference c.tenantId c.previousRoot c.createdAt r

namespace EvidenceTable

variable (hash : List UInt8 → B3Hash)

def new (tenants : String → Bool) : EvidenceTable := ⟨tenants, []⟩

def step (t : EvidenceTable) (c : StoreCall) : EvidenceTable :=
  (t.storeEvidenceEnvelope c.id (c.envelope hash)).1

/-- The envelopes of the calls that succeed, in their order. -/
def accepted : EvidenceTable → List StoreCall → List EvidenceEnvelope
  | _, [] => []
  | t, c :: calls =>
    match (t.storeEvidenceEnvelope c.id (c.envelope hash)).2 with
    | .ok _ => c.envelope hash :: accepted (t.step hash c) calls
    | .error _ => accepted (t.step hash c) calls

end EvidenceTable

section Chains

variable {hash : List UInt8 → B3Hash} {verifySignature : EvidenceEnvelope → Except AosError Bool}
  {tenantId : String} {scope : EvidenceScope} {rows : List EvidenceEnvelopeRow} {t : EvidenceTable}
  {e : EvidenceEnvelope} {prev : Option B3Hash} {l : List EvidenceEnvelope}

theorem StoreCall.root_envelope (hash : List UInt8 → B3Hash) (c : StoreCall) :
    computeEnvelopeRoot hash (c.envelope hash) = .ok (c.envelope hash).root := by
  unfold StoreCall.envelope
  cases c.payload <;> rfl

theorem StoreCall.unsigned_envelope (hash : List UInt8 → B3Hash) (c : StoreCall) :
    (c.envelope hash).isSigned = false := by
  unfold StoreCall.envelope
  cases c.payload <;> rfl

theorem readRow_rowOf (id : String) (e : EvidenceEnvelope) (seq : Int) :
    readRow (rowOf id e seq) = .ok e := by
  obtain ⟨schemaVersion, tenantId, scope, previousRoot, root⟩ := e
  cases previousRoot with
  | none => simp [readRow, rowOf, bind, Except.bind, pure, Except.pure]
  | some prev => simp [readRow, rowOf, bind, Except.bind, pure, Except.pure]

theorem linkageError_eq_none {tail : Option (B3Hash × Int)} :
    linkageError prev tail = none ↔ prev = tail.map Prod.fst := by
  cases prev with
  | none => cases tail <;> simp [linkageError]
  | some root =>
    cases tail with
    | none => simp [linkageError]
    | some last => simp [linkageError]

theorem EvidenceScope.asStr_inj {a b : EvidenceScope} : a.asStr = b.asStr ↔ a = b := by
  cases a <;> cases b <;> decide

def EvidenceEnvelopeRow.Faithful (r : EvidenceEnvelopeRow) : Prop :=
  r = rowOf r.id r.payloadJson r.chainSequence

def Sound (hash : List UInt8 → B3Hash) (e : EvidenceEnvelope) : Prop :=
  e.validate = .ok () ∧ computeEnvelopeRoot hash e = .ok e.root ∧ e.isSigned = false

theorem chained_of_linked (hsound : ∀ e ∈ l, Sound hash e)
    (hlinked : Linked EvidenceEnvelope.previousRoot EvidenceEnvelope.root prev l) :
    Chained hash verifySignature prev l := by
  induction l generalizing prev with
  | nil => trivial
  | cons e l ih =>
    obtain ⟨hlink, hrest⟩ := hlinked
    obtain ⟨hvalidate, hroot, hunsigned⟩ := hsound e List.mem_cons_self
    refine ⟨⟨hvalidate, hroot, ?_, ?_⟩, ih ?_ hrest⟩ <;> grind

theorem readRows_of_faithful (h : ∀ r ∈ rows, r.Faithful) :
    readRows rows = .ok (rows.map EvidenceEnvelopeRow.payloadJson) := by
  induction rows with
  | nil => rfl
  | cons r rows ih =>
    have hread : readRow r = .ok r.payloadJson := by
      rw [h r List.mem_cons_self]
      exact readRow_rowOf _ _ _
    have hrest := ih fun r' hr' => h r' (List.mem_cons_of_mem _ hr')
    simp [readRows, hread, hrest, bind, Except.bind, pure, Except.pure]

def chainOf (tenantId : String) (scope : EvidenceScope) (l : List EvidenceEnvelope) :
    List EvidenceEnvelope :=
  l.filter fun e => e.tenantId = tenantId ∧ e.scope = scope

theorem map_payload_chainRows (h : ∀ r ∈ rows, r.Faithful) :
    (chainRows tenantId scope rows).map EvidenceEnvelopeRow.payloadJson =
      chainOf tenantId scope (rows.map EvidenceEnvelopeRow.payloadJson) := by
  unfold chainRows chainOf
  rw [List.filter_map]
  refine congrArg _ (List.filter_congr ?_)
  intro r hr
  rw [h r hr]
  simp [rowOf, EvidenceScope.asStr_inj]

theorem chainRows_concat {r : EvidenceEnvelopeRow} (h : r.Faithful) :
    chainRows tenantId scope (rows ++ [r]) = chainRows tenantId scope rows ++
      if r.payloadJson.tenantId = tenantId ∧ r.payloadJson.scope = scope then [r] else [] := by
  have hrow : (r.tenantId = tenantId ∧ r.scope = scope.asStr) ↔
      (r.payloadJson.tenantId = tenantId ∧ r.payloadJson.scope = scope) := by
    rw [h]
    simp [rowOf, EvidenceScope.asStr_inj]
  unfold chainRows
  rw [List.filter_append]
  simp only [List.filter_singleton, Bool.cond_decide, hrow]

theorem chainOf_concat (l : List EvidenceEnvelope) (e : EvidenceEnvelope) :
    chainOf tenantId scope (l ++ [e]) = chainOf tenantId scope l ++
      if e.tenantId = tenantId ∧ e.scope = scope then [e] else [] := by
  unfold chainOf
  rw [List.filter_append]
  simp only [List.filter_singleton, Bool.cond_decide]

def Numbered (rows : List EvidenceEnvelopeRow) : Prop :=
  rows.map EvidenceEnvelopeRow.chainSequence =
    (List.range rows.length).map fun i : Nat => (i : Int) + 1

theorem Numbered.pairwise (h : Numbered rows) :
    rows.Pairwise fun a b => a.chainSequence < b.chainSequence := by
  have hnumbers : (rows.map EvidenceEnvelopeRow.chainSequence).Pairwise (· < ·) := by
    rw [h, List.pairwise_map]
    refine List.Pairwise.imp ?_ List.pairwise_lt_range
    intro a b hab
    omega
  exact List.pairwise_map.mp hnumbers

theorem Numbered.sorted (h : Numbered rows) :
    sortBy EvidenceEnvelopeRow.chainSequence rows = rows :=
  sortBy_eq_self (h.pairwise.imp le_of_lt)

theorem Numbered.sorted_desc (h : Numbered rows) :
    sortBy (fun r => -r.chainSequence) rows = rows.reverse := by
  refine sortBy_eq_of_perm ?_ (List.reverse_perm rows).symm
  rw [List.pairwise_reverse]
  refine h.pairwise.imp ?_
  intro a b hab
  exact neg_lt_neg hab

theorem Numbered.last (h : Numbered rows) :
    (rows.getLast?.map EvidenceEnvelopeRow.chainSequence).getD 0 = rows.length := by
  rw [← List.getLast?_map, h, List.getLast?_map, List.getLast?_range]
  cases rows with
  | nil => rfl
  | cons r rows => simp

theorem Numbered.concat {r : EvidenceEnvelopeRow} (h : Numbered rows)
    (hr : r.chainSequence = rows.length + 1) : Numbered (rows ++ [r]) := by
  unfold Numbered at *
  rw [List.map_append, h, List.length_append, List.length_singleton, List.range_succ,
    List.map_append]
  simp [hr]

/-- The invariant of the table: sound envelopes as they were stored, and chains that are numbered and
linked. -/
structure EvidenceTable.Intact (hash : List UInt8 → B3Hash) (t : EvidenceTable) : Prop where
  faithful : ∀ r ∈ t.rows, r.Faithful
  sound : ∀ r ∈ t.rows, Sound hash r.payloadJson
  numbered : ∀ tenantId scope, Numbered (chainRows tenantId scope t.rows)
  linked : ∀ tenantId scope, Linked EvidenceEnvelope.previousRoot EvidenceEnvelope.root none
    (chainOf tenantId scope (t.rows.map EvidenceEnvelopeRow.payloadJson))

namespace EvidenceTable

theorem Intact.chainTail (h : t.Intact hash) (tenantId : String) (scope : EvidenceScope) :
    chainTail tenantId scope t.rows = .ok ((chainRows tenantId scope t.rows).getLast?.map
        fun r => (r.payloadJson.root, r.chainSequence)) := by
  unfold Evidence.chainTail
  rw [(h.numbered tenantId scope).sorted_desc, List.head?_reverse]
  cases hlast : (chainRows tenantId scope t.rows).getLast? with
  | none => rfl
  | some r =>
    have hmem : r ∈ t.rows := (List.mem_filter.mp (List.mem_of_getLast? hlast)).1
    have hroot : r.root = B3Hash.toHex r.payloadJson.root :=
      congrArg EvidenceEnvelopeRow.root (h.faithful r hmem)
    simp [hroot]

/-- A call either changes nothing and fails, or adds the envelope behind its chain, to whose last
root it is linked. -/
theorem Intact.store_cases (h : t.Intact hash) (id : String) (e : EvidenceEnvelope) :
    (∃ err, t.storeEvidenceEnvelope id e = (t, .error err)) ∨
    (e.validate = .ok () ∧ e.previousRoot = tip EvidenceEnvelope.root none
        (chainOf e.tenantId e.scope (t.rows.map EvidenceEnvelopeRow.payloadJson)) ∧
      t.storeEvidenceEnvelope id e = ({ t with rows := t.rows ++
            [rowOf id e ((chainRows e.tenantId e.scope t.rows).length + 1)] }, .ok id)) := by
  unfold storeEvidenceEnvelope
  cases hvalidate : e.validate with
  | error err => exact .inl ⟨err, rfl⟩
  | ok _ =>
    rw [h.chainTail]
    set last := (chainRows e.tenantId e.scope t.rows).getLast? with hlast
    have hseq : ((last.map fun r => (r.payloadJson.root, r.chainSequence)).map Prod.snd).getD 0 =
        (chainRows e.tenantId e.scope t.rows).length := by
      rw [← (h.numbered e.tenantId e.scope).last, Option.map_map]
      rfl
    dsimp only
    rw [hseq]
    split
    · exact .inl ⟨_, rfl⟩
    · split
      · exact .inl ⟨_, rfl⟩
      · rename_i hlink
        rw [linkageError_eq_none, Option.map_map] at hlink
        split
        · exact .inl ⟨_, rfl⟩
        · rename_i t' hinsert
          refine .inr ⟨rfl, ?_, ?_⟩
          · rw [hlink, ← map_payload_chainRows h.faithful, tip, List.getLast?_map, Option.map_map,
              Option.or_none]
            rfl
          · unfold insert at hinsert
            split_ifs at hinsert
            rw [← Except.ok.inj hinsert]

theorem Intact.concat (h : t.Intact hash) {r : EvidenceEnvelopeRow} (hfaithful : r.Faithful)
    (hsound : Sound hash r.payloadJson)
    (hseq : r.chainSequence =
      (chainRows r.payloadJson.tenantId r.payloadJson.scope t.rows).length + 1)
    (hlink : r.payloadJson.previousRoot = tip EvidenceEnvelope.root none
      (chainOf r.payloadJson.tenantId r.payloadJson.scope
        (t.rows.map EvidenceEnvelopeRow.payloadJson))) :
    ({ t with rows := t.rows ++ [r] } : EvidenceTable).Intact hash where
  faithful := by
    intro r' hr'
    rcases List.mem_append.mp hr' with hmem | hmem
    · exact h.faithful r' hmem
    · rw [List.mem_singleton.mp hmem]
      exact hfaithful
  sound := by
    intro r' hr'
    rcases List.mem_append.mp hr' with hmem | hmem
    · exact h.sound r' hmem
    · rw [List.mem_singleton.mp hmem]
      exact hsound
  numbered := by
    intro tenantId scope
    rw [chainRows_concat hfaithful]
    split_ifs with hown
    · obtain ⟨rfl, rfl⟩ := hown
      exact (h.numbered _ _).concat hseq
    · rw [List.append_nil]
      exact h.numbered _ _
  linked := by
    intro tenantId scope
    rw [List.map_append, List.map_singleton, chainOf_concat]
    split_ifs with hown
    · obtain ⟨rfl, rfl⟩ := hown
      exact (h.linked _ _).concat hlink
    · rw [List.append_nil]
      exact h.linked _ _

theorem Intact.step (h : t.Intact hash) (c : StoreCall) : (t.step hash c).Intact hash := by
  unfold EvidenceTable.step
  rcases h.store_cases c.id (c.envelope hash) with ⟨err, hfail⟩ | ⟨hvalidate, hlink, hstored⟩
  · rw [hfail]
    exact h
  · rw [hstored]
    have hsound : Sound hash (c.envelope hash) :=
      ⟨hvalidate, c.root_envelope hash, c.unsigned_envelope hash⟩
    exact h.concat rfl hsound rfl hlink

theorem intact_new (hash : List UInt8 → B3Hash) (tenants : String → Bool) :
    (new tenants).Intact hash where
  faithful _ hr := absurd hr List.not_mem_nil
  sound _ hr := absurd hr List.not_mem_nil
  numbered _ _ := rfl
  linked _ _ := trivial

theorem payloads_run (h : t.Intact hash) (calls : List StoreCall) :
    (run (step hash) t calls).rows.map EvidenceEnvelopeRow.payloadJson =
      t.rows.map EvidenceEnvelopeRow.payloadJson ++ t.accepted hash calls := by
  induction calls generalizing t with
  | nil => simp [accepted]
  | cons c calls ih =>
    rw [run_cons, ih (h.step c), accepted]
    rcases h.store_cases c.id (c.envelope hash) with ⟨err, hfail⟩ | ⟨_, _, hstored⟩
    · simp [EvidenceTable.step, hfail]
    · simp [EvidenceTable.step, hstored, rowOf]

theorem Intact.query (h : t.Intact hash) (tenantId : String) (scope : EvidenceScope) :
    t.queryEvidenceEnvelopes tenantId scope =
      .ok (chainOf tenantId scope (t.rows.map EvidenceEnvelopeRow.payloadJson)) := by
  have hfaithful : ∀ r ∈ chainRows tenantId scope t.rows, r.Faithful :=
    fun r hr => h.faithful r (List.mem_filter.mp hr).1
  unfold queryEvidenceEnvelopes
  rw [(h.numbered tenantId scope).sorted, readRows_of_faithful hfaithful,
    map_payload_chainRows h.faithful]

theorem Intact.numbers (h : t.Intact hash) (tenantId : String) (scope : EvidenceScope) :
    (sortBy EvidenceEnvelopeRow.chainSequence (chainRows tenantId scope t.rows)).map
        EvidenceEnvelopeRow.chainSequence =
      (List.range (chainOf tenantId scope
        (t.rows.map EvidenceEnvelopeRow.payloadJson)).length).map fun i : Nat => (i : Int) + 1 := by
  rw [(h.numbered tenantId scope).sorted, ← map_payload_chainRows h.faithful, List.length_map]
  exact h.numbered tenantId scope

theorem Intact.verify (h : t.Intact hash)
    (verifySignature : EvidenceEnvelope → Except AosError Bool) (tenantId : String)
    (scope : EvidenceScope) :
    t.verifyEvidenceChain tenantId scope hash verifySignature =
      .ok ⟨true, (chainOf tenantId scope (t.rows.map EvidenceEnvelopeRow.payloadJson)).length, none,
        false, none⟩ := by
  have hsound : ∀ e ∈ chainOf tenantId scope (t.rows.map EvidenceEnvelopeRow.payloadJson),
      Sound hash e := by
    intro e he
    obtain ⟨r, hr, rfl⟩ := List.mem_map.mp (List.mem_filter.mp he).1
    exact h.sound r hr
  have hchained : Chained hash verifySignature none
      (chainOf tenantId scope (t.rows.map EvidenceEnvelopeRow.payloadJson)) :=
    chained_of_linked hsound (h.linked tenantId scope)
  have hverified := verifyChain_of_chained hchained
  unfold verifyEvidenceChain
  rw [h.query]
  grind

/-- After any calls every chain is read as the accepted envelopes of its tenant and scope in their
order, numbered from 1, and is found valid. -/
theorem chains_verify (hash : List UInt8 → B3Hash)
    (verifySignature : EvidenceEnvelope → Except AosError Bool) (tenants : String → Bool)
    (calls : List StoreCall) (tenantId : String) (scope : EvidenceScope) :
    let t := run (step hash) (new tenants) calls
    let chain := chainOf tenantId scope ((new tenants).accepted hash calls)
    t.queryEvidenceEnvelopes tenantId scope = .ok chain ∧
      (sortBy EvidenceEnvelopeRow.chainSequence (chainRows tenantId scope t.rows)).map
          EvidenceEnvelopeRow.chainSequence =
        (List.range chain.length).map (fun i : Nat => (i : Int) + 1) ∧
      t.verifyEvidenceChain tenantId scope hash verifySignature =
        .ok ⟨true, chain.length, none, false, none⟩ := by
  intro t chain
  have hnew := intact_new hash tenants
  have hintact : t.Intact hash := run_invariant (fun _ c h => h.step c) hnew calls
  have hpayloads : t.rows.map EvidenceEnvelopeRow.payloadJson = (new tenants).accepted hash calls :=
    payloads_run hnew calls
  have hchain : chain = chainOf tenantId scope (t.rows.map EvidenceEnvelopeRow.payloadJson) := by
    rw [hpayloads]
  rw [hchain]
  exact ⟨hintact.query tenantId scope, hintact.numbers tenantId scope,
    hintact.verify verifySignature tenantId scope⟩

end EvidenceTable

end Chains

end AdapterOS.Evidence
