import AdapterOS.Library.Run
import AdapterOS.Receipt.TraceSink

/-! Which failed flushes lose tokens, and what the stored rows say about the receipt after whole
histories of recorded tokens. -/
namespace AdapterOS.Receipt

open Library

inductive TraceCall where
  | record (token : TraceTokenInput) (fault : Option TxFault)
  | flush (fault : Option TxFault)
  | finalize (f : TraceFinalization) (fault : Option TxFault) (receiptFault : Option String)

def TraceCall.token : TraceCall → Option TraceTokenInput
  | .record token _ => some token
  | .flush _ | .finalize _ _ _ => none

def TraceCall.fault : TraceCall → Option TxFault
  | .record _ fault | .flush fault | .finalize _ fault _ => fault

variable {lib : TraceLib} {hash : List UInt8 → B3Hash} {contextDigest head : B3Hash}
  {sink sink' : SqlTraceSink} {db db' : TraceDb} {token : TraceTokenInput}
  {tokens : List TraceTokenInput} {rows rows' stored : List TokenColumns}
  {fault : Option TxFault} {result : Except AosError Unit}

section Flush

def FailsEarly (fault : Option TxFault) : Prop := ∀ f, fault = some f → f.stage = .beginTx

theorem insertTokens_eq_append (h : insertTokens stored rows = some rows') :
    rows' = stored ++ rows := by
  induction rows generalizing stored with
  | nil =>
    cases h
    exact (List.append_nil _).symm
  | cons row rows ih =>
    simp only [insertTokens] at h
    split at h
    · cases h
    · rw [ih h, List.append_assoc, List.singleton_append]

theorem insertTokens_of_fresh
    (h : (stored ++ rows).Pairwise fun a b => a.tokenIndex.toNat < b.tokenIndex.toNat) :
    insertTokens stored rows = some (stored ++ rows) := by
  induction rows generalizing stored with
  | nil => simp [insertTokens]
  | cons row rows ih =>
    have hfresh : (stored.any fun t => t.tokenIndex = row.tokenIndex) = false := by
      rw [List.any_eq_false]
      intro t ht he
      have hlt := (List.pairwise_append.mp h).2.2 t ht row List.mem_cons_self
      rw [of_decide_eq_true he] at hlt
      exact Nat.lt_irrefl _ hlt
    have happend : stored ++ row :: rows = stored ++ [row] ++ rows := by simp
    rw [insertTokens, hfresh, if_neg Bool.false_ne_true, happend]
    exact ih (by rwa [happend] at h)

theorem insertBuffer_ok (h : insertBuffer fault sink db = (.ok (), sink', db')) :
    sink' = { sink with buffer := [] } ∧
      db' = { db with tokens := db.tokens ++ sink.buffer.map TraceTokenRow.columns } := by
  unfold insertBuffer at h
  split at h
  · next hempty =>
    cases h
    cases sink
    cases List.isEmpty_iff.mp hempty
    simp
  · split at h
    · cases h
    · cases h
    · cases h
    · cases h
    · next hrows =>
      cases h
      rw [insertTokens_eq_append hrows]
      exact ⟨rfl, rfl⟩

theorem insertBuffer_of_failsEarly (hfault : FailsEarly fault)
    (hkeys : (db.tokens ++ sink.buffer.map TraceTokenRow.columns).Pairwise
      fun a b => a.tokenIndex.toNat < b.tokenIndex.toNat) :
    insertBuffer fault sink db = (.ok (), { sink with buffer := [] },
        { db with tokens := db.tokens ++ sink.buffer.map TraceTokenRow.columns }) ∨
      ∃ e, insertBuffer fault sink db = (.error e, sink, db) := by
  by_cases hempty : sink.buffer.isEmpty = true
  · have hok : insertBuffer fault sink db = (.ok (), sink, db) := by simp [insertBuffer, hempty]
    obtain ⟨hsink, hdb⟩ := insertBuffer_ok hok
    rw [← hsink, ← hdb]
    exact .inl hok
  · have hrows := insertTokens_of_fresh hkeys
    cases fault with
    | none =>
      left
      simp [insertBuffer, hempty, hrows]
    | some f =>
      obtain ⟨stage, message⟩ := f
      cases hfault _ rfl
      right
      exact ⟨_, by simp [insertBuffer, hempty]; rfl⟩

end Flush

section History

structure TraceState where
  sink : SqlTraceSink
  db : TraceDb

namespace TraceState

def new (contextDigest : B3Hash) (flushEvery : Nat) : TraceState :=
  ⟨.new contextDigest flushEvery, { contextDigest }⟩

/-- A caller goes on after an error as well. -/
def step (lib : TraceLib) (s : TraceState) : TraceCall → TraceState
  | .record token fault =>
    let (_, sink, db) := recordToken lib.hash token fault s.sink s.db
    ⟨sink, db⟩
  | .flush fault =>
    let (_, sink, db) := insertBuffer fault s.sink s.db
    ⟨sink, db⟩
  | .finalize f fault receiptFault =>
    let (_, sink, db) := Receipt.finalize lib f fault receiptFault s.sink s.db
    ⟨sink, db⟩

end TraceState

def recorded (calls : List TraceCall) : List TraceTokenInput := calls.filterMap TraceCall.token

theorem recorded_cons (call : TraceCall) (calls : List TraceCall) :
    recorded (call :: calls) = call.token.toList ++ recorded calls := by
  cases call <;> rfl

def runHeadOf (hash : List UInt8 → B3Hash) (contextDigest : B3Hash) (head : B3Hash)
    (tokens : List TraceTokenInput) : B3Hash :=
  tokens.foldl (fun head t =>
    updateRunHead hash head t.tokenIndex (t.decisionHash hash contextDigest)) head

def columnsOf (hash : List UInt8 → B3Hash) (contextDigest : B3Hash) (token : TraceTokenInput) :
    TokenColumns :=
  (token.row hash contextDigest).columns

/-- Every chained token is stored or waits in the buffer, in order. -/
structure Chained (hash : List UInt8 → B3Hash) (contextDigest : B3Hash)
    (tokens : List TraceTokenInput) (sink : SqlTraceSink) (db : TraceDb) : Prop where
  sinkContext : sink.contextDigest = contextDigest
  dbContext : db.contextDigest = contextDigest
  rows : db.tokens ++ sink.buffer.map TraceTokenRow.columns =
    tokens.map (columnsOf hash contextDigest)
  head : sink.runHeadHash = runHeadOf hash contextDigest 0 tokens

def Increasing (tokens : List TraceTokenInput) : Prop :=
  tokens.Pairwise fun a b => a.tokenIndex.toNat < b.tokenIndex.toNat

instance Increasing.decidable (tokens : List TraceTokenInput) : Decidable (Increasing tokens) :=
  inferInstanceAs (Decidable (tokens.Pairwise _))

theorem increasing_columns (hash : List UInt8 → B3Hash) (contextDigest : B3Hash)
    (h : Increasing tokens) :
    (tokens.map (columnsOf hash contextDigest)).Pairwise
      fun a b => a.tokenIndex.toNat < b.tokenIndex.toNat :=
  List.pairwise_map.mpr h

theorem chained_new (flushEvery : Nat) :
    Chained hash contextDigest [] (.new contextDigest flushEvery) { contextDigest } :=
  ⟨rfl, rfl, rfl, rfl⟩

theorem chained_insertBuffer (h : Chained hash contextDigest tokens sink db)
    (hincreasing : Increasing tokens) (hfault : FailsEarly fault)
    (hflush : insertBuffer fault sink db = (result, sink', db')) :
    Chained hash contextDigest tokens sink' db' := by
  have hkeys := increasing_columns hash contextDigest hincreasing
  rw [← h.rows] at hkeys
  rcases insertBuffer_of_failsEarly hfault hkeys with hok | ⟨e, herror⟩
  · cases hflush.symm.trans hok
    exact ⟨h.sinkContext, h.dbContext, by simpa using h.rows, h.head⟩
  · cases hflush.symm.trans herror
    exact h

theorem chained_recordToken (h : Chained hash contextDigest tokens sink db)
    (hincreasing : Increasing (tokens ++ [token])) (hfault : FailsEarly fault)
    (hrecord : recordToken hash token fault sink db = (result, sink', db')) :
    Chained hash contextDigest (tokens ++ [token]) sink' db' := by
  -- The token is chained and buffered before anything is flushed.
  have hchained : Chained hash contextDigest (tokens ++ [token]) { sink with
        runHeadHash := updateRunHead hash sink.runHeadHash token.tokenIndex
          (token.row hash sink.contextDigest).decisionHash
        buffer := sink.buffer ++ [token.row hash sink.contextDigest] } db := by
    refine ⟨h.sinkContext, h.dbContext, ?_, ?_⟩
    · simp only [List.map_append, List.map_cons, List.map_nil, ← List.append_assoc, h.rows,
        h.sinkContext]
      rfl
    · simp only [h.head, h.sinkContext, runHeadOf, List.foldl_append, List.foldl_cons,
        List.foldl_nil]
      rfl
  simp only [recordToken] at hrecord
  split at hrecord
  · exact chained_insertBuffer hchained hincreasing hfault hrecord
  · cases hrecord
    exact hchained

theorem chained_storeReceipt {f : TraceFinalization} {receiptFault : Option String}
    (h : Chained hash contextDigest tokens sink db) :
    Chained hash contextDigest tokens sink (storeReceipt lib f receiptFault sink db).2 := by
  unfold storeReceipt
  split
  · exact h
  · split
    · exact h
    · exact h
    · exact ⟨h.sinkContext, h.dbContext, h.rows, h.head⟩

theorem chained_step {s : TraceState} {call : TraceCall}
    (h : Chained lib.hash contextDigest tokens s.sink s.db)
    (hincreasing : Increasing (tokens ++ call.token.toList)) (hfault : FailsEarly call.fault) :
    Chained lib.hash contextDigest (tokens ++ call.token.toList) (s.step lib call).sink
      (s.step lib call).db := by
  cases call with
  | record token fault => exact chained_recordToken h hincreasing hfault rfl
  | flush fault =>
    simp only [TraceCall.token, Option.toList_none, List.append_nil] at hincreasing ⊢
    exact chained_insertBuffer h hincreasing hfault rfl
  | finalize f fault receiptFault =>
    simp only [TraceCall.token, Option.toList_none, List.append_nil] at hincreasing ⊢
    simp only [TraceState.step, finalize]
    split
    · next hflush => exact chained_insertBuffer h hincreasing hfault hflush
    · next hflush =>
      exact chained_storeReceipt (chained_insertBuffer h hincreasing hfault hflush)

theorem chained_run {s : TraceState} {calls : List TraceCall}
    (h : Chained lib.hash contextDigest tokens s.sink s.db)
    (hincreasing : Increasing (tokens ++ recorded calls))
    (hfaults : ∀ call ∈ calls, FailsEarly call.fault) :
    Chained lib.hash contextDigest (tokens ++ recorded calls)
      (run (TraceState.step lib) s calls).sink (run (TraceState.step lib) s calls).db := by
  induction calls generalizing tokens s with
  | nil => simpa [recorded] using h
  | cons call calls ih =>
    rw [recorded_cons, ← List.append_assoc] at hincreasing ⊢
    have hfirst : Increasing (tokens ++ call.token.toList) :=
      (List.pairwise_append.mp hincreasing).1
    have hstep := chained_step h hfirst (hfaults call List.mem_cons_self)
    exact ih hstep hincreasing fun c hc => hfaults c (List.mem_cons_of_mem _ hc)

end History

section Stored

def TraceTokenInput.ShortMask (token : TraceTokenInput) : Prop :=
  ∀ mask, token.allowedMask = some mask → mask.length < 2 ^ 32

theorem decodeAllowedMask_encode {mask : List Bool} (h : mask.length < 2 ^ 32) :
    decodeAllowedMask (encodeAllowedMask mask) = .ok mask := by
  have hflags : mask.flatMap flagByte = mask.map fun b => if b then 1 else 0 := by
    induction mask with
    | nil => rfl
    | cons b mask ih =>
      simp only [List.flatMap_cons, List.map_cons]
      rw [ih (by simp at h; omega)]
      rfl
  have hcount : ofLeBytes ((encodeAllowedMask mask).take 4) = mask.length :=
    ofLeBytes_take (by omega) _
  have hlength : (encodeAllowedMask mask).length = 4 + mask.length := by
    simp [encodeAllowedMask, hflags]
  have hdrop : (encodeAllowedMask mask).drop 4 = mask.map fun b => if b then 1 else 0 := by
    rw [encodeAllowedMask, List.drop_left' (length_leBytes 4 _), hflags]
  simp only [decodeAllowedMask, hcount, hlength, hdrop]
  rw [if_neg (by omega), if_neg (by omega), List.take_of_length_le (by simp)]
  congr 1
  rw [List.map_map]
  conv_rhs => rw [← List.map_id mask]
  refine List.map_congr_left ?_
  intro b _
  cases b <;> rfl

theorem storedMask_encode (h : token.ShortMask) :
    storedMask (token.allowedMask.map encodeAllowedMask) = .ok token.allowedMask := by
  cases hm : token.allowedMask with
  | none => rfl
  | some mask =>
    have hdecode := decodeAllowedMask_encode (h mask hm)
    simp only [Option.map_some]
    cases hbytes : encodeAllowedMask mask with
    | nil => simp [encodeAllowedMask, leBytes] at hbytes
    | cons b bytes =>
      rw [hbytes] at hdecode
      simp [storedMask, hdecode, Except.map]

theorem storedOverrides_json (overrides : Option PolicyOverrideFlags) :
    storedOverrides lib (overrides.map overridesJson) = .ok overrides := by
  cases overrides with
  | none => rfl
  | some o => simp [storedOverrides, lib.decodeOverrides_json]

theorem recomputedDecision_columnsOf (lib : TraceLib) (contextDigest : B3Hash)
    (h : token.ShortMask) :
    recomputedDecision lib contextDigest (columnsOf lib.hash contextDigest token) =
      .ok (token.decisionHash lib.hash contextDigest) := by
  refine bind_eq_ok.mpr ⟨_, storedMask_encode h, ?_⟩
  exact bind_eq_ok.mpr ⟨_, storedOverrides_json _, rfl⟩

theorem recomputeTokens_columnsOf (h : ∀ t ∈ tokens, t.ShortMask) :
    recomputeTokens lib contextDigest ⟨head, none⟩ (tokens.map (columnsOf lib.hash contextDigest)) =
      .ok ⟨runHeadOf lib.hash contextDigest head tokens, none⟩ := by
  induction tokens generalizing head with
  | nil => rfl
  | cons token tokens ih =>
    have hhash := recomputedDecision_columnsOf lib contextDigest (h token List.mem_cons_self)
    refine bind_eq_ok.mpr ⟨_, hhash, ?_⟩
    have hsame : ¬ ((none : Option UInt32) = none ∧ token.decisionHash lib.hash contextDigest ≠
          (columnsOf lib.hash contextDigest token).decisionHash) := by
      rintro ⟨_, hne⟩
      exact hne rfl
    rw [if_neg hsame]
    exact ih fun t ht => h t (List.mem_cons_of_mem _ ht)

theorem countOfColumn_toInt64 {x : UInt64} (h : x.toNat < 2 ^ 63) :
    countOfColumn x.toInt64 = x := by
  have hnonneg : ¬ x.toInt64 < 0 := by
    rw [Int64.lt_iff_toInt_lt, Int64.toInt_zero, Int.not_lt]
    have hsmall : 2 * x.toBitVec.toNat < 2 ^ 64 := by
      have hx : x.toBitVec.toNat = x.toNat := rfl
      omega
    have htoInt : x.toInt64.toInt = x.toBitVec.toInt := rfl
    rw [htoInt, BitVec.toInt_eq_toNat_of_lt hsmall]
    omega
  rw [countOfColumn, if_neg hnonneg]
  rfl

/-- The wide counts of a receipt fit the signed words they are stored in. -/
structure FitsColumns (f : ReceiptFields) : Prop where
  quota : f.tenantKvQuotaBytes.toNat < 2 ^ 63
  used : f.tenantKvBytesUsed.toNat < 2 ^ 63
  prefixBytes : f.prefixKvBytes.toNat < 2 ^ 63

theorem stored_toRow {receipt : TraceReceipt} (h : FitsColumns receipt.toReceiptFields) :
    receipt.toRow.stored = receipt := by
  obtain ⟨⟨plain, quota, used, key, bytes, profile⟩, head, output, digest⟩ := receipt
  have hkey : (key.map B3Hash.toHex).bind B3Hash.fromHex = key := by
    cases key <;> simp
  simp only [ReceiptRow.stored, TraceReceipt.toRow, countOfColumn_toInt64 h.quota,
    countOfColumn_toInt64 h.used, countOfColumn_toInt64 h.prefixBytes, hkey]
  cases profile <;> rfl

end Stored

section Recompute

variable {f : TraceFinalization} {receiptFault : Option String} {receipt : TraceReceipt}

theorem receiptOf_eq_ok {fields : ReceiptFields} {outputDigest : B3Hash} :
    receiptOf hash fields contextDigest head outputDigest = .ok receipt ↔ receipt = { fields with
        runHeadHash := head, outputDigest
        receiptDigest := computeV8Digest hash (fields.digestInput contextDigest head outputDigest) } := by
  have hcurrent : receiptOf hash fields contextDigest head outputDigest = .ok { fields with
      runHeadHash := head, outputDigest
      receiptDigest :=
        computeV8Digest hash (fields.digestInput contextDigest head outputDigest) } := rfl
  rw [hcurrent, Except.ok.injEq, eq_comm]

theorem finalize_ok (h : finalize lib f fault receiptFault sink db = (.ok receipt, sink', db')) :
    receiptOf lib.hash f.toReceiptFields sink.contextDigest sink.runHeadHash
        (computeOutputDigest lib.hash f.outputTokens) = .ok receipt ∧
      checkFinalization lib f = .ok () ∧
      db' = { db with
        tokens := db.tokens ++ sink.buffer.map TraceTokenRow.columns
        receipt := some receipt.toRow } := by
  unfold finalize at h
  split at h
  · cases h
  · next flushed stored hflush =>
    obtain ⟨rfl, rfl⟩ := insertBuffer_ok hflush
    simp only [storeReceipt] at h
    split at h
    · cases h
    · next hcheck =>
      split at h
      · cases h
      · cases h
      · next hreceipt =>
        cases h
        exact ⟨hreceipt, hcheck, rfl⟩

theorem billing_of_check (h : checkFinalization lib f = .ok ()) :
    billingMismatch f.toReceiptFields = false := by
  unfold checkFinalization at h
  split at h
  · cases h
  · next hinput =>
    split at h
    · cases h
    · next houtput =>
      simp only [billingMismatch, Bool.or_eq_false_iff, decide_eq_false_iff_not, not_not]
      exact ⟨(not_not.mp hinput).symm, not_not.mp houtput⟩

/-- After any history whose tokens come in order, whose flushes fail early if at all, and whose
masks and counts fit their columns, a returned receipt is the one that its rows give. -/
theorem recomputeReceipt_of_finalize {flushEvery : Nat} {calls : List TraceCall}
    (hincreasing : Increasing (recorded calls))
    (hfaults : ∀ call ∈ calls, FailsEarly call.fault)
    (hmasks : ∀ t ∈ recorded calls, t.ShortMask) (hfits : FitsColumns f.toReceiptFields)
    (hfinalize : finalize lib f fault receiptFault
      (run (TraceState.step lib) (.new contextDigest flushEvery) calls).sink
      (run (TraceState.step lib) (.new contextDigest flushEvery) calls).db =
      (.ok receipt, sink', db')) :
    ∃ verification, recomputeReceipt lib db' = .ok verification ∧
      verification.recomputed.runHeadHash = receipt.runHeadHash ∧
      verification.recomputed.receiptDigest = receipt.receiptDigest ∧
      verification.agree = true := by
  have hchained : Chained lib.hash contextDigest ([] ++ recorded calls)
      (run (TraceState.step lib) (.new contextDigest flushEvery) calls).sink
      (run (TraceState.step lib) (.new contextDigest flushEvery) calls).db :=
    chained_run (chained_new flushEvery) hincreasing hfaults
  rw [List.nil_append] at hchained
  obtain ⟨hreceipt, hcheck, rfl⟩ := finalize_ok hfinalize
  rw [hchained.sinkContext, hchained.head] at hreceipt
  obtain ⟨hfields, houtput⟩ : receipt.toReceiptFields = f.toReceiptFields ∧
      receipt.outputDigest = computeOutputDigest lib.hash f.outputTokens := by
    cases receiptOf_eq_ok.mp hreceipt
    exact ⟨rfl, rfl⟩
  have hstored : receipt.toRow.stored = receipt := stored_toRow (hfields ▸ hfits)
  -- The rows are those of the recorded tokens, already in the order they are fetched in.
  have hsorted : sortBy (fun row => row.tokenIndex.toNat)
      ((recorded calls).map (columnsOf lib.hash contextDigest)) =
      (recorded calls).map (columnsOf lib.hash contextDigest) :=
    sortBy_eq_self ((increasing_columns lib.hash contextDigest hincreasing).imp Nat.le_of_lt)
  have hreplay : recomputeTokens lib contextDigest {}
      ((recorded calls).map (columnsOf lib.hash contextDigest)) =
      .ok ⟨runHeadOf lib.hash contextDigest 0 (recorded calls), none⟩ :=
    recomputeTokens_columnsOf hmasks
  simp only [recomputeReceipt, hchained.rows, hsorted, hchained.dbContext, Option.map_some,
    hstored, recomputedFields, Option.getD_some, hfields, houtput]
  refine exists_bind_ok hreplay ?_
  refine exists_bind_ok hreceipt ⟨_, rfl, ?_, rfl, ?_⟩
  · rfl
  · simp [billing_of_check hcheck]

theorem exists_receipt {outcome : Except AosError TraceReceipt × SqlTraceSink × TraceDb}
    (h : outcome.1.toOption.isSome) : ∃ receipt sink db, outcome = (.ok receipt, sink, db) := by
  obtain ⟨result, sink, db⟩ := outcome
  cases result with
  | error e => cases h
  | ok receipt => exact ⟨receipt, sink, db, rfl⟩

def maskedToken (tokenIndex : UInt32) : TraceTokenInput :=
  { tokenIndex, adapterIds := ["a"], gatesQ15 := [1], allowedMask := some [true, false]
    policyOverridesApplied := some { denyList := true } }

def twoTokenCalls (fault : TxFault) : List TraceCall :=
  [.record (maskedToken 0) (some fault), .record (maskedToken 1) none]

def twoTokenState (fault : TxFault) : TraceState :=
  run (TraceState.step digitTraceLib) (.new 5 1) (twoTokenCalls fault)

def smallFinalization : TraceFinalization :=
  { outputTokens := [7, 9], logicalOutputTokens := 2, billedOutputTokens := 2 }

def twoTokenReceipt (fault : TxFault) : Except AosError TraceReceipt × SqlTraceSink × TraceDb :=
  finalize digitTraceLib smallFinalization none none (twoTokenState fault).sink
    (twoTokenState fault).db

/-- A flush that could not begin is made up for by the next one. -/
theorem twoTokenReceipt_recomputed : ∃ receipt sink db verification,
    twoTokenReceipt ⟨.beginTx, "database is locked"⟩ = (.ok receipt, sink, db) ∧
      recomputeReceipt digitTraceLib db = .ok verification ∧ verification.agree = true := by
  obtain ⟨receipt, sink, db, hfinalize⟩ :=
    @exists_receipt (twoTokenReceipt ⟨.beginTx, "database is locked"⟩) (by decide)
  have hfaults : ∀ call ∈ twoTokenCalls ⟨.beginTx, "database is locked"⟩,
      FailsEarly call.fault := by
    simp [twoTokenCalls, TraceCall.fault, FailsEarly]
  have hmasks : ∀ t ∈ recorded (twoTokenCalls ⟨.beginTx, "database is locked"⟩), t.ShortMask := by
    simp [twoTokenCalls, recorded, TraceCall.token, maskedToken, TraceTokenInput.ShortMask]
  have hfits : FitsColumns smallFinalization.toReceiptFields :=
    ⟨by decide, by decide, by decide⟩
  obtain ⟨verification, h, _, _, hagree⟩ :=
    recomputeReceipt_of_finalize (by decide) hfaults hmasks hfits hfinalize
  exact ⟨receipt, sink, db, verification, hfinalize, h, hagree⟩

/-- A commit that fails drops the first token: the receipt chains it, its rows do not. -/
theorem twoTokenReceipt_loses_token :
    Increasing (recorded (twoTokenCalls ⟨.commit, "disk I/O error"⟩)) ∧
      (twoTokenReceipt ⟨.commit, "disk I/O error"⟩).1.toOption.map TraceReceipt.runHeadHash =
        some (runHeadOf digitHash 5 0 [maskedToken 0, maskedToken 1]) ∧
      (recomputeReceipt digitTraceLib
        (twoTokenReceipt ⟨.commit, "disk I/O error"⟩).2.2).toOption.map
          (·.recomputed.runHeadHash) = some (runHeadOf digitHash 5 0 [maskedToken 1]) ∧
      runHeadOf digitHash 5 0 [maskedToken 0, maskedToken 1] ≠
        runHeadOf digitHash 5 0 [maskedToken 1] ∧
      (recomputeReceipt digitTraceLib
        (twoTokenReceipt ⟨.commit, "disk I/O error"⟩).2.2).toOption.map
          (·.recomputed.receiptDigest) ≠
        (twoTokenReceipt ⟨.commit, "disk I/O error"⟩).1.toOption.map
          TraceReceipt.receiptDigest := by
  decide +kernel

end Recompute

end AdapterOS.Receipt
