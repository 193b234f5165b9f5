import AdapterOS.Receipt.TraceDurability
import AdapterOS.Receipt.VerifierSoundness

/-! The sink against the offline verifier: what the one chains and what the other recomputes from
the exported fields. -/
namespace AdapterOS.Receipt

open Library

section Export

/-- What the context digest of a trace is taken over. -/
structure TraceContext where
  tenantNamespace : String
  stackHash : B3Hash
  promptTokens : List UInt32
  tokenizerHashB3 : Option B3Hash := none
  tokenizerVersion : Option String := none
  tokenizerNormalization : Option String := none

def TraceContext.digest (hash : List UInt8 → B3Hash) (context : TraceContext) : B3Hash :=
  hash (contextDigestBytes context.tenantNamespace (B3Hash.asBytes context.stackHash)
    (context.tokenizerHashB3.map B3Hash.asBytes) context.tokenizerVersion
    context.tokenizerNormalization context.promptTokens)

def exportContext (context : TraceContext) : ReceiptContext where
  tenantNamespace := context.tenantNamespace
  stackHashHex := B3Hash.toHex context.stackHash
  promptTokens := context.promptTokens
  tokenizerHashB3Hex := context.tokenizerHashB3.map B3Hash.toHex
  tokenizerVersion := context.tokenizerVersion
  tokenizerNormalization := context.tokenizerNormalization

/-- A token in the format of a bundle, which has no place for its mask and overrides. -/
def exportToken (hash : List UInt8 → B3Hash) (contextDigest : B3Hash) (token : TraceTokenInput) :
    ReceiptToken where
  tokenIndex := token.tokenIndex
  adapterIds := token.adapterIds
  gatesQ15 := token.gatesQ15
  policyMaskDigestHex := token.policyMaskDigestB3.map B3Hash.toHex
  backendId := token.backendId
  kernelVersionId := token.kernelVersionId
  decisionHashHex := some (B3Hash.toHex (token.decisionHash hash contextDigest))

def exportReceipt (r : TraceReceipt) : ReceiptDigests where
  runHeadHashHex := B3Hash.toHex r.runHeadHash
  outputDigestHex := B3Hash.toHex r.outputDigest
  receiptDigestHex := B3Hash.toHex r.receiptDigest
  logicalPromptTokens := r.logicalPromptTokens
  prefixCachedTokenCount := r.prefixCachedTokenCount
  billedInputTokens := r.billedInputTokens
  logicalOutputTokens := r.logicalOutputTokens
  billedOutputTokens := r.billedOutputTokens
  schemaVersion := .ofNat receiptSchemaCurrent
  stopReasonCode := r.stopReasonCode
  stopReasonTokenIndex := r.stopReasonTokenIndex
  stopPolicyDigestB3Hex := r.stopPolicyDigestB3.map B3Hash.toHex
  tenantKvQuotaBytes := r.tenantKvQuotaBytes
  tenantKvBytesUsed := r.tenantKvBytesUsed
  kvEvictions := r.kvEvictions
  kvResidencyPolicyId := r.kvResidencyPolicyId
  kvQuotaEnforced := r.kvQuotaEnforced
  prefixKvKeyB3Hex := r.prefixKvKeyB3.map B3Hash.toHex
  prefixCacheHit := r.prefixCacheHit
  prefixKvBytes := r.prefixKvBytes
  modelCacheIdentityV2DigestB3Hex := r.modelCacheIdentityV2DigestB3.map B3Hash.toHex
  equipmentProfileDigestB3Hex := (r.equipmentProfile.map EquipmentProfile.digest).map B3Hash.toHex
  processorId := r.equipmentProfile.map EquipmentProfile.processorId
  mlxVersion := r.equipmentProfile.map EquipmentProfile.engineVersion
  aneVersion := r.equipmentProfile.bind EquipmentProfile.aneVersion
  tokenizerHashB3Hex := r.tokenizerHashB3.map B3Hash.toHex
  tokenizerVersion := r.tokenizerVersion
  tokenizerNormalization := r.tokenizerNormalization
  modelBuildHashB3Hex := r.modelBuildHashB3.map B3Hash.toHex
  adapterBuildHashB3Hex := r.adapterBuildHashB3.map B3Hash.toHex
  decodeAlgo := r.decodeAlgo
  temperatureQ15 := r.temperatureQ15
  topPQ15 := r.topPQ15
  topK := r.topK
  seedDigestB3Hex := r.seedDigestB3.map B3Hash.toHex
  samplingBackend := r.samplingBackend
  threadCount := r.threadCount
  reductionStrategy := r.reductionStrategy
  stopEosQ15 := r.stopEosQ15
  stopWindowDigestB3Hex := r.stopWindowDigestB3.map B3Hash.toHex
  cacheScope := r.cacheScope
  cachedPrefixDigestB3Hex := r.cachedPrefixDigestB3.map B3Hash.toHex
  cachedPrefixLen := r.cachedPrefixLen
  cacheKeyB3Hex := r.cacheKeyB3.map B3Hash.toHex
  retrievalMerkleRootB3Hex := r.retrievalMerkleRootB3.map B3Hash.toHex
  retrievalOrderDigestB3Hex := r.retrievalOrderDigestB3.map B3Hash.toHex
  toolCallInputsDigestB3Hex := r.toolCallInputsDigestB3.map B3Hash.toHex
  toolCallOutputsDigestB3Hex := r.toolCallOutputsDigestB3.map B3Hash.toHex
  disclosureLevel := r.disclosureLevel

def exportBundle (hash : List UInt8 → B3Hash) (context : TraceContext)
    (tokens : List TraceTokenInput) (outputTokens : List UInt32) (receipt : TraceReceipt) :
    ReceiptBundle where
  traceId := "trace"
  tenantId := context.tenantNamespace
  contextDigestHex := some (B3Hash.toHex (context.digest hash))
  context := exportContext context
  tokens := tokens.map (exportToken hash (context.digest hash))
  outputTokens := outputTokens
  receipt := exportReceipt receipt

end Export

variable {lib : TraceLib} {hash : List UInt8 → B3Hash} {contextDigest : B3Hash}
  {context : TraceContext} {token : TraceTokenInput} {tokens : List TraceTokenInput}
  {outputTokens : List UInt32} {receipt : TraceReceipt}

section Fields

@[simp] theorem boundDigest_toHex (digest : Option B3Hash) :
    boundDigest (digest.map B3Hash.toHex) = digest := by
  cases digest <;> simp [boundDigest]

theorem computeContextDigest_export :
    computeContextDigest hash (exportContext context) = .ok (context.digest hash) := by
  have htokenizer : (context.tokenizerHashB3.map B3Hash.toHex).map
      (fun text => (decodeHex text).getD []) = context.tokenizerHashB3.map B3Hash.asBytes := by
    cases context.tokenizerHashB3 <;> simp [decodeHex_toHex]
  simp only [computeContextDigest, exportContext, decodeHex_toHex, htokenizer, TraceContext.digest]

theorem boundInput_export (c h o : B3Hash) :
    (exportBundle hash context tokens outputTokens receipt).boundInput c h o =
      receipt.toReceiptFields.digestInput c h o := by
  open ReceiptBundle ReceiptDigestInput in
  simp only [boundInput, bindEnvelope, bindLineage, bindEquipment, bindProduction, bindSeed,
    bindBackend, coreInput, exportBundle, exportReceipt, ReceiptFields.digestInput,
    boundDigest_toHex, ReceiptDigestInput.new, withBackend, withSeedLineage, withStopController,
    withKvQuota, withPrefixCache, withModelCacheIdentity, withEquipmentProfile, withCitations,
    withCrossRunLineage, withTokenizerIdentity, withBuildProvenance, withDecoderConfig,
    withConcurrencyDeterminism, withStopControllerInputs, withCacheProof,
    withRetrievalToolBinding, withDisclosureLevel]
  rfl

end Fields

section Decisions

/-- What the sink hashes for a token. -/
def sinkMessage (contextDigest : B3Hash) (token : TraceTokenInput) : List UInt8 :=
  decisionMessage contextDigest token.tokenIndex (encodeAdapterIds token.adapterIds)
    (encodeGatesQ15 token.gatesQ15) token.policyMaskDigestB3
    (token.allowedMask.map encodeAllowedMask) (token.policyOverridesApplied.map overridesJson)
    token.backendId token.kernelVersionId

/-- What the verifier hashes for the exported token. -/
def bundleMessage (contextDigest : B3Hash) (token : TraceTokenInput) : List UInt8 :=
  bundleDecisionMessage contextDigest token.tokenIndex (encodeAdapterIds token.adapterIds)
    (encodeGatesQ15 token.gatesQ15) token.policyMaskDigestB3 token.backendId token.kernelVersionId

theorem decisionHash_sink :
    token.decisionHash hash contextDigest = hash (sinkMessage contextDigest token) := rfl

theorem decisionHash_export :
    (exportToken hash contextDigest token).decisionHash hash contextDigest =
      hash (bundleMessage contextDigest token) := by
  simp only [ReceiptToken.decisionHash, exportToken, boundDigest_toHex]
  rfl

theorem bundleMessage_ne_sinkMessage :
    bundleMessage contextDigest token ≠ sinkMessage contextDigest token := by
  intro h
  have hlength := congrArg List.length h
  simp only [bundleMessage, bundleDecisionMessage, sinkMessage, decisionMessage, stringBytes,
    attestationBytes, lengthPrefixed, List.length_append, length_leBytes] at hlength
  omega

def decisionMessages (contextDigest : B3Hash) (tokens : List TraceTokenInput) :
    List (List UInt8) :=
  tokens.flatMap fun t => [sinkMessage contextDigest t, bundleMessage contextDigest t]

theorem decisionHash_export_ne (hfree : CollisionFree hash (decisionMessages contextDigest tokens))
    (ht : token ∈ tokens) :
    (exportToken hash contextDigest token).decisionHash hash contextDigest ≠
      token.decisionHash hash contextDigest := by
  rw [decisionHash_export, decisionHash_sink]
  intro he
  have hbundle : bundleMessage contextDigest token ∈ decisionMessages contextDigest tokens :=
    List.mem_flatMap.mpr ⟨token, ht, by simp⟩
  have hsink : sinkMessage contextDigest token ∈ decisionMessages contextDigest tokens :=
    List.mem_flatMap.mpr ⟨token, ht, by simp⟩
  exact bundleMessage_ne_sinkMessage (hfree hbundle hsink he)

end Decisions

section Heads

variable {fault : Option TxFault} {sink : SqlTraceSink} {db : TraceDb} {s : TraceState}

theorem insertBuffer_chain : (insertBuffer fault sink db).2.1.contextDigest = sink.contextDigest ∧
      (insertBuffer fault sink db).2.1.runHeadHash = sink.runHeadHash := by
  unfold insertBuffer
  split
  · exact ⟨rfl, rfl⟩
  · split <;> exact ⟨rfl, rfl⟩

theorem chain_step (call : TraceCall) :
    (s.step lib call).sink.contextDigest = s.sink.contextDigest ∧
      (s.step lib call).sink.runHeadHash =
        runHeadOf lib.hash s.sink.contextDigest s.sink.runHeadHash call.token.toList := by
  cases call with
  | record token fault =>
    simp only [TraceState.step, recordToken]
    split
    · exact insertBuffer_chain
    · exact ⟨rfl, rfl⟩
  | flush fault => exact insertBuffer_chain
  | finalize f fault receiptFault =>
    have hflush := @insertBuffer_chain fault s.sink s.db
    simp only [TraceState.step, finalize]
    split
    · next h =>
      rw [h] at hflush
      exact hflush
    · next h =>
      rw [h] at hflush
      exact hflush

theorem chain_run (calls : List TraceCall) :
    (run (TraceState.step lib) s calls).sink.contextDigest = s.sink.contextDigest ∧
      (run (TraceState.step lib) s calls).sink.runHeadHash =
        runHeadOf lib.hash s.sink.contextDigest s.sink.runHeadHash (recorded calls) := by
  induction calls generalizing s with
  | nil => exact ⟨rfl, rfl⟩
  | cons call calls ih => grind [chain_step, run_cons, recorded_cons, runHeadOf]

end Heads

section Agreement

/-- The verifier recomputes what the sink computed. -/
structure Agreement (hash : List UInt8 → B3Hash) (context : TraceContext)
    (tokens : List TraceTokenInput) (outputTokens : List UInt32) (receipt : TraceReceipt) :
    Prop where
  decisions : ∀ token ∈ tokens,
    (exportToken hash (context.digest hash) token).decisionHash hash (context.digest hash) =
      token.decisionHash hash (context.digest hash)
  runHead : (exportBundle hash context tokens outputTokens receipt).recomputedHead hash
    (context.digest hash) = receipt.runHeadHash
  digest : (exportBundle hash context tokens outputTokens receipt).computeReceiptDigestFromBundle
    hash (context.digest hash) ((exportBundle hash context tokens outputTokens
      receipt).recomputedHead hash (context.digest hash)) (computeOutputDigest hash outputTokens) =
      receipt.receiptDigest

def Verifies (lib : VerifierLib) (bundle : ReceiptBundle) : Prop :=
  ∃ report, verifyBundleInner lib bundle {} = .ok report ∧ report.pass = true

/-- The counts of a finalization are those of the prompt and the output. -/
structure HonestCounts (context : TraceContext) (f : TraceFinalization) : Prop where
  prompt : f.logicalPromptTokens = .ofNat context.promptTokens.length
  output : f.logicalOutputTokens = .ofNat f.outputTokens.length

variable {f : TraceFinalization} {head : B3Hash}

theorem digest_export (h : receiptOf hash f.toReceiptFields (context.digest hash) head
      (computeOutputDigest hash f.outputTokens) = .ok receipt) :
    computeReceiptDigest hash ((exportBundle hash context tokens f.outputTokens receipt).boundInput
      (context.digest hash) head (computeOutputDigest hash f.outputTokens)) 8 =
      some receipt.receiptDigest := by
  rw [boundInput_export]
  cases receiptOf_eq_ok.mp h
  rfl

theorem accepted_export (hcounts : HonestCounts context f)
    (hcheck : checkFinalization lib f = .ok ())
    (h : receiptOf lib.hash f.toReceiptFields (context.digest lib.hash) 0
      (computeOutputDigest lib.hash f.outputTokens) = .ok receipt) :
    Accepted lib.toVerifierLib (exportBundle lib.hash context [] f.outputTokens receipt) {}
      (context.digest lib.hash) := by
  have hdigest := @digest_export lib.hash context [] receipt f 0 h
  have hbilling := billing_of_check hcheck
  simp only [billingMismatch, Bool.or_eq_false_iff, decide_eq_false_iff_not, not_not] at hbilling
  cases receiptOf_eq_ok.mp h
  refine ⟨computeContextDigest_export, B3Hash.fromHex_toHex _, ?_, ?_, rfl, ?_,
    B3Hash.fromHex_toHex _, B3Hash.fromHex_toHex _, ?_, rfl, fun _ _ => ⟨_, rfl⟩⟩
  · exact accountingReasons_eq_nil.mpr
      ⟨rfl, hcounts.prompt, hbilling.1.symm, hcounts.output, hbilling.2⟩
  · exact backendReasons_eq_nil.mpr ⟨rfl, rfl, rfl⟩
  · intro token ht
    cases ht
  · refine (B3Hash.fromHex_toHex _).trans (congrArg some ?_)
    exact (congrArg (Option.getD · 0) hdigest).symm

/-- The last links of both chains. -/
def lastLinks (hash : List UInt8 → B3Hash) (contextDigest : B3Hash) (tokens : List TraceTokenInput)
    (last : TraceTokenInput) : List (List UInt8) :=
  [headMessage (chainHead hash contextDigest 0 (tokens.map (exportToken hash contextDigest)))
      last.tokenIndex ((exportToken hash contextDigest last).decisionHash hash contextDigest),
    headMessage (runHeadOf hash contextDigest 0 tokens) last.tokenIndex
      (last.decisionHash hash contextDigest)]

theorem recomputedHead_export (h : Increasing tokens) :
    (exportBundle hash context tokens outputTokens receipt).recomputedHead hash
        (context.digest hash) =
      chainHead hash (context.digest hash) 0
        (tokens.map (exportToken hash (context.digest hash))) := by
  have hsorted : (tokens.map (exportToken hash (context.digest hash))).Pairwise
      fun a b => a.tokenIndex.toNat ≤ b.tokenIndex.toNat :=
    List.pairwise_map.mpr (h.imp Nat.le_of_lt)
  simp only [ReceiptBundle.recomputedHead, exportBundle, sortBy_eq_self hsorted]

theorem recomputedHead_export_ne {last : TraceTokenInput} (h : Increasing (tokens ++ [last]))
    (hfree : CollisionFree hash (decisionMessages (context.digest hash) (tokens ++ [last])))
    (hlinks : CollisionFree hash (lastLinks hash (context.digest hash) tokens last)) :
    (exportBundle hash context (tokens ++ [last]) outputTokens receipt).recomputedHead hash
        (context.digest hash) ≠
      runHeadOf hash (context.digest hash) 0 (tokens ++ [last]) := by
  have hbundle : chainHead hash (context.digest hash) 0
      ((tokens ++ [last]).map (exportToken hash (context.digest hash))) =
      hash (headMessage (chainHead hash (context.digest hash) 0
        (tokens.map (exportToken hash (context.digest hash)))) last.tokenIndex
        ((exportToken hash (context.digest hash) last).decisionHash hash (context.digest hash))) := by
    simp only [chainHead, List.map_append, List.foldl_append]
    rfl
  have hsink : runHeadOf hash (context.digest hash) 0 (tokens ++ [last]) =
      hash (headMessage (runHeadOf hash (context.digest hash) 0 tokens) last.tokenIndex
        (last.decisionHash hash (context.digest hash))) := by
    simp only [runHeadOf, List.foldl_append]
    rfl
  rw [recomputedHead_export h, hbundle, hsink]
  intro he
  have hmessage := hlinks List.mem_cons_self (List.mem_cons_of_mem _ List.mem_cons_self) he
  obtain ⟨hlink, _⟩ := List.append_inj hmessage (by simp)
  have hdecision := B3Hash.asBytes_inj.mp (List.append_inj hlink (by simp)).2
  exact decisionHash_export_ne hfree (by simp) hdecision

section Runs

variable {flushEvery : Nat} {calls : List TraceCall} {fault : Option TxFault}
  {receiptFault : Option String} {sink' : SqlTraceSink} {db' : TraceDb}

theorem receiptOf_of_finalize (h : finalize lib f fault receiptFault
      (run (TraceState.step lib) (.new contextDigest flushEvery) calls).sink
      (run (TraceState.step lib) (.new contextDigest flushEvery) calls).db =
      (.ok receipt, sink', db')) :
    receiptOf lib.hash f.toReceiptFields contextDigest
      (runHeadOf lib.hash contextDigest 0 (recorded calls))
      (computeOutputDigest lib.hash f.outputTokens) = .ok receipt := by
  obtain ⟨hreceipt, _⟩ := finalize_ok h
  obtain ⟨hcontext, hhead⟩ := @chain_run lib (.new contextDigest flushEvery) calls
  rw [hcontext, hhead] at hreceipt
  exact hreceipt

/-- A receipt over tokens in order is rejected. -/
theorem not_verifies_of_recorded {last : TraceTokenInput} (hrecorded : recorded calls = tokens ++ [last])
    (hincreasing : Increasing (tokens ++ [last]))
    (hfree : CollisionFree lib.hash (decisionMessages (context.digest lib.hash) (tokens ++ [last])))
    (hlinks : CollisionFree lib.hash (lastLinks lib.hash (context.digest lib.hash) tokens last))
    (hfinalize : finalize lib f fault receiptFault
      (run (TraceState.step lib) (.new (context.digest lib.hash) flushEvery) calls).sink
      (run (TraceState.step lib) (.new (context.digest lib.hash) flushEvery) calls).db =
      (.ok receipt, sink', db')) :
    ¬ Verifies lib.toVerifierLib
      (exportBundle lib.hash context (tokens ++ [last]) f.outputTokens receipt) := by
  rintro ⟨report, hverify, hpass⟩
  obtain ⟨contextDigest, haccepted, _⟩ := accepted_of_pass hverify hpass
  cases haccepted.context.symm.trans computeContextDigest_export
  have hreceipt := receiptOf_of_finalize hfinalize
  have hhead : receipt.runHeadHash =
      runHeadOf lib.hash (context.digest lib.hash) 0 (tokens ++ [last]) := by
    cases receiptOf_eq_ok.mp hreceipt
    rw [hrecorded]
  have haccepts := (B3Hash.fromHex_toHex receipt.runHeadHash).symm.trans haccepted.runHead
  grind [recomputedHead_export_ne]

/-- An honest run agrees with its verifier, and its receipt is accepted, exactly if it recorded no
token at all. -/
theorem agreement_iff (hcounts : HonestCounts context f)
    (hfree : CollisionFree lib.hash (decisionMessages (context.digest lib.hash) (recorded calls)))
    (hfinalize : finalize lib f fault receiptFault
      (run (TraceState.step lib) (.new (context.digest lib.hash) flushEvery) calls).sink
      (run (TraceState.step lib) (.new (context.digest lib.hash) flushEvery) calls).db =
      (.ok receipt, sink', db')) :
    Agreement lib.hash context (recorded calls) f.outputTokens receipt ∧ Verifies lib.toVerifierLib
        (exportBundle lib.hash context (recorded calls) f.outputTokens receipt) ↔
      recorded calls = [] := by
  constructor
  · rintro ⟨hagree, _⟩
    rw [List.eq_nil_iff_forall_not_mem]
    intro token ht
    exact decisionHash_export_ne hfree ht (hagree.decisions token ht)
  · intro hnone
    have hreceipt := receiptOf_of_finalize hfinalize
    rw [hnone] at hreceipt
    have haccepted := accepted_export hcounts (finalize_ok hfinalize).2.1 hreceipt
    have hdigest := @digest_export lib.hash context [] receipt f 0 hreceipt
    have hzero : receipt.runHeadHash = 0 := by
      cases receiptOf_eq_ok.mp hreceipt
      rfl
    rw [hnone]
    refine ⟨⟨?_, ?_, ?_⟩, ?_⟩
    · intro token ht
      cases ht
    · exact hzero.symm
    · rw [ReceiptBundle.computeReceiptDigestFromBundle, computeReceiptDigest_digestInput]
      exact congrArg (Option.getD · 0) hdigest
    · obtain ⟨report, hverify, hpass, _⟩ := pass_of_accepted haccepted
      exact ⟨report, hverify, hpass⟩

end Runs

def smallContext : TraceContext := { tenantNamespace := "t", stackHash := 3, promptTokens := [4, 5] }

def smallRun (calls : List TraceCall) : TraceState :=
  run (TraceState.step digitTraceLib) (.new (smallContext.digest digitTraceLib.hash) 1) calls

def promptFinalization : TraceFinalization :=
  { smallFinalization with logicalPromptTokens := 2, billedInputTokens := 2 }

def smallReceipt (calls : List TraceCall) :
    Except AosError TraceReceipt × SqlTraceSink × TraceDb :=
  finalize digitTraceLib promptFinalization none none (smallRun calls).sink (smallRun calls).db

def smallBundle (calls : List TraceCall) (receipt : TraceReceipt) : ReceiptBundle :=
  exportBundle digitTraceLib.hash smallContext (recorded calls) promptFinalization.outputTokens
    receipt

theorem smallReceipt_agrees : ∃ receipt sink db, smallReceipt [] = (.ok receipt, sink, db) ∧
    Agreement digitTraceLib.hash smallContext (recorded []) promptFinalization.outputTokens
      receipt ∧ Verifies digitTraceLib.toVerifierLib (smallBundle [] receipt) := by
  have hcounts : HonestCounts smallContext promptFinalization := ⟨by decide, by decide⟩
  have hfree : CollisionFree digitTraceLib.hash
      (decisionMessages (smallContext.digest digitTraceLib.hash) (recorded [])) := by
    decide
  obtain ⟨receipt, sink, db, hfinalize⟩ := @exists_receipt (smallReceipt []) (by decide)
  refine ⟨receipt, sink, db, hfinalize, ?_⟩
  simp only [smallReceipt, smallRun] at hfinalize
  exact (agreement_iff hcounts hfree hfinalize).mpr rfl

def smallCalls : List TraceCall := [.record (maskedToken 0) none]

set_option maxRecDepth 2000

/-- One token is enough: its hash and the run head differ, and the receipt is rejected. -/
theorem smallReceipt_disagrees : ∃ receipt sink db, smallReceipt smallCalls = (.ok receipt, sink, db) ∧
    ¬ Agreement digitTraceLib.hash smallContext (recorded smallCalls)
      promptFinalization.outputTokens receipt ∧
    ¬ Verifies digitTraceLib.toVerifierLib (smallBundle smallCalls receipt) := by
  have hrecorded : recorded smallCalls = [] ++ [maskedToken 0] := rfl
  have hfree : CollisionFree digitTraceLib.hash
      (decisionMessages (smallContext.digest digitTraceLib.hash) ([] ++ [maskedToken 0])) := by
    decide
  have hlinks : CollisionFree digitTraceLib.hash
      (lastLinks digitTraceLib.hash (smallContext.digest digitTraceLib.hash) []
        (maskedToken 0)) := by
    decide
  obtain ⟨receipt, sink, db, hfinalize⟩ :=
    @exists_receipt (smallReceipt smallCalls) (by decide)
  refine ⟨receipt, sink, db, hfinalize, ?_, ?_⟩
  · intro hagree
    exact decisionHash_export_ne hfree (by simp)
      (hagree.decisions (maskedToken 0) (by rw [hrecorded]; simp))
  · simp only [smallReceipt, smallRun] at hfinalize
    rw [smallBundle, hrecorded]
    exact not_verifies_of_recorded hrecorded (by decide) hfree hlinks hfinalize

end Agreement

end AdapterOS.Receipt
