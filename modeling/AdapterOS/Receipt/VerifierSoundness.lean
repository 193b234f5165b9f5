import AdapterOS.Receipt.Verifier

/-! What the verdict of the offline verifier says about a bundle, and what it leaves open. -/
namespace AdapterOS.Receipt

open Library

variable {lib : VerifierLib} {hash : List UInt8 → B3Hash} {bundle : ReceiptBundle}
  {options : VerifyOptions} {report : ReceiptVerificationReport}
  {reasons : List ReasonCode} {code : ReasonCode} {context text : String}
  {digest contextDigest : B3Hash} {failed : Bool}

section Reasons

@[simp] theorem pushReason_ne_nil : pushReason reasons code ≠ [] := by
  unfold pushReason
  split
  · intro h
    simp_all
  · simp

@[simp] theorem pushReasonIf_eq_nil :
    pushReasonIf reasons failed code = [] ↔ reasons = [] ∧ failed = false := by
  cases failed <;> simp [pushReasonIf]

theorem accountingReasons_eq_nil : bundle.accountingReasons reasons = [] ↔ reasons = [] ∧
      bundle.receipt.logicalPromptTokens = .ofNat bundle.context.promptTokens.length ∧
      bundle.receipt.logicalPromptTokens.toNat - bundle.receipt.prefixCachedTokenCount.toNat =
        bundle.receipt.billedInputTokens.toNat ∧
      bundle.receipt.logicalOutputTokens = .ofNat bundle.outputTokens.length ∧
      bundle.receipt.billedOutputTokens = bundle.receipt.logicalOutputTokens := by
  simp [ReceiptBundle.accountingReasons, and_assoc]

theorem backendReasons_eq_nil : bundle.backendReasons lib.toLowercase reasons = [] ↔ reasons = [] ∧
      bundle.textMismatch lib.toLowercase ReceiptToken.backendId bundle.expectedBackend = false ∧
      bundle.textMismatch lib.toLowercase ReceiptToken.kernelVersionId
        bundle.expectedKernelVersion = false := by
  simp [ReceiptBundle.backendReasons, and_assoc]

theorem reasons_of_policyReasons (h : bundle.policyReasons reasons = .ok []) : reasons = [] := by
  unfold ReceiptBundle.policyReasons at h
  split at h
  · exact Except.ok.inj h
  · obtain ⟨policy, _, h⟩ := bind_eq_ok.mp h
    exact (pushReasonIf_eq_nil.mp (Except.ok.inj h)).1

theorem reasons_of_seedReasons (h : bundle.seedReasons lib options reasons = []) :
    reasons = [] := by
  simp only [ReceiptBundle.seedReasons, pushReasonIf_eq_nil] at h
  obtain ⟨⟨h, _⟩, _⟩ := h
  split at h
  · exact h
  · exact absurd h pushReason_ne_nil

theorem reasons_of_verifySignature {receipt : ReceiptDigests} {checked : Bool} {valid : Option Bool}
    (h : verifySignature lib receipt digest reasons = .ok ([], checked, valid)) : reasons = [] := by
  have hnot : ∀ {r : Bool × Option Bool}, Except.ok (pushReason reasons .signatureInvalid, r) ≠
        (Except.ok ([], checked, valid) : Except String _) := by
    intro r he
    exact pushReason_ne_nil (Prod.ext_iff.mp (Except.ok.inj he)).1
  unfold verifySignature at h
  split at h
  · exact (Prod.ext_iff.mp (Except.ok.inj h)).1
  · exact absurd h hnot
  · split at h
    · cases h
    · split at h
      · exact absurd h hnot
      · obtain ⟨key, _, h⟩ := bind_eq_ok.mp h
        split at h
        · cases h
        · exact (pushReasonIf_eq_nil.mp (Prod.ext_iff.mp (Except.ok.inj h)).1).1

end Reasons

section Decoding

theorem parseDigest_eq_ok : parseDigest context text = .ok digest ↔
    B3Hash.fromHex text = some digest := by
  unfold parseDigest
  cases B3Hash.fromHex text <;> simp

theorem decodeHex32_eq_ok {label : String} : decodeHex32 label text = .ok digest ↔
    B3Hash.fromHex text = some digest := by
  unfold decodeHex32 B3Hash.fromHex
  cases decodeHex text with
  | none => simp
  | some bytes =>
    by_cases hlen : bytes.length = 32
    · simp [hlen]
    · simp [hlen]

end Decoding

section Replay

variable {token : ReceiptToken} {tokens : List ReceiptToken} {state state' : Replay}

/-- The decision hash of a token's own fields. -/
def ReceiptToken.decisionHash (hash : List UInt8 → B3Hash) (contextDigest : B3Hash)
    (token : ReceiptToken) : B3Hash :=
  hashDecision hash contextDigest token.tokenIndex (encodeAdapterIds token.adapterIds)
    (encodeGatesQ15 token.gatesQ15) (boundDigest token.policyMaskDigestHex) token.backendId
    token.kernelVersionId

def ReceiptToken.stray (hash : List UInt8 → B3Hash) (contextDigest : B3Hash)
    (token : ReceiptToken) : Bool :=
  token.decisionHashHex.any fun text =>
    B3Hash.fromHex text ≠ some (token.decisionHash hash contextDigest)

def chainHead (hash : List UInt8 → B3Hash) (contextDigest head : B3Hash)
    (tokens : List ReceiptToken) : B3Hash :=
  tokens.foldl (fun head t => updateHead hash head t.tokenIndex (t.decisionHash hash contextDigest))
    head

def ReceiptToken.Readable (token : ReceiptToken) : Prop :=
  (∀ text, token.policyMaskDigestHex = some text → (B3Hash.fromHex text).isSome) ∧
    ∀ text, token.decisionHashHex = some text → (B3Hash.fromHex text).isSome

theorem tokenPolicyDigest_eq_ok {policy : Option B3Hash} : tokenPolicyDigest token = .ok policy ↔
      (∀ text, token.policyMaskDigestHex = some text → (B3Hash.fromHex text).isSome) ∧
        boundDigest token.policyMaskDigestHex = policy := by
  unfold tokenPolicyDigest boundDigest
  cases token.policyMaskDigestHex with
  | none => simp
  | some text =>
    cases hd : decodeHex32 "policy_mask_digest_hex" text with
    | error e =>
      have hnone : B3Hash.fromHex text = none := by
        by_contra hne
        obtain ⟨d, hs⟩ := Option.ne_none_iff_exists'.mp hne
        cases hd.symm.trans (decodeHex32_eq_ok.mpr hs)
      simp [Except.map, hd, hnone]
    | ok digest => simp [Except.map, hd, decodeHex32_eq_ok.mp hd]

theorem checkDecisionHash_eq_ok {first mismatched : Option UInt32} :
    checkDecisionHash token (token.decisionHash hash contextDigest) first = .ok mismatched ↔
      (∀ text, token.decisionHashHex = some text → (B3Hash.fromHex text).isSome) ∧
        first.or (if token.stray hash contextDigest then some token.tokenIndex else none) =
          mismatched := by
  unfold checkDecisionHash ReceiptToken.stray
  cases token.decisionHashHex with
  | none => simp
  | some text =>
    simp only [bind_eq_ok, parseDigest_eq_ok, Option.any_some, Option.some.injEq, forall_eq']
    constructor
    · rintro ⟨carried, hc, h⟩
      rw [← Except.ok.inj h]
      cases first <;> simp [hc]
    · rintro ⟨hsome, rfl⟩
      obtain ⟨carried, hc⟩ := Option.isSome_iff_exists.mp hsome
      refine ⟨carried, hc, ?_⟩
      cases first <;> simp [hc, pure, Except.pure]

theorem replayToken_eq_ok : replayToken hash contextDigest state token = .ok state' ↔
    token.Readable ∧ state' = ⟨updateHead hash state.runHead token.tokenIndex
        (token.decisionHash hash contextDigest), state.mismatchedToken.or
        (if token.stray hash contextDigest then some token.tokenIndex else none)⟩ := by
  constructor
  · intro h
    obtain ⟨policy, hp, h⟩ := bind_eq_ok.mp h
    obtain ⟨hreadable, rfl⟩ := tokenPolicyDigest_eq_ok.mp hp
    obtain ⟨mismatched, hm, h⟩ := bind_eq_ok.mp h
    obtain ⟨hcarried, rfl⟩ := checkDecisionHash_eq_ok.mp hm
    exact ⟨⟨hreadable, hcarried⟩, (Except.ok.inj h).symm⟩
  · rintro ⟨hreadable, rfl⟩
    refine bind_eq_ok.mpr ⟨_, tokenPolicyDigest_eq_ok.mpr ⟨hreadable.1, rfl⟩, ?_⟩
    exact bind_eq_ok.mpr ⟨_, checkDecisionHash_eq_ok.mpr ⟨hreadable.2, rfl⟩, rfl⟩

theorem replayTokens_eq_ok : replayTokens hash contextDigest state tokens = .ok state' ↔
    (∀ token ∈ tokens, token.Readable) ∧
      state' = ⟨chainHead hash contextDigest state.runHead tokens, state.mismatchedToken.or
        ((tokens.find? (·.stray hash contextDigest)).map ReceiptToken.tokenIndex)⟩ := by
  induction tokens generalizing state with
  | nil => simp [replayTokens, chainHead, @eq_comm _ state']
  | cons token tokens ih =>
    simp only [replayTokens, bind_eq_ok, replayToken_eq_ok, ih, List.forall_mem_cons]
    have hfirst : ∀ first : Option UInt32,
        (first.or (if token.stray hash contextDigest then some token.tokenIndex else none)).or
          ((tokens.find? (·.stray hash contextDigest)).map ReceiptToken.tokenIndex) =
        first.or (((token :: tokens).find? (·.stray hash contextDigest)).map
          ReceiptToken.tokenIndex) := by grind
    constructor
    · rintro ⟨next, ⟨hreadable, rfl⟩, hrest, rfl⟩
      exact ⟨⟨hreadable, hrest⟩, by rw [hfirst]; rfl⟩
    · rintro ⟨⟨hreadable, hrest⟩, rfl⟩
      exact ⟨_, ⟨hreadable, rfl⟩, hrest, by rw [hfirst]; rfl⟩

end Replay

section BoundFields

/-- All fields that any version of a bundle's receipt binds. -/
def ReceiptBundle.boundInput (bundle : ReceiptBundle) (contextDigest runHead outputDigest : B3Hash) :
    ReceiptDigestInput :=
  bundle.bindEnvelope (bundle.bindLineage (bundle.bindEquipment (bundle.bindProduction
    (bundle.bindSeed (bundle.bindBackend (bundle.coreInput contextDigest runHead outputDigest))))))

theorem computeReceiptDigest_digestInput (bundle : ReceiptBundle) (c r o : B3Hash) :
    computeReceiptDigest hash (bundle.digestInput c r o) bundle.receipt.schemaVersion.toNat =
      computeReceiptDigest hash (bundle.boundInput c r o) bundle.receipt.schemaVersion.toNat := by
  unfold ReceiptBundle.digestInput ReceiptBundle.boundInput
  generalize bundle.receipt.schemaVersion.toNat = version
  by_cases h7 : 7 ≤ version
  · grind
  · open ReceiptDigestInput ReceiptBundle in
    match version, h7 with
    | 0, _ => simp only [computeReceiptDigest]
    | 1, _ | 2, _ | 3, _ | 4, _ | 5, _ | 6, _ =>
      simp only [computeReceiptDigest, computeV1Digest, computeV2Digest, computeV3Digest,
        computeV4Digest, computeV5Digest, computeV6Digest, v1Message, v2Message, v3Message,
        v4Message, v5Message, v6Message, boundBytes, productionBytes, coreBytes, backendBytes,
        seedBytes, stopBytes, kvBytes, prefixCacheBytes, modelCacheBytes, equipmentBytes,
        citationBytes, lineageBytes, bindBackend, bindSeed, bindProduction, bindEquipment,
        bindLineage, bindEnvelope, withBackend, withSeedLineage, withStopController, withKvQuota,
        withPrefixCache, withModelCacheIdentity, withEquipmentProfile, withCitations,
        withCrossRunLineage, withTokenizerIdentity, withBuildProvenance, withDecoderConfig,
        withConcurrencyDeterminism, withStopControllerInputs, withCacheProof,
        withRetrievalToolBinding, withDisclosureLevel, Nat.reduceLeDiff, if_true, if_false]
    | n + 7, h7 => exact absurd (Nat.le_add_left 7 n) h7

theorem computeReceiptDigest_isSome (input : ReceiptDigestInput) (version : Nat) :
    (computeReceiptDigest hash input version).isSome ↔ 1 ≤ version ∧ version ≤ 8 := by
  match version with
  | 0 | 1 | 2 | 3 | 4 | 5 | 6 | 7 | 8 => simp [computeReceiptDigest]
  | n + 9 => simp [computeReceiptDigest]

end BoundFields

section Verdict

def ReceiptBundle.recomputedHead (hash : List UInt8 → B3Hash) (contextDigest : B3Hash)
    (bundle : ReceiptBundle) : B3Hash :=
  chainHead hash contextDigest 0 (sortBy (fun t => t.tokenIndex.toNat) bundle.tokens)

/-- The digest of a receipt is the one of its version, over what the bundle itself gives. -/
structure SoundReceipt (hash : List UInt8 → B3Hash) (bundle : ReceiptBundle)
    (contextDigest : B3Hash) : Prop where
  supported : 1 ≤ bundle.receipt.schemaVersion.toNat ∧ bundle.receipt.schemaVersion.toNat ≤ 8
  digest : ∃ receiptDigest, B3Hash.fromHex bundle.receipt.receiptDigestHex = some receiptDigest ∧
    computeReceiptDigest hash (bundle.boundInput contextDigest
      (bundle.recomputedHead hash contextDigest) (computeOutputDigest hash bundle.outputTokens))
      bundle.receipt.schemaVersion.toNat = some receiptDigest
  carried : ∀ token ∈ bundle.tokens, ∀ text, token.decisionHashHex = some text →
    B3Hash.fromHex text = some (token.decisionHash hash contextDigest)

/-- The conditions on a bundle that the verifier lets pass, for the context it recomputes. The
carried decision hashes have to be readable, and an unsupported version has the zero digest. -/
structure Accepted (lib : VerifierLib) (bundle : ReceiptBundle) (options : VerifyOptions)
    (contextDigest : B3Hash) : Prop where
  context : computeContextDigest lib.hash bundle.context = .ok contextDigest
  contextAgrees : B3Hash.fromHex (bundle.expectedContextHex contextDigest) = some contextDigest
  accounting : bundle.accountingReasons [] = []
  backend : bundle.backendReasons lib.toLowercase [] = []
  policy : bundle.policyReasons [] = .ok []
  readable : ∀ token ∈ bundle.tokens, token.Readable
  runHead : B3Hash.fromHex bundle.receipt.runHeadHashHex =
    some (bundle.recomputedHead lib.hash contextDigest)
  output : B3Hash.fromHex bundle.receipt.outputDigestHex =
    some (computeOutputDigest lib.hash bundle.outputTokens)
  receipt : B3Hash.fromHex bundle.receipt.receiptDigestHex =
    some ((computeReceiptDigest lib.hash (bundle.boundInput contextDigest
      (bundle.recomputedHead lib.hash contextDigest)
      (computeOutputDigest lib.hash bundle.outputTokens))
      bundle.receipt.schemaVersion.toNat).getD 0)
  seed : bundle.seedReasons lib options [] = []
  signature : ∀ receiptDigest, B3Hash.fromHex bundle.receipt.receiptDigestHex = some receiptDigest →
    ∃ outcome, verifySignature lib bundle.receipt receiptDigest [] = .ok ([], outcome)

/-- The token that a report on an accepted bundle names. -/
def ReceiptBundle.strayToken (hash : List UInt8 → B3Hash) (contextDigest : B3Hash)
    (bundle : ReceiptBundle) : Option UInt32 :=
  ((sortBy (fun t => t.tokenIndex.toNat) bundle.tokens).find?
    (·.stray hash contextDigest)).map ReceiptToken.tokenIndex

theorem accepted_of_pass (h : verifyBundleInner lib bundle options = .ok report)
    (hpass : report.pass = true) : ∃ contextDigest, Accepted lib bundle options contextDigest ∧
      report.mismatchedToken = bundle.strayToken lib.hash contextDigest := by
  obtain ⟨contextDigest, hcontext, h⟩ := bind_eq_ok.mp h
  obtain ⟨expectedContext, hexpected, h⟩ := bind_eq_ok.mp h
  obtain ⟨policyReasons, hpolicy, h⟩ := bind_eq_ok.mp h
  obtain ⟨replay, hreplay, h⟩ := bind_eq_ok.mp h
  obtain ⟨expectedHead, hexpectedHead, h⟩ := bind_eq_ok.mp h
  obtain ⟨expectedOutput, hexpectedOutput, h⟩ := bind_eq_ok.mp h
  obtain ⟨expectedReceipt, hexpectedReceipt, h⟩ := bind_eq_ok.mp h
  obtain ⟨⟨reasons, outcome⟩, hsignature, h⟩ := bind_eq_ok.mp h
  cases h
  -- No reason is left at the end, so from the last check back to the first none was pushed.
  cases List.isEmpty_iff.mp hpass
  have hseed := reasons_of_verifySignature hsignature
  have hreasons := reasons_of_seedReasons hseed
  rw [hreasons] at hseed
  rw [hreasons, hseed] at hsignature
  simp only [pushReasonIf_eq_nil, decide_eq_false_iff_not, not_not] at hreasons
  obtain ⟨⟨⟨rfl, hhead⟩, houtput⟩, hreceipt⟩ := hreasons
  have hbackend := reasons_of_policyReasons hpolicy
  rw [hbackend] at hpolicy
  have haccounting := (backendReasons_eq_nil.mp hbackend).1
  rw [haccounting] at hbackend
  have hagrees := (accountingReasons_eq_nil.mp haccounting).1
  rw [hagrees] at haccounting
  simp only [pushReasonIf_eq_nil, decide_eq_false_iff_not, not_not, true_and] at hagrees
  obtain ⟨hreadable, rfl⟩ := replayTokens_eq_ok.mp hreplay
  rw [parseDigest_eq_ok] at hexpected hexpectedHead hexpectedOutput hexpectedReceipt
  simp only at hhead hreceipt
  refine ⟨contextDigest, ⟨hcontext, ?_, haccounting, hbackend, hpolicy, ?_, ?_, ?_, ?_, hseed, ?_⟩,
    ?_⟩
  · rw [hexpected, hagrees]
  · exact fun token ht => hreadable token (mem_sortBy.mpr ht)
  · rw [hexpectedHead, hhead]
    rfl
  · rw [hexpectedOutput, houtput]
  · rw [hexpectedReceipt, hreceipt, ReceiptBundle.computeReceiptDigestFromBundle,
      computeReceiptDigest_digestInput]
    rfl
  · intro digest hdigest
    cases hdigest.symm.trans hexpectedReceipt
    exact ⟨outcome, hsignature⟩
  · rw [if_neg (not_not.mpr hhead)]
    rfl

theorem pass_of_accepted (h : Accepted lib bundle options contextDigest) : ∃ report,
    verifyBundleInner lib bundle options = .ok report ∧ report.pass = true ∧
      report.mismatchedToken = bundle.strayToken lib.hash contextDigest := by
  have hagrees : ∀ (d : B3Hash) (code : ReasonCode), pushReasonIf [] (d ≠ d) code = [] := by
    intro d code
    simp [pushReasonIf]
  have hreplay : replayTokens lib.hash contextDigest {}
      (sortBy (fun t => t.tokenIndex.toNat) bundle.tokens) =
      .ok ⟨bundle.recomputedHead lib.hash contextDigest,
        bundle.strayToken lib.hash contextDigest⟩ :=
    replayTokens_eq_ok.mpr ⟨fun token ht => h.readable token (mem_sortBy.mp ht), rfl⟩
  have hdigest : ∀ head output, bundle.computeReceiptDigestFromBundle lib.hash contextDigest head
      output = (computeReceiptDigest lib.hash (bundle.boundInput contextDigest head output)
        bundle.receipt.schemaVersion.toNat).getD 0 := by
    intro head output
    rw [ReceiptBundle.computeReceiptDigestFromBundle, computeReceiptDigest_digestInput]
  obtain ⟨outcome, hsignature⟩ := h.signature _ h.receipt
  refine exists_bind_ok h.context ?_
  refine exists_bind_ok (parseDigest_eq_ok.mpr h.contextAgrees) ?_
  refine exists_bind_ok (by rw [hagrees, h.accounting, h.backend]; exact h.policy) ?_
  refine exists_bind_ok hreplay ?_
  refine exists_bind_ok (parseDigest_eq_ok.mpr h.runHead) ?_
  refine exists_bind_ok (parseDigest_eq_ok.mpr h.output) ?_
  refine exists_bind_ok (parseDigest_eq_ok.mpr h.receipt) ?_
  refine exists_bind_ok (a := ([], outcome)) ?_ ⟨_, rfl, rfl, ?_⟩
  · simp only [hdigest, hagrees, h.seed]
    exact hsignature
  · exact if_neg (not_not.mpr rfl)

section Example

def carryingToken (carried : B3Hash) : ReceiptToken :=
  { tokenIndex := 0, adapterIds := ["a"], gatesQ15 := [1]
    decisionHashHex := some (B3Hash.toHex carried) }

def oneTokenContext : B3Hash := digitHash (contextDigestBytes "t" [] none none none [])

def oneTokenHash : B3Hash := (carryingToken 0).decisionHash digitHash oneTokenContext

/-- A bundle for no prompt, one output token and one decision. -/
def oneTokenBundle (version : UInt8) (carried receiptDigest : B3Hash) : ReceiptBundle :=
  { traceId := "run", tenantId := "t", context := ⟨"t", "", [], none, none, none, none, none⟩
    tokens := [carryingToken carried], outputTokens := [7]
    receipt :=
      { runHeadHashHex := B3Hash.toHex (updateHead digitHash 0 0 oneTokenHash)
        outputDigestHex := B3Hash.toHex (computeOutputDigest digitHash [7])
        receiptDigestHex := B3Hash.toHex receiptDigest
        logicalOutputTokens := 1, billedOutputTokens := 1, schemaVersion := version } }

def oneTokenDigest (version : UInt8) : B3Hash :=
  (computeReceiptDigest digitHash ((oneTokenBundle version 0 0).boundInput oneTokenContext
    (updateHead digitHash 0 0 oneTokenHash) (computeOutputDigest digitHash [7]))
    version.toNat).getD 0

theorem decisionHash_carryingToken (carried : B3Hash) :
    (carryingToken carried).decisionHash digitHash oneTokenContext = oneTokenHash := by
  simp only [oneTokenHash, ReceiptToken.decisionHash, carryingToken]

theorem stray_carryingToken (carried : B3Hash) :
    (carryingToken carried).stray digitHash oneTokenContext = decide (carried ≠ oneTokenHash) := by
  simp only [ReceiptToken.stray, decisionHash_carryingToken]
  simp [carryingToken]

theorem recomputedHead_oneTokenBundle (version : UInt8) (carried receiptDigest : B3Hash) :
    (oneTokenBundle version carried receiptDigest).recomputedHead digitHash oneTokenContext =
      updateHead digitHash 0 0 oneTokenHash := by
  simp only [ReceiptBundle.recomputedHead, oneTokenBundle, sortBy, List.insertionSort_cons,
    List.insertionSort_nil, List.orderedInsert_nil, chainHead, List.foldl_cons, List.foldl_nil,
    decisionHash_carryingToken]
  simp only [carryingToken]

theorem boundInput_oneTokenBundle (version : UInt8) (carried receiptDigest c h o : B3Hash) :
    (oneTokenBundle version carried receiptDigest).boundInput c h o =
      (oneTokenBundle version 0 0).boundInput c h o := by
  simp only [ReceiptBundle.boundInput, ReceiptBundle.bindEnvelope, ReceiptBundle.bindLineage,
    ReceiptBundle.bindEquipment, ReceiptBundle.bindProduction, ReceiptBundle.bindSeed,
    ReceiptBundle.bindBackend, ReceiptBundle.coreInput, oneTokenBundle]

theorem oneTokenBundle_accepted (version : UInt8) (carried : B3Hash) :
    Accepted digitLib (oneTokenBundle version carried (oneTokenDigest version)) {}
      oneTokenContext where
  context := by
    simp only [computeContextDigest, oneTokenBundle, show decodeHex "" = some [] by decide]
    rfl
  contextAgrees := B3Hash.fromHex_toHex _
  accounting := by simp [accountingReasons_eq_nil, oneTokenBundle]
  backend := by simp [backendReasons_eq_nil, oneTokenBundle, ReceiptBundle.textMismatch]
  policy := rfl
  readable := by simp [oneTokenBundle, carryingToken, ReceiptToken.Readable]
  runHead := by
    simp only [digitLib, recomputedHead_oneTokenBundle]
    exact B3Hash.fromHex_toHex _
  output := B3Hash.fromHex_toHex _
  receipt := by
    simp only [digitLib, recomputedHead_oneTokenBundle, boundInput_oneTokenBundle]
    exact B3Hash.fromHex_toHex (oneTokenDigest version)
  seed := rfl
  signature := fun _ _ => ⟨_, rfl⟩

set_option maxRecDepth 1000

end Example

end Verdict

end AdapterOS.Receipt
