import AdapterOS.Worker.StopController

/-! The stop controller against the complete stream of tokens: what the bounded history has
forgotten changes no decision. -/
namespace AdapterOS.Worker

open Library

section Rules

variable {F D : Type*} (ops : SoftmaxOps F D) (policy : StopPolicySpec)
  (sequences : List (List UInt32))

def recentTokens (stream : List UInt32) : List UInt32 := stream.rtake policy.repetitionWindow.toNat

def Spent (tokenIndex : UInt32) : Prop := policy.outputMaxTokens ≤ tokenIndex

def Confident (eosTokenId : UInt32) (logits : List F) : Prop :=
  ∃ eosLogit, logits[(policy.eosTokenId.getD eosTokenId).toNat]? = some eosLogit ∧
    policy.completionThresholdQ15 ≤
      ops.toQ15 (StopController.computeEosProbability ops logits eosLogit)

/-- An n-gram of at most half the recent tokens occurs too often among them. -/
def Repeats (stream : List UInt32) : Prop :=
  ∃ ngram : List UInt32, policy.repetitionNgram.toNat ≤ ngram.length ∧
    ngram.length ≤ (recentTokens policy stream).length / 2 ∧
    policy.repetitionThreshold.toNat < occurrences ngram (recentTokens policy stream)

def EndsIn (stream sequence : List UInt32) : Prop := sequence ≠ [] ∧ sequence <:+ stream

instance (stream sequence : List UInt32) : Decidable (EndsIn stream sequence) :=
  inferInstanceAs (Decidable (_ ∧ _))

open Classical in
/-- The decision on the complete stream, which ends in the current token. -/
noncomputable def streamDecision (tokenIndex token eosTokenId : UInt32) (logits : List F)
    (stream : List UInt32) : Option StopDecision :=
  if Spent policy tokenIndex then some ⟨.budgetMax, tokenIndex, 0⟩
  else if Confident ops policy eosTokenId logits then some ⟨.completionConfident, tokenIndex, 0⟩
  else if Repeats policy stream then some ⟨.repetitionGuard, tokenIndex, 0⟩
  else
    match sequences.find? fun s => EndsIn stream s with
    | some s => some ⟨.stopSequence, tokenIndex, s.length - 1⟩
    | none =>
      if token = policy.eosTokenId.getD eosTokenId then some ⟨.length, tokenIndex, 0⟩ else none

end Rules

section Calls

inductive StopCall (F : Type*) where
  | preload (tokens : List UInt32)
  | check (token eosTokenId : UInt32) (logits : List F)
  | reset

/-- The controller after a call. -/
def StopController.call {F D : Type*} (ops : SoftmaxOps F D) (c : StopController) :
    StopCall F → StopController
  | .preload tokens => c.preloadTokens tokens
  | .check token eosTokenId logits => (c.checkStop ops token eosTokenId logits).2
  | .reset => c.reset

/-- All tokens since the last reset, and the counter over them. -/
structure TokenStream where
  count : UInt32 := 0
  tokens : List UInt32 := []

def TokenStream.next {F : Type*} (f : TokenStream) : StopCall F → TokenStream
  | .preload tokens => ⟨tokens.foldl (fun n _ => StopController.saturatingSucc n) f.count,
      f.tokens ++ tokens⟩
  | .check token _ _ => ⟨f.count + 1, f.tokens ++ [token]⟩
  | .reset => {}

end Calls

namespace StopController

variable {F D : Type*} {ops : SoftmaxOps F D} {policy : StopPolicySpec}
  {sequences : List (List UInt32)} {f : TokenStream} {stream tokens : List UInt32}

section Simulation

theorem popFront_eq (window : Nat) (tokens : List UInt32) :
    popFront window tokens = tokens.rtake window := by
  induction tokens with
  | nil => simp [popFront]
  | cons token tokens ih =>
    rw [popFront]
    split
    · grind [eq_rtake, rtake_suffix, length_rtake]
    · next h =>
      apply eq_rtake (List.suffix_refl _)
      omega

def seen (policy : StopPolicySpec) (sequences : List (List UInt32)) (f : TokenStream) :
    StopController :=
  let c := newWithStopSequences policy sequences
  { c with generatedCount := f.count, tokenHistory := f.tokens.rtake c.historyWindow }

@[simp] theorem generatedCount_seen : (seen policy sequences f).generatedCount = f.count := rfl

theorem newWithStopSequences_eq :
    newWithStopSequences policy sequences = seen policy sequences {} := by
  simp [seen, newWithStopSequences]

theorem updateHistory_seen (n : UInt32) (token : UInt32) :
    { seen policy sequences f with generatedCount := n }.updateHistory token =
      seen policy sequences ⟨n, f.tokens ++ [token]⟩ := by
  simp only [updateHistory, seen, popFront_eq, rtake_rtake_append]

theorem preloadTokens_seen (f : TokenStream) (tokens : List UInt32) :
    (seen policy sequences f).preloadTokens tokens =
      seen policy sequences (f.next (F := F) (.preload tokens)) := by
  induction tokens generalizing f with
  | nil => simp [preloadTokens, TokenStream.next]
  | cons token tokens ih =>
    have hrest := ih ⟨saturatingSucc f.count, f.tokens ++ [token]⟩
    rw [← updateHistory_seen] at hrest
    simpa [preloadTokens, TokenStream.next] using hrest

theorem call_seen (call : StopCall F) :
    (seen policy sequences f).call ops call = seen policy sequences (f.next call) := by
  cases call with
  | preload tokens => exact preloadTokens_seen f tokens
  | check token eosTokenId logits => exact updateHistory_seen (f.count + 1) token
  | reset => simp [StopController.call, reset, seen, TokenStream.next]

theorem run_seen (calls : List (StopCall F)) :
    run (StopController.call ops) (newWithStopSequences policy sequences) calls =
      seen policy sequences (run TokenStream.next {} calls) := by
  rw [newWithStopSequences_eq]
  generalize ({} : TokenStream) = f
  induction calls generalizing f with
  | nil => rfl
  | cons call calls ih => rw [run_cons, run_cons, call_seen, ih]

end Simulation

section Checks

theorem length_le_maxStopSequenceLen (policy : StopPolicySpec) {s : List UInt32}
    (hs : s ∈ sequences) :
    s.length ≤ (newWithStopSequences policy sequences).maxStopSequenceLen :=
  le_max? (List.mem_map_of_mem hs)

theorem tokenHistory_seen : (seen policy sequences f).tokenHistory =
      f.tokens.rtake (newWithStopSequences policy sequences).historyWindow := rfl

theorem window_seen : let c := seen policy sequences f
    c.tokenHistory.drop (c.tokenHistory.length - c.policy.repetitionWindow.toNat) =
      recentTokens policy f.tokens :=
  rtake_rtake (le_max_left _ _)

theorem maxCount_gt_iff {window : List UInt32} {size t : Nat} (h : size ≤ window.length) :
    t < maxCount window size ↔ ∃ ngram, ngram.length = size ∧ t < occurrences ngram window := by
  rw [maxCount, HashMap.lt_max_tallyOf]
  constructor
  · rintro ⟨ngram, ht⟩
    have hmem : ngram ∈ factors size window := List.count_pos_iff.mp (by omega)
    have hlen := length_of_mem_factors h hmem
    subst hlen
    rw [count_factors h] at ht
    exact ⟨ngram, rfl, ht⟩
  · rintro ⟨ngram, rfl, ht⟩
    rw [← count_factors h] at ht
    exact ⟨ngram, ht⟩

theorem repeats_iff : Repeats policy stream ↔ ∃ size, policy.repetitionNgram.toNat ≤ size ∧
      size ≤ (recentTokens policy stream).length / 2 ∧
      policy.repetitionThreshold.toNat < maxCount (recentTokens policy stream) size := by
  constructor
  · rintro ⟨ngram, hmin, hmax, ht⟩
    exact ⟨ngram.length, hmin, hmax, (maxCount_gt_iff (by omega)).mpr ⟨ngram, rfl, ht⟩⟩
  · rintro ⟨size, hmin, hmax, ht⟩
    obtain ⟨ngram, rfl, hoften⟩ := (maxCount_gt_iff (by omega)).mp ht
    exact ⟨ngram, hmin, hmax, hoften⟩

open Classical in
theorem checkRepetitionGuard_seen : (seen policy sequences f).checkRepetitionGuard =
      if Repeats policy f.tokens then some .repetitionGuard else none := by
  have hwindow := @window_seen policy sequences f
  simp only at hwindow
  simp only [checkRepetitionGuard, hwindow, repeats_iff]
  change (if (recentTokens policy f.tokens).length < policy.repetitionNgram.toNat * 2 then none
    else _) = _
  split
  · next hshort =>
    symm
    apply if_neg
    rintro ⟨size, hmin, hmax, -⟩
    omega
  · next hlong =>
    refine if_congr ?_ rfl rfl
    simp only [List.any_eq_true, List.mem_range'_1, decide_eq_true_eq]
    constructor
    · rintro ⟨size, ⟨hmin, hmax⟩, ht⟩
      exact ⟨size, hmin, by omega, ht⟩
    · rintro ⟨size, hmin, hmax, ht⟩
      exact ⟨size, ⟨hmin, by omega⟩, ht⟩

theorem matchesTail_iff {history s : List UInt32} (h : s.length ≤ history.length) :
    matchesTail history s ↔ s <:+ history := by
  have hlen : (history.rtake s.length).length = s.length := by
    rw [length_rtake]
    omega
  have hsame : matchesTail history s ↔ history.rtake s.length = s := by
    rw [← List.forall₂_eq_eq_eq, List.forall₂_iff_zip, matchesTail, List.all_eq_true]
    constructor
    · intro hall
      exact ⟨hlen, fun {a b} hab => by simpa using hall (a, b) hab⟩
    · rintro ⟨-, hall⟩ ⟨a, b⟩ hab
      simpa using hall hab
  grind [rtake_suffix, eq_rtake]

theorem endsIn_seen_iff {s : List UInt32} (hs : s ∈ sequences) :
    EndsIn (seen policy sequences f).tokenHistory s ↔ EndsIn f.tokens s := by
  have hlen : s.length ≤ (newWithStopSequences policy sequences).historyWindow :=
    (length_le_maxStopSequenceLen policy hs).trans (le_max_right _ _)
  rw [EndsIn, EndsIn, tokenHistory_seen, suffix_rtake_iff hlen]

theorem findSome?_eq_map_find? {α β : Type*} {l : List α} {k : α → Option β} {p : α → Bool}
    {g : α → β} (h : ∀ a ∈ l, k a = if p a then some (g a) else none) :
    l.findSome? k = (l.find? p).map g := by
  induction l with
  | nil => rfl
  | cons a l ih =>
    rw [List.forall_mem_cons] at h
    rw [List.findSome?_cons, List.find?_cons, h.1, ih h.2]
    cases p a <;> rfl

theorem matchRound {history s : List UInt32} :
    (if s.length == 0 || history.length < s.length then none
      else if matchesTail history s then some (s.length - 1) else none) =
      if EndsIn history s then some (s.length - 1) else none := by
  by_cases h : EndsIn history s
  · obtain ⟨hne, hsuffix⟩ := h
    have hlen := hsuffix.length_le
    rw [if_neg (by simp [hne, hlen]), if_pos ((matchesTail_iff hlen).mpr hsuffix),
      if_pos ⟨hne, hsuffix⟩]
  · rw [if_neg h]
    split
    · rfl
    · next hround =>
      simp only [Bool.or_eq_true, beq_iff_eq, List.length_eq_zero_iff, decide_eq_true_eq, not_or,
        not_lt] at hround
      apply if_neg
      intro hmatch
      exact h ⟨hround.1, (matchesTail_iff hround.2).mp hmatch⟩

theorem checkStopSequences_seen : (seen policy sequences f).checkStopSequences =
      (sequences.find? fun s => EndsIn f.tokens s).map fun s => s.length - 1 := by
  simp only [checkStopSequences, matchRound]
  split
  · next hnone =>
    have hempty : ∀ s ∈ sequences, s = [] := by
      intro s hs
      have hlen := length_le_maxStopSequenceLen policy hs
      rcases Bool.or_eq_true _ _ ▸ hnone with h | h
      · have hnil : sequences = [] := List.isEmpty_iff.mp h
        simp [hnil] at hs
      · have hzero : (newWithStopSequences policy sequences).maxStopSequenceLen = 0 :=
          beq_iff_eq.mp h
        exact List.length_eq_zero_iff.mp (by omega)
    have hfind : (sequences.find? fun s => EndsIn f.tokens s) = none := by
      rw [List.find?_eq_none]
      intro s hs h
      exact (of_decide_eq_true h).1 (hempty s hs)
    rw [hfind, Option.map_none]
  · refine findSome?_eq_map_find? ?_
    intro s hs
    have hends := @endsIn_seen_iff policy sequences f s hs
    simp only [hends, decide_eq_true_eq]

open Classical in
theorem checkBudgetMax_seen (tokenIndex : UInt32) :
    (seen policy sequences f).checkBudgetMax tokenIndex =
      if Spent policy tokenIndex then some .budgetMax else none :=
  if_congr Iff.rfl rfl rfl

open Classical in
theorem checkCompletionConfident_seen (logits : List F) (eosTokenId : UInt32) :
    (seen policy sequences f).checkCompletionConfident ops logits eosTokenId =
      if Confident ops policy eosTokenId logits then some .completionConfident else none := by
  have hpolicy : (seen policy sequences f).policy = policy := rfl
  grind [checkCompletionConfident, Confident]

theorem decision_seen (tokenIndex token eosTokenId : UInt32) (logits : List F) :
    (seen policy sequences f).decision ops tokenIndex token eosTokenId logits =
      streamDecision ops policy sequences tokenIndex token eosTokenId logits f.tokens := by
  rw [decision, checkBudgetMax_seen, checkCompletionConfident_seen, checkRepetitionGuard_seen,
    checkStopSequences_seen, streamDecision]
  by_cases hspent : Spent policy tokenIndex
  · simp only [if_pos hspent]
  by_cases hconfident : Confident ops policy eosTokenId logits
  · simp only [if_neg hspent, if_pos hconfident]
  by_cases hrepeats : Repeats policy f.tokens
  · simp only [if_neg hspent, if_neg hconfident, if_pos hrepeats]
  simp only [if_neg hspent, if_neg hconfident, if_neg hrepeats]
  cases sequences.find? fun s => EndsIn f.tokens s with
  | none => rfl
  | some s => rfl

theorem checkStop_seen (token eosTokenId : UInt32) (logits : List F) :
    (seen policy sequences f).checkStop ops token eosTokenId logits =
      (streamDecision ops policy sequences f.count token eosTokenId logits (f.tokens ++ [token]),
        seen policy sequences ⟨f.count + 1, f.tokens ++ [token]⟩) := by
  simp only [checkStop, generatedCount_seen, updateHistory_seen, decision_seen]

end Checks

section Decisions

def Counted (f : TokenStream) : Prop :=
  f.tokens.length < 2 ^ 32 → f.count.toNat = f.tokens.length

theorem toNat_saturatingSucc {n : UInt32} (h : n.toNat + 1 < 2 ^ 32) :
    (saturatingSucc n).toNat = n.toNat + 1 := by
  have hne : n ≠ 0xFFFFFFFF := by
    rintro rfl
    exact absurd h (by decide)
  rw [saturatingSucc, if_neg hne, UInt32.toNat_add]
  exact Nat.mod_eq_of_lt h

theorem counted_preload {n : UInt32} (tokens : List UInt32) (h : n.toNat + tokens.length < 2 ^ 32) :
    (tokens.foldl (fun n _ => saturatingSucc n) n).toNat = n.toNat + tokens.length := by
  induction tokens generalizing n with
  | nil => rfl
  | cons token tokens ih =>
    rw [List.length_cons] at h
    have hsucc := toNat_saturatingSucc (n := n) (by omega)
    rw [List.foldl_cons, ih (by omega), hsucc, List.length_cons]
    omega

theorem counted_next (f : TokenStream) (call : StopCall F) (h : Counted f) :
    Counted (f.next call) := by
  cases call with
  | preload tokens =>
    intro hlen
    simp only [TokenStream.next, List.length_append] at hlen ⊢
    have hcount := h (by omega)
    rw [counted_preload tokens (by omega), hcount]
  | check token eosTokenId logits =>
    intro hlen
    simp only [TokenStream.next, List.length_append, List.length_singleton] at hlen ⊢
    have hcount := h (by omega)
    rw [UInt32.toNat_add, hcount]
    exact Nat.mod_eq_of_lt hlen
  | reset => exact fun _ => rfl

theorem streamDecision_stopSequence {tokenIndex token eosTokenId : UInt32} {logits : List F}
    {d : StopDecision}
    (h : streamDecision ops policy sequences tokenIndex token eosTokenId logits stream = some d)
    (hreason : d.reason = .stopSequence) :
    ¬ Spent policy tokenIndex ∧ ¬ Confident ops policy eosTokenId logits ∧ ¬ Repeats policy stream ∧
      ∃ s ∈ sequences, EndsIn stream s ∧ d = ⟨.stopSequence, tokenIndex, s.length - 1⟩ := by
  grind [streamDecision]

theorem streamDecision_of_endsIn {tokenIndex token eosTokenId : UInt32} {logits : List F}
    {s : List UInt32} (hspent : ¬ Spent policy tokenIndex)
    (hconfident : ¬ Confident ops policy eosTokenId logits) (hrepeats : ¬ Repeats policy stream)
    (hs : s ∈ sequences) (hends : EndsIn stream s) :
    ∃ d, streamDecision ops policy sequences tokenIndex token eosTokenId logits stream = some d ∧
      d.reason = .stopSequence := by
  rw [streamDecision, if_neg hspent, if_neg hconfident, if_neg hrepeats]
  cases hfind : sequences.find? fun s => EndsIn stream s with
  | none => exact absurd (decide_eq_true hends) (List.find?_eq_none.mp hfind s hs)
  | some first => exact ⟨_, rfl, rfl⟩

theorem trim_le {token : UInt32} {s : List UInt32} (h : EndsIn (tokens ++ [token]) s) :
    s.length - 1 ≤ tokens.length := by
  have := h.2.length_le
  rw [List.length_append, List.length_singleton] at this
  omega

/-- After any calls, the history is the end of the stream, and the next decision is the one on the
complete stream: a stop sequence is reported when the stream ends in one and no earlier rule fires,
to be trimmed but for the current token, and the guard fires on repetitions among the last tokens of
the stream. -/
theorem checkStop_on_stream (ops : SoftmaxOps F D) (policy : StopPolicySpec)
    (sequences : List (List UInt32)) (calls : List (StopCall F)) (token eosTokenId : UInt32)
    (logits : List F) :
    let c := run (StopController.call ops) (newWithStopSequences policy sequences) calls
    let f := run TokenStream.next {} calls
    let stream := f.tokens ++ [token]
    let decision := (c.checkStop ops token eosTokenId logits).1
    let after := (c.checkStop ops token eosTokenId logits).2
    c.tokenHistory = f.tokens.rtake (newWithStopSequences policy sequences).historyWindow ∧
      after.tokenHistory = stream.rtake (newWithStopSequences policy sequences).historyWindow ∧
      decision = streamDecision ops policy sequences f.count token eosTokenId logits stream ∧
      ((∃ d, decision = some d ∧ d.reason = .stopSequence) ↔
        ¬ Spent policy f.count ∧ ¬ Confident ops policy eosTokenId logits ∧
          ¬ Repeats policy stream ∧ ∃ s ∈ sequences, EndsIn stream s) ∧
      (∀ d, decision = some d → d.reason = .stopSequence →
        (∃ s ∈ sequences, EndsIn stream s ∧ d.trimTokens = s.length - 1) ∧
          d.trimTokens ≤ f.tokens.length) ∧
      (after.checkRepetitionGuard = some .repetitionGuard ↔ Repeats policy stream) ∧
      (f.tokens.length < 2 ^ 32 → f.count.toNat = f.tokens.length) := by
  intro c f stream decision after
  have hc : c = seen policy sequences f := run_seen calls
  have hcheck := @checkStop_seen F D ops policy sequences f token eosTokenId logits
  rw [← hc] at hcheck
  have hdecision : decision =
      streamDecision ops policy sequences f.count token eosTokenId logits stream :=
    congrArg Prod.fst hcheck
  have hafter : after = seen policy sequences ⟨f.count + 1, stream⟩ := congrArg Prod.snd hcheck
  refine ⟨by rw [hc, tokenHistory_seen], by rw [hafter, tokenHistory_seen], hdecision, ?_, ?_, ?_,
    ?_⟩
  · rw [hdecision]
    constructor
    · grind [streamDecision_stopSequence]
    · rintro ⟨hspent, hconfident, hrepeats, s, hs, hends⟩
      exact streamDecision_of_endsIn hspent hconfident hrepeats hs hends
  · intro d hd hreason
    rw [hdecision] at hd
    obtain ⟨-, -, -, s, hs, hends, rfl⟩ := streamDecision_stopSequence hd hreason
    exact ⟨⟨s, hs, hends, rfl⟩, trim_le hends⟩
  · rw [hafter, checkRepetitionGuard_seen]
    simp
  · exact run_invariant counted_next (fun _ => rfl) calls

end Decisions

end StopController

end AdapterOS.Worker
