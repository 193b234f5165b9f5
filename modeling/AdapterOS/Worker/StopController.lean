import AdapterOS.Core.Basic
import AdapterOS.Library.Run
import AdapterOS.Library.Window

/-! The stop controller of a generation: one bounded history of tokens for the repetition guard and
for the stop sequences. -/
namespace AdapterOS.Worker

open Library

/-- The policy fields that the controller reads. -/
structure StopPolicySpec where
  outputMaxTokens : UInt32
  eosTokenId : Option UInt32 := none
  completionThresholdQ15 : Int16 := 24576
  repetitionNgram : UInt8 := 3
  repetitionWindow : UInt16 := 32
  repetitionThreshold : UInt8 := 1
  deriving DecidableEq

inductive StopReasonCode where
  | length
  | budgetMax
  | completionConfident
  | repetitionGuard
  | stopSequence
  | cancelled
  | systemError
  deriving DecidableEq

structure StopDecision where
  reason : StopReasonCode
  tokenIndex : UInt32
  trimTokens : Nat
  deriving DecidableEq

/-- The operations on single and double floats, with the quantisation to Q15. -/
structure SoftmaxOps (F D : Type*) where
  zero : F
  sub : F → F → F
  /-- The comparison finds its left side greater; it does not if one side is not a number. -/
  greater : F → F → Bool
  widen : F → D
  narrow : D → F
  zeroD : D
  add : D → D → D
  div : D → D → D
  exp : D → D
  toQ15 : F → Int16

structure StopController where
  policy : StopPolicySpec
  generatedCount : UInt32
  tokenHistory : List UInt32
  stopSequencesTokens : List (List UInt32)
  maxStopSequenceLen : Nat
  historyWindow : Nat
  deriving DecidableEq

namespace StopController

def newWithStopSequences (policy : StopPolicySpec) (stopSequencesTokens : List (List UInt32)) :
    StopController :=
  let maxStopSequenceLen := (stopSequencesTokens.map List.length).max?.getD 0
  ⟨policy, 0, [], stopSequencesTokens, maxStopSequenceLen,
    max policy.repetitionWindow.toNat maxStopSequenceLen⟩

section History

def popFront (window : Nat) : List UInt32 → List UInt32
  | [] => []
  | token :: tokens =>
    if window < (token :: tokens).length then popFront window tokens else token :: tokens

def updateHistory (c : StopController) (token : UInt32) : StopController :=
  { c with tokenHistory := popFront c.historyWindow (c.tokenHistory ++ [token]) }

def saturatingSucc (n : UInt32) : UInt32 := if n = 0xFFFFFFFF then n else n + 1

def preloadTokens (c : StopController) (tokens : List UInt32) : StopController :=
  tokens.foldl (fun c token =>
    { c with generatedCount := saturatingSucc c.generatedCount }.updateHistory token) c

def reset (c : StopController) : StopController :=
  { c with generatedCount := 0, tokenHistory := [] }

end History

section Checks

variable {F D : Type*} (ops : SoftmaxOps F D) (c : StopController)

def checkBudgetMax (tokenIndex : UInt32) : Option StopReasonCode :=
  if tokenIndex ≥ c.policy.outputMaxTokens then some .budgetMax else none

def maxLogit : List F → F
  | [] => ops.zero
  | l :: logits => logits.foldl (fun m l => if ops.greater m l then m else l) l

def computeEosProbability (logits : List F) (eosLogit : F) : F :=
  let weight (l : F) : D := ops.exp (ops.widen (ops.sub l (maxLogit ops logits)))
  let sumExp := logits.foldl (fun sum l => ops.add sum (weight l)) ops.zeroD
  ops.narrow (ops.div (weight eosLogit) sumExp)

/-- An end token outside the vocabulary is never probable. -/
def checkCompletionConfident (logits : List F) (eosTokenId : UInt32) : Option StopReasonCode :=
  match logits[(c.policy.eosTokenId.getD eosTokenId).toNat]? with
  | none => none
  | some eosLogit =>
    if ops.toQ15 (computeEosProbability ops logits eosLogit) ≥ c.policy.completionThresholdQ15 then
      some .completionConfident
    else none

def maxCount (window : List UInt32) (ngramSize : Nat) : Nat :=
  ((HashMap.tallyOf (factors ngramSize window)).items.map Prod.snd).max?.getD 0

def checkRepetitionGuard : Option StopReasonCode :=
  let minNgram := c.policy.repetitionNgram.toNat
  let window := c.tokenHistory.drop (c.tokenHistory.length - c.policy.repetitionWindow.toNat)
  if window.length < minNgram * 2 then none
  else
    let maxNgram := window.length / 2
    -- The sizes `minNgram..=maxNgram`.
    if (List.range' minNgram (maxNgram + 1 - minNgram)).any fun ngramSize =>
        maxCount window ngramSize > c.policy.repetitionThreshold.toNat then
      some .repetitionGuard
    else none

def matchesTail (history sequence : List UInt32) : Bool :=
  ((history.drop (history.length - sequence.length)).zip sequence).all fun (a, b) => a == b

def checkStopSequences : Option Nat :=
  if c.stopSequencesTokens.isEmpty || c.maxStopSequenceLen == 0 then none
  else
    c.stopSequencesTokens.findSome? fun sequence =>
      if sequence.length == 0 || c.tokenHistory.length < sequence.length then none
      else if matchesTail c.tokenHistory sequence then some (sequence.length - 1)
      else none

/-- The rules in their order, on a history that ends in the current token. -/
def decision (tokenIndex token eosTokenId : UInt32) (logits : List F) : Option StopDecision :=
  match c.checkBudgetMax tokenIndex with
  | some reason => some ⟨reason, tokenIndex, 0⟩
  | none =>
    match c.checkCompletionConfident ops logits eosTokenId with
    | some reason => some ⟨reason, tokenIndex, 0⟩
    | none =>
      match c.checkRepetitionGuard with
      | some reason => some ⟨reason, tokenIndex, 0⟩
      | none =>
        match c.checkStopSequences with
        | some trimTokens => some ⟨.stopSequence, tokenIndex, trimTokens⟩
        | none =>
          if token = c.policy.eosTokenId.getD eosTokenId then some ⟨.length, tokenIndex, 0⟩
          else none

/-- The counter wraps around. -/
def checkStop (token eosTokenId : UInt32) (logits : List F) :
    Option StopDecision × StopController :=
  let updated := { c with generatedCount := c.generatedCount + 1 }.updateHistory token
  (updated.decision ops c.generatedCount token eosTokenId logits, updated)

end Checks

end StopController

end AdapterOS.Worker
