import AdapterOS.Core.Basic
import AdapterOS.Library.Merkle

/-! Batches of receipts under one Merkle root, and inclusion proofs for them. -/
namespace AdapterOS.Receipt

open Library

structure ReceiptBatch where
  batchId : String
  tenantId : String
  receiptDigests : List B3Hash
  merkleRoot : B3Hash
  createdAt : String
  receiptCount : Nat
  deriving DecidableEq

structure ReceiptInclusionProof where
  index : Nat
  siblings : List B3Hash
  merkleRoot : B3Hash
  traceId : String
  batchId : String

variable (hash : List UInt8 → B3Hash)

def combined (p : B3Hash × B3Hash) : List UInt8 := B3Hash.asBytes p.1 ++ B3Hash.asBytes p.2

def parentHash (p : B3Hash × B3Hash) : B3Hash := hash (combined p)

def computeReceiptMerkleRoot (digests : List B3Hash) : B3Hash :=
  match Merkle.climb (parentHash hash) digests.length digests with
  | [] => hash (utf8 "empty_receipt_batch")
  | root :: _ => root

/-- The batch identifier and the time come from the environment. -/
def batchReceipts (batchId createdAt tenantId : String) (receiptDigests : List B3Hash) :
    Except AosError ReceiptBatch :=
  if receiptDigests.isEmpty then .error (.config "Cannot create batch from empty receipt list")
  else
    let sortedDigests := receiptDigests.insertionSort fun a b => B3Hash.toHex a ≤ B3Hash.toHex b
    .ok {
      batchId, tenantId
      receiptDigests := sortedDigests
      merkleRoot := computeReceiptMerkleRoot hash sortedDigests
      createdAt
      receiptCount := receiptDigests.length }

/-- Siblings on the way up; the node without a neighbour is its own. -/
def collectSiblings : Nat → List B3Hash → Nat → List B3Hash
  | 0, _, _ => []
  | fuel + 1, level, index =>
    if level.length > 1 then
      let siblingIndex :=
        if index % 2 = 0 then (if index + 1 < level.length then index + 1 else index)
        else index - 1
      level.getD siblingIndex 0 ::
        collectSiblings fuel (Merkle.levelUp (parentHash hash) level) (index / 2)
    else []

def generateInclusionProofWithTraceId (batch : ReceiptBatch) (index : Nat) (traceId : String) :
    Except AosError ReceiptInclusionProof :=
  let count := batch.receiptDigests.length
  if index ≥ count then
    .error (.config s!"Receipt index {index} out of bounds (batch has {count} receipts)")
  else
    .ok {
      index
      siblings := collectSiblings hash count batch.receiptDigests index
      merkleRoot := batch.merkleRoot
      traceId
      batchId := batch.batchId }

def generateInclusionProof (batch : ReceiptBatch) (index : Nat) :
    Except AosError ReceiptInclusionProof :=
  generateInclusionProofWithTraceId hash batch index s!"receipt-{index}"

def verifyInclusion (proof : ReceiptInclusionProof) (receiptDigest : B3Hash) : Bool :=
  Merkle.walk (parentHash hash) receiptDigest proof.index proof.siblings = proof.merkleRoot

def verifyBatchRoot (batch : ReceiptBatch) : Bool :=
  computeReceiptMerkleRoot hash batch.receiptDigests = batch.merkleRoot

section Honest

variable {hash} {level : List B3Hash} {index fuel : Nat} {batchId createdAt tenantId : String}
  {digests : List B3Hash} {batch : ReceiptBatch}

theorem combined_inj {p q : B3Hash × B3Hash} : combined p = combined q ↔ p = q := by
  refine ⟨?_, fun h => h ▸ rfl⟩
  intro h
  obtain ⟨h1, h2⟩ := List.append_inj h (by simp)
  exact Prod.ext (B3Hash.asBytes_inj.mp h1) (B3Hash.asBytes_inj.mp h2)

theorem collisionFree_parentHash {messages : List (List UInt8)} {pairs : List (B3Hash × B3Hash)}
    (hfree : CollisionFree hash messages) (hsub : pairs.map combined ⊆ messages) :
    CollisionFree (parentHash hash) pairs := by
  intro p hp q hq h
  have hm := hfree (hsub (List.mem_map_of_mem hp)) (hsub (List.mem_map_of_mem hq)) h
  exact combined_inj.mp hm

theorem batchReceipts_ok (h : batchReceipts hash batchId createdAt tenantId digests = .ok batch) :
    digests ≠ [] ∧ batch.receiptDigests.Perm digests ∧ batch.receiptCount = digests.length ∧
      batch.merkleRoot = computeReceiptMerkleRoot hash batch.receiptDigests := by
  simp only [batchReceipts] at h
  split at h
  · cases h
  · rename_i hne
    cases h
    exact ⟨by simpa using hne, List.perm_insertionSort _ digests, rfl, rfl⟩

theorem batchReceipts_count (h : batchReceipts hash batchId createdAt tenantId digests = .ok batch) :
    batch.receiptCount = batch.receiptDigests.length ∧ batch.receiptDigests ≠ [] := by
  obtain ⟨hne, hperm, hcount, _⟩ := batchReceipts_ok h
  refine ⟨hcount.trans hperm.length_eq.symm, ?_⟩
  rintro hnil
  rw [hnil] at hperm
  exact hne hperm.symm.eq_nil

theorem computeReceiptMerkleRoot_spec (hne : digests ≠ []) :
    (Merkle.levelUp (parentHash hash))^[Nat.clog 2 digests.length] digests =
      [computeReceiptMerkleRoot hash digests] := by
  have hclimb := Merkle.climb_eq_iterate (parentHash hash) (Nat.le_succ digests.length)
  have hone := Merkle.iterate_levelUp_length (parentHash hash) hne (Nat.le_pow_clog (by omega) _)
  grind [computeReceiptMerkleRoot]

theorem eq_singleton_of_getElem? {node : B3Hash} (hnode : level[index]? = some node)
    (hlen : level.length ≤ 1) : level = [node] := by
  obtain ⟨hlt, hget⟩ := List.getElem?_eq_some_iff.mp hnode
  obtain ⟨only, rfl⟩ := List.length_eq_one_iff.mp (show level.length = 1 by omega)
  obtain rfl : index = 0 := by simpa using hlt
  rw [← hget]
  rfl

theorem walk_collectSiblings {node : B3Hash} (hfuel : level.length ≤ fuel + 1)
    (hnode : level[index]? = some node) :
    Merkle.climb (parentHash hash) fuel level =
      [Merkle.walk (parentHash hash) node index (collectSiblings hash fuel level index)] := by
  induction fuel generalizing level index node with
  | zero => exact eq_singleton_of_getElem? hnode hfuel
  | succ fuel ih =>
    by_cases hlen : level.length > 1
    · have hnext := Merkle.neighbour_lt (List.getElem?_eq_some_iff.mp hnode).1
      have hsibling : level[Merkle.neighbour level.length index]? =
          some (level.getD (Merkle.neighbour level.length index) 0) := by
        simp [hnext]
      have hparent := Merkle.getElem?_levelUp (parentHash hash) hnode hsibling
      simp only [Merkle.climb, collectSiblings, if_pos hlen]
      exact ih (by rw [Merkle.length_levelUp]; omega) hparent
    · simp only [Merkle.climb, collectSiblings, if_neg hlen, Merkle.walk]
      exact eq_singleton_of_getElem? hnode (by omega)

theorem walk_computeReceiptMerkleRoot {d : B3Hash} (hd : digests[index]? = some d) :
    Merkle.walk (parentHash hash) d index (collectSiblings hash digests.length digests index) =
      computeReceiptMerkleRoot hash digests := by
  simp [computeReceiptMerkleRoot, walk_collectSiblings (Nat.le_succ digests.length) hd]

end Honest

end AdapterOS.Receipt
