import AdapterOS.Receipt.Batch

/-! What an accepted inclusion proof and a batch root say about the batch, against any choice of
siblings and of digests. -/
namespace AdapterOS.Receipt

open Library

variable {hash : List UInt8 → B3Hash} {batch batch' : ReceiptBatch}
  {proof : ReceiptInclusionProof} {d : B3Hash} {digests digests' : List B3Hash}
  {batchId batchId' createdAt createdAt' tenantId tenantId' : String}

def ReceiptBatch.height (batch : ReceiptBatch) : Nat := Nat.clog 2 batch.receiptCount

def ReceiptBatch.messages (hash : List UInt8 → B3Hash) (batch : ReceiptBatch) :
    List (List UInt8) :=
  (Merkle.treePairs (parentHash hash) batch.height batch.receiptDigests).map combined

def ReceiptInclusionProof.messages (hash : List UInt8 → B3Hash) (proof : ReceiptInclusionProof)
    (d : B3Hash) : List (List UInt8) :=
  (Merkle.walkPairs (parentHash hash) d proof.index proof.siblings).map combined

def NotInner (hash : List UInt8 → B3Hash) (digests : List B3Hash)
    (messages : List (List UInt8)) : Prop :=
  ∀ x ∈ digests, ∀ m ∈ messages, hash m ≠ x

theorem batch_top (h : batchReceipts hash batchId createdAt tenantId digests = .ok batch) :
    (Merkle.levelUp (parentHash hash))^[batch.height] batch.receiptDigests =
      [batch.merkleRoot] := by
  obtain ⟨hcount, hne⟩ := batchReceipts_count h
  obtain ⟨_, _, _, hroot⟩ := batchReceipts_ok h
  rw [ReceiptBatch.height, hcount, hroot]
  exact computeReceiptMerkleRoot_spec hne

theorem walk_of_verifyInclusion (hroot : proof.merkleRoot = batch.merkleRoot)
    (hv : verifyInclusion hash proof d) :
    Merkle.walk (parentHash hash) d proof.index proof.siblings = batch.merkleRoot := by
  rw [← hroot]
  simpa [verifyInclusion] using hv

section Inclusion

variable (h : batchReceipts hash batchId createdAt tenantId digests = .ok batch)
  (hfree : CollisionFree hash (batch.messages hash ++ proof.messages hash d))
  (hroot : proof.merkleRoot = batch.merkleRoot) (hv : verifyInclusion hash proof d)

include h hfree hroot hv

theorem mem_level_of_verifyInclusion {steps : Nat}
    (hsteps : batch.height = proof.siblings.length + steps) :
    d ∈ (Merkle.levelUp (parentHash hash))^[steps] batch.receiptDigests := by
  refine Merkle.mem_of_walk proof.index proof.siblings (collisionFree_parentHash hfree ?_) ?_
  · rw [List.map_append, ReceiptBatch.messages, ReceiptInclusionProof.messages]
    grind [Merkle.iterate_levelUp_pairs]
  · rw [walk_of_verifyInclusion hroot hv, ← Function.iterate_add_apply, ← hsteps, batch_top h]
    exact List.mem_singleton_self _

theorem mem_of_verifyInclusion (hlen : proof.siblings.length = batch.height) :
    d ∈ batch.receiptDigests := by
  have hsteps : batch.height = proof.siblings.length + 0 := hlen.symm
  have hmem := mem_level_of_verifyInclusion h hfree hroot hv hsteps
  exact hmem

theorem inner_of_short (hlen : proof.siblings.length < batch.height) :
    ∃ m ∈ batch.messages hash, hash m = d := by
  obtain ⟨steps, hsteps⟩ : ∃ steps, batch.height = proof.siblings.length + (steps + 1) :=
    ⟨batch.height - proof.siblings.length - 1, by omega⟩
  obtain ⟨p, hp, rfl⟩ := Merkle.iterate_succ_parent steps
    (mem_level_of_verifyInclusion h hfree hroot hv hsteps)
  refine ⟨combined p, List.mem_map_of_mem ?_, rfl⟩
  exact Merkle.treePairs_mono _ (by omega) _ hp

theorem leaf_inner_of_long (hlen : batch.height < proof.siblings.length) :
    ∃ m ∈ proof.messages hash d, hash m ∈ batch.receiptDigests := by
  let extra := proof.siblings.length - batch.height
  let low := proof.siblings.take extra
  let high := proof.siblings.drop extra
  have hsplit : proof.siblings = low ++ high := (List.take_append_drop extra _).symm
  have hhigh : high.length = batch.height := by
    simp only [high, extra, List.length_drop]
    omega
  have hlow : low ≠ [] := by
    apply List.ne_nil_of_length_pos
    simp only [low, extra, List.length_take]
    omega
  -- the upper part of the proof is an accepted proof for the node where the lower part ends
  let upper : ReceiptInclusionProof :=
    { proof with index := proof.index / 2 ^ low.length, siblings := high }
  let node := Merkle.walk (parentHash hash) d proof.index low
  have hmessages : proof.messages hash d =
      (Merkle.walkPairs (parentHash hash) d proof.index low).map combined ++
        upper.messages hash node := by
    rw [ReceiptInclusionProof.messages, hsplit, Merkle.walkPairs_append, List.map_append]
    rfl
  have hupper : verifyInclusion hash upper node := by grind [Merkle.walk_append, verifyInclusion]
  have hmem : node ∈ batch.receiptDigests := by
    have huroot : upper.merkleRoot = batch.merkleRoot := hroot
    refine mem_of_verifyInclusion h (hfree.mono ?_) huroot hupper hhigh
    grind
  obtain ⟨p, hp, hw⟩ := Merkle.walk_eq_parent (parentHash hash) d proof.index hlow
  refine ⟨combined p, ?_, ?_⟩
  · rw [hmessages]
    exact List.mem_append_left _ (List.mem_map_of_mem hp)
  · change parentHash hash p ∈ batch.receiptDigests
    rw [← hw]
    exact hmem

end Inclusion

theorem digests_eq_of_root (h : batchReceipts hash batchId createdAt tenantId digests = .ok batch)
    (h' : batchReceipts hash batchId' createdAt' tenantId' digests' = .ok batch')
    (hfree : CollisionFree hash (batch.messages hash ++ batch'.messages hash))
    (hroot : batch.merkleRoot = batch'.merkleRoot)
    (hcount : batch.receiptCount = batch'.receiptCount) :
    batch.receiptDigests = batch'.receiptDigests := by
  have hheight : batch.height = batch'.height := by
    rw [ReceiptBatch.height, ReceiptBatch.height, hcount]
  refine Merkle.eq_of_iterate_eq batch.height ?_ (collisionFree_parentHash hfree ?_) ?_
  · rw [← (batchReceipts_count h).1, ← (batchReceipts_count h').1, hcount]
  · rw [List.map_append]
    nth_rewrite 2 [hheight]
    exact List.Subset.refl _
  · rw [batch_top h, hheight, batch_top h', hroot]

/-- An accepted proof is about a digest of the batch exactly if it is as long as the tree is high
(digests that are inner nodes themselves apart), and batches with one root have the same digests
exactly if they have the same size. -/
theorem receiptBatch_sound_iff
    (h : batchReceipts hash batchId createdAt tenantId digests = .ok batch)
    (h' : batchReceipts hash batchId' createdAt' tenantId' digests' = .ok batch')
    (hfree : CollisionFree hash
      (batch.messages hash ++ batch'.messages hash ++ proof.messages hash d)) :
    (proof.merkleRoot = batch.merkleRoot → verifyInclusion hash proof d →
      (proof.siblings.length = batch.height → d ∈ batch.receiptDigests) ∧
      (NotInner hash batch.receiptDigests (batch.messages hash ++ proof.messages hash d) →
        d ∈ batch.receiptDigests → proof.siblings.length = batch.height)) ∧
    (batch.merkleRoot = batch'.merkleRoot → (batch.receiptDigests.Perm batch'.receiptDigests ↔
        batch.receiptCount = batch'.receiptCount)) := by
  have hproof : CollisionFree hash (batch.messages hash ++ proof.messages hash d) := by
    refine hfree.mono ?_
    intro m hm
    simp only [List.mem_append] at hm ⊢
    tauto
  refine ⟨?_, ?_⟩
  · intro hroot hv
    refine ⟨mem_of_verifyInclusion h hproof hroot hv, ?_⟩
    intro hleaf hd
    rcases Nat.lt_trichotomy proof.siblings.length batch.height with hlt | heq | hgt
    · obtain ⟨m, hm, hmd⟩ := inner_of_short h hproof hroot hv hlt
      exact absurd hmd (hleaf d hd m (List.mem_append_left _ hm))
    · exact heq
    · obtain ⟨m, hm, hmd⟩ := leaf_inner_of_long h hproof hroot hv hgt
      exact absurd rfl (hleaf _ hmd m (List.mem_append_right _ hm))
  · intro hroot
    constructor
    · intro hperm
      rw [(batchReceipts_count h).1, (batchReceipts_count h').1, hperm.length_eq]
    · intro hcount
      rw [digests_eq_of_root h h' (hfree.mono (List.subset_append_left _ _)) hroot hcount]

def smallBatch (digests : List B3Hash) : ReceiptBatch :=
  ⟨"run", "tenant", digests, computeReceiptMerkleRoot digitHash digests, "now", digests.length⟩

set_option maxRecDepth 1000

theorem receiptBatch_sound_two :
    ∃ proof, generateInclusionProof digitHash (smallBatch [1, 2]) 1 = .ok proof ∧
      verifyInclusion digitHash proof 2 ∧ 2 ∈ (smallBatch [1, 2]).receiptDigests := by
  have hbatch : batchReceipts digitHash "run" "now" "tenant" [2, 1] = .ok (smallBatch [1, 2]) := by
    decide
  have hfree : CollisionFree digitHash ((smallBatch [1, 2]).messages digitHash ++
      (smallBatch [1, 2]).messages digitHash ++ ReceiptInclusionProof.messages digitHash
        ⟨1, [1], (smallBatch [1, 2]).merkleRoot, "receipt-1", "run"⟩ 2) := by
    decide
  refine ⟨_, rfl, by decide, ?_⟩
  exact ((receiptBatch_sound_iff hbatch hbatch hfree).1 rfl (by decide)).1 (by decide)

/-- The proof made for a position of a created batch is accepted for the digest there, whatever
the hash. -/
theorem verifyInclusion_generateInclusionProof (hash : List UInt8 → B3Hash)
    (batchId createdAt tenantId : String) {digests : List B3Hash} {i : Nat}
    (hi : i < digests.length) :
    ∃ batch proof d, batchReceipts hash batchId createdAt tenantId digests = .ok batch ∧
      batch.receiptDigests = digests.insertionSort (fun a b => B3Hash.toHex a ≤ B3Hash.toHex b) ∧
      generateInclusionProof hash batch i = .ok proof ∧ batch.receiptDigests[i]? = some d ∧
      verifyInclusion hash proof d := by
  have hne : digests.isEmpty = false := by
    cases digests with
    | nil => cases hi
    | cons d rest => rfl
  let batch : ReceiptBatch :=
    let sorted := digests.insertionSort fun a b => B3Hash.toHex a ≤ B3Hash.toHex b
    ⟨batchId, tenantId, sorted, computeReceiptMerkleRoot hash sorted, createdAt, digests.length⟩
  have hbatch : batchReceipts hash batchId createdAt tenantId digests = .ok batch := by
    rw [batchReceipts, hne]
    rfl
  have hlen : i < batch.receiptDigests.length := by
    rwa [(batchReceipts_ok hbatch).2.1.length_eq]
  have hd : batch.receiptDigests[i]? = some batch.receiptDigests[i] :=
    List.getElem?_eq_getElem hlen
  let proof : ReceiptInclusionProof :=
    ⟨i, collectSiblings hash batch.receiptDigests.length batch.receiptDigests i, batch.merkleRoot,
      s!"receipt-{i}", batch.batchId⟩
  have hproof : generateInclusionProof hash batch i = .ok proof := by
    rw [generateInclusionProof, generateInclusionProofWithTraceId, if_neg (by omega)]
  grind [verifyInclusion, walk_computeReceiptMerkleRoot]

theorem verifyInclusion_generateInclusionProof_three :
    2 < 3 ∧ ∃ batch proof d, batchReceipts digitHash "run" "now" "tenant" [3, 1, 2] = .ok batch ∧
      batch.receiptDigests = [3, 1, 2].insertionSort (fun a b => B3Hash.toHex a ≤ B3Hash.toHex b) ∧
      generateInclusionProof digitHash batch 2 = .ok proof ∧ batch.receiptDigests[2]? = some d ∧
      verifyInclusion digitHash proof d :=
  ⟨by decide, verifyInclusion_generateInclusionProof digitHash "run" "now" "tenant" (by decide)⟩

/-- The root itself is accepted with an empty proof, and a repeated last digest keeps the root. -/
theorem receiptBatch_forged :
    (∃ batch proof, batchReceipts digitHash "run" "now" "tenant" [1, 2] = .ok batch ∧
      CollisionFree digitHash
        (batch.messages digitHash ++ proof.messages digitHash batch.merkleRoot) ∧
      proof.merkleRoot = batch.merkleRoot ∧ verifyInclusion digitHash proof batch.merkleRoot ∧
      batch.merkleRoot ∉ batch.receiptDigests) ∧
    (∃ batch batch', batchReceipts digitHash "run" "now" "tenant" [1, 2, 3] = .ok batch ∧
      batchReceipts digitHash "run" "now" "tenant" [1, 2, 3, 3] = .ok batch' ∧
      CollisionFree digitHash (batch.messages digitHash ++ batch'.messages digitHash) ∧
      batch.merkleRoot = batch'.merkleRoot ∧
      ¬ batch.receiptDigests.Perm batch'.receiptDigests) := by
  constructor
  · refine ⟨smallBatch [1, 2], ⟨0, [], (smallBatch [1, 2]).merkleRoot, "trace", "run"⟩, ?_⟩
    decide +kernel
  · refine ⟨smallBatch [1, 2, 3], smallBatch [1, 2, 3, 3], ?_⟩
    decide +kernel

end AdapterOS.Receipt
