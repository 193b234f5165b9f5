import AdapterOS.Core.Hex
import AdapterOS.Library.Merkle

/-! Merkle roots and inclusion proofs of event lists. The root pads the levels of a tree, the proof
splits the list in halves, and the verifier follows the bits of the index. -/
namespace AdapterOS.Telemetry.MerkleTree

open Library

inductive MerkleNode where
  | leaf (hash : B3Hash)
  | node (hash : B3Hash) (left right : MerkleNode)

def MerkleNode.hash : MerkleNode → B3Hash
  | leaf h | node h _ _ => h

structure MerkleProof where
  index : Nat
  siblings : List B3Hash
  root : B3Hash

variable (hash : List UInt8 → B3Hash)

def parent (p : B3Hash × B3Hash) : B3Hash := hash (B3Hash.asBytes p.1 ++ B3Hash.asBytes p.2)

def computeMerkleRootFromHashes (hashes : List B3Hash) : B3Hash :=
  if hashes.isEmpty then hash (utf8 "empty_merkle_tree")
  else (Merkle.climb (parent hash) hashes.length hashes).headD 0

/-- The recursion halves its list, so it ends within as many rounds as there are hashes. -/
def buildTreeRecursive : Nat → List B3Hash → MerkleNode
  | 0, hashes => .leaf (hashes.headD 0)
  | fuel + 1, hashes =>
    if hashes.length = 1 then .leaf (hashes.headD 0)
    else
      let mid := (hashes.length + 1) / 2
      let left := buildTreeRecursive fuel (hashes.take mid)
      let right := buildTreeRecursive fuel
        (if mid < hashes.length then hashes.drop mid else (hashes.drop (mid - 1)).take 1)
      .node (parent hash (left.hash, right.hash)) left right

/-- The siblings from the root downwards. -/
def collectSiblings : MerkleNode → Nat → Nat → List B3Hash
  | .leaf _, _, _ => []
  | .node _ left right, targetIndex, totalLeaves =>
    let mid := (totalLeaves + 1) / 2
    if targetIndex < mid then right.hash :: collectSiblings left targetIndex mid
    else left.hash :: collectSiblings right (targetIndex - mid) (totalLeaves - mid)

def verifyProof (leafHash : B3Hash) (proof : MerkleProof) : Bool :=
  Merkle.walk (parent hash) leafHash proof.index proof.siblings = proof.root

variable {T : Type} (toVec : T → Except String (List UInt8))

def leafHash (event : T) : Except AosError B3Hash :=
  match toVec event with
  | .error e => .error (.telemetry ("Failed to canonicalize event: " ++ e))
  | .ok canonicalBytes => .ok (hash canonicalBytes)

def computeMerkleRoot (events : List T) : Except AosError B3Hash :=
  if events.isEmpty then .ok (hash (utf8 "empty_merkle_tree"))
  else do
    let leaves ← events.mapM (leafHash hash toVec)
    return (Merkle.climb (parent hash) leaves.length leaves).headD 0

def buildMerkleTree (events : List T) : Except AosError (Option MerkleNode) :=
  if events.isEmpty then .ok none
  else do
    let leaves ← events.mapM (leafHash hash toVec)
    return some (buildTreeRecursive hash leaves.length leaves)

def generateProof (events : List T) (index : Nat) : Except AosError MerkleProof :=
  if index ≥ events.length then
    .error (.telemetry ("Event index " ++ toString index ++ " out of bounds (" ++
      toString events.length ++ ")"))
  else do
    match ← buildMerkleTree hash toVec events with
    | none => throw (.telemetry "Cannot generate proof for empty tree")
    | some tree =>
      return ⟨index, (collectSiblings tree index events.length).reverse, tree.hash⟩

/-- The proof of an event whose list serializes is accepted, and carries the root of the list. -/
def Complete (events : List T) (index : Nat) : Prop :=
  ∀ leaves leaf, events.mapM (leafHash hash toVec) = .ok leaves → leaves[index]? = some leaf →
    ∃ proof, generateProof hash toVec events index = .ok proof ∧
      verifyProof hash leaf proof = true ∧ computeMerkleRoot hash toVec events = .ok proof.root

variable {hash} {toVec} {leaves : List B3Hash} {k fuel : Nat}

theorem length_leaves {events : List T} (h : events.mapM (leafHash hash toVec) = .ok leaves) :
    leaves.length = events.length := by
  induction events generalizing leaves with
  | nil =>
    cases h
    rfl
  | cons e events ih =>
    rw [List.mapM_cons] at h
    obtain ⟨_, _, h⟩ := bind_eq_ok.mp h
    obtain ⟨rest, hrest, h⟩ := bind_eq_ok.mp h
    cases h
    rw [List.length_cons, List.length_cons, ih hrest]

theorem complete_iff {events : List T} {index : Nat} (hindex : index < events.length)
    (hleaves : events.mapM (leafHash hash toVec) = .ok leaves) {leaf : B3Hash}
    (hleaf : leaves[index]? = some leaf) :
    Complete hash toVec events index ↔ Merkle.walk (parent hash) leaf index
          (collectSiblings (buildTreeRecursive hash leaves.length leaves) index
            events.length).reverse = (buildTreeRecursive hash leaves.length leaves).hash ∧
        (Merkle.climb (parent hash) leaves.length leaves).headD 0 =
          (buildTreeRecursive hash leaves.length leaves).hash := by
  have hne : events.isEmpty = false := by
    cases events with
    | nil => cases hindex
    | cons => rfl
  have hproof : generateProof hash toVec events index = .ok ⟨index, (collectSiblings
      (buildTreeRecursive hash leaves.length leaves) index events.length).reverse,
        (buildTreeRecursive hash leaves.length leaves).hash⟩ := by
    rw [generateProof, if_neg (Nat.not_le.mpr hindex), buildMerkleTree, hne, hleaves]
    rfl
  have hroot : computeMerkleRoot hash toVec events =
      .ok ((Merkle.climb (parent hash) leaves.length leaves).headD 0) := by
    rw [computeMerkleRoot, hne, hleaves]
    rfl
  simp only [Complete, hleaves, hproof, hroot, verifyProof, Except.ok.injEq, decide_eq_true_eq]
  grind

section PowersOfTwo

theorem levelUp_append {level other : List B3Hash} (h : level.length % 2 = 0) :
    Merkle.levelUp (parent hash) (level ++ other) =
      Merkle.levelUp (parent hash) level ++ Merkle.levelUp (parent hash) other := by
  induction level using Merkle.pairs.induct with
  | case1 left right rest ih => grind [Merkle.levelUp, Merkle.pairs]
  | case2 left => cases h
  | case3 => rfl

theorem iterate_append {level other : List B3Hash} (h : level.length = 2 ^ k) :
    (Merkle.levelUp (parent hash))^[k] (level ++ other) =
      (Merkle.levelUp (parent hash))^[k] level ++ (Merkle.levelUp (parent hash))^[k] other := by
  induction k generalizing level other with
  | zero => rfl
  | succ k ih => grind [Function.iterate_succ_apply, levelUp_append, Merkle.length_levelUp]

theorem walk_add (node : B3Hash) (index c : Nat) (siblings : List B3Hash) :
    Merkle.walk (parent hash) node (index + 2 ^ siblings.length * c) siblings =
      Merkle.walk (parent hash) node index siblings := by
  induction siblings generalizing node index with
  | nil => rfl
  | cons sibling siblings ih =>
    have hpow : 2 ^ (siblings.length + 1) * c = 2 * (2 ^ siblings.length * c) := by
      rw [Nat.pow_succ', Nat.mul_assoc]
    grind [Merkle.walk, Merkle.join]

theorem tree_of_pow (hlen : leaves.length = 2 ^ k) (hfuel : 2 ^ k ≤ fuel) :
    (Merkle.levelUp (parent hash))^[k] leaves = [(buildTreeRecursive hash fuel leaves).hash] ∧
      ∀ i leaf, leaves[i]? = some leaf →
        (collectSiblings (buildTreeRecursive hash fuel leaves) i (2 ^ k)).length = k ∧
        Merkle.walk (parent hash) leaf i
            (collectSiblings (buildTreeRecursive hash fuel leaves) i (2 ^ k)).reverse =
          (buildTreeRecursive hash fuel leaves).hash := by
  induction k generalizing leaves fuel with
  | zero =>
    obtain ⟨x, rfl⟩ := List.length_eq_one_iff.mp hlen
    obtain ⟨fuel, rfl⟩ : ∃ f, fuel = f + 1 := ⟨fuel - 1, by omega⟩
    refine ⟨rfl, fun i leaf hleaf => ⟨rfl, ?_⟩⟩
    obtain ⟨rfl, rfl⟩ : i = 0 ∧ leaf = x := by grind
    rfl
  | succ k ih =>
    have hpos : 2 ^ k < 2 ^ (k + 1) := Nat.pow_lt_pow_succ Nat.one_lt_two
    obtain ⟨fuel, rfl⟩ : ∃ f, fuel = f + 1 := ⟨fuel - 1, by omega⟩
    have hmid : (2 ^ (k + 1) + 1) / 2 = 2 ^ k := by omega
    have hleft : (leaves.take (2 ^ k)).length = 2 ^ k := by
      rw [List.length_take]
      omega
    have hright : (leaves.drop (2 ^ k)).length = 2 ^ k := by
      rw [List.length_drop]
      omega
    obtain ⟨hl, hwalkl⟩ := ih hleft (show 2 ^ k ≤ fuel by omega)
    obtain ⟨hr, hwalkr⟩ := ih hright (show 2 ^ k ≤ fuel by omega)
    have hbuild : buildTreeRecursive hash (fuel + 1) leaves =
        .node (parent hash ((buildTreeRecursive hash fuel (leaves.take (2 ^ k))).hash,
          (buildTreeRecursive hash fuel (leaves.drop (2 ^ k))).hash))
          (buildTreeRecursive hash fuel (leaves.take (2 ^ k)))
          (buildTreeRecursive hash fuel (leaves.drop (2 ^ k))) := by
      rw [buildTreeRecursive, if_neg (by omega)]
      simp only [hlen, hmid, if_pos hpos]
    rw [hbuild]
    refine ⟨?_, fun i leaf hleaf => ?_⟩
    · rw [Function.iterate_succ_apply', ← List.take_append_drop (2 ^ k) leaves,
        iterate_append hleft, hl, hr]
      simp only [List.take_append_drop]
      rfl
    · simp only [collectSiblings, hmid]
      split
      · rename_i hi
        obtain ⟨hdepth, hwalk⟩ := hwalkl i leaf (by rw [List.getElem?_take_of_lt hi, hleaf])
        refine ⟨by rw [List.length_cons, hdepth], ?_⟩
        rw [List.reverse_cons, Merkle.walk_append, hwalk, List.length_reverse, hdepth,
          Nat.div_eq_of_lt hi]
        rfl
      · rename_i hi
        have hsize : 2 ^ (k + 1) - 2 ^ k = 2 ^ k := by omega
        have hlt := (List.getElem?_eq_some_iff.mp hleaf).1
        obtain ⟨j, rfl⟩ := Nat.exists_eq_add_of_le (Nat.not_lt.mp hi)
        rw [Nat.add_sub_cancel_left, hsize]
        obtain ⟨hdepth, hwalk⟩ := hwalkr j leaf (by rw [List.getElem?_drop, hleaf])
        refine ⟨by rw [List.length_cons, hdepth], ?_⟩
        have hindex : (2 ^ k + j) / 2 ^ k = 1 := by
          rw [Nat.add_div_left _ (Nat.two_pow_pos k), Nat.div_eq_of_lt (by omega)]
        have hsame := @walk_add hash leaf j 1
          (collectSiblings (buildTreeRecursive hash fuel (leaves.drop (2 ^ k))) j (2 ^ k)).reverse
        rw [List.length_reverse, hdepth, Nat.mul_one, Nat.add_comm j] at hsame
        rw [List.reverse_cons, Merkle.walk_append, hsame, hwalk, List.length_reverse, hdepth, hindex]
        rfl

end PowersOfTwo

section OtherLengths

def depthHash (message : List UInt8) : B3Hash :=
  if message.length = 64 then B3Hash.ofBytes (message.drop 32) + 1 else 0

theorem parent_depthHash (p : B3Hash × B3Hash) : parent depthHash p = p.2 + 1 := by
  rw [parent, depthHash, if_pos (by simp), List.drop_left' (B3Hash.length_asBytes _),
    B3Hash.ofBytes_asBytes]

theorem levelUp_replicate (n : Nat) (d : B3Hash) :
    Merkle.levelUp (parent depthHash) (.replicate n d) = .replicate ((n + 1) / 2) (d + 1) := by
  rw [List.eq_replicate_iff, Merkle.length_levelUp, List.length_replicate]
  refine ⟨rfl, fun x hx => ?_⟩
  obtain ⟨p, hp, rfl⟩ := List.mem_map.mp hx
  rw [parent_depthHash, List.eq_of_mem_replicate (Merkle.mem_of_mem_pairs hp).2]

theorem climb_replicate {n : Nat} (hn : 0 < n) :
    (Merkle.climb (parent depthHash) n (.replicate n 0)).headD 0 = .ofNat 256 (Nat.clog 2 n) := by
  have hiterate : ∀ k d, ∃ m, (Merkle.levelUp (parent depthHash))^[k] (.replicate n d) =
      .replicate m (d + .ofNat 256 k) := by
    intro k d
    induction k with
    | zero => exact ⟨n, by simp⟩
    | succ k ih =>
      grind [Function.iterate_succ_apply', levelUp_replicate, BitVec.ofNat_add, BitVec.add_assoc]
  obtain ⟨m, hm⟩ := hiterate (Nat.clog 2 n) 0
  have hlen : (List.replicate n (0 : B3Hash)).length ≤ n + 1 := by simp
  have hpow : (List.replicate n (0 : B3Hash)).length ≤ 2 ^ Nat.clog 2 n := by
    simpa using Nat.le_pow_clog Nat.one_lt_two n
  have hclimb := Merkle.climb_eq_iterate (parent depthHash) hlen
  have hone := Merkle.iterate_levelUp_length (parent depthHash) (by simpa using hn.ne') hpow
  grind

theorem build_replicate {n : Nat} (hn : 0 < n) (hfuel : n ≤ fuel) :
    (buildTreeRecursive depthHash fuel (.replicate n 0)).hash = .ofNat 256 (Nat.log 2 n) := by
  induction fuel generalizing n with
  | zero => omega
  | succ fuel ih =>
    rw [buildTreeRecursive]
    split
    · rename_i hone
      rw [List.length_replicate] at hone
      subst hone
      rfl
    · rename_i hone
      rw [List.length_replicate] at hone
      have hmid : (n + 1) / 2 < n := by omega
      have hrest : n - (n + 1) / 2 = n / 2 := by omega
      have hlog : Nat.log 2 n = Nat.log 2 (n / 2) + 1 :=
        Nat.log_of_one_lt_of_le Nat.one_lt_two (by omega)
      simp only [List.length_replicate, if_pos hmid, List.drop_replicate, hrest]
      refine (parent_depthHash _).trans ?_
      rw [ih (by omega) (by omega), hlog, BitVec.ofNat_add]
      rfl

theorem pow_of_depths {n : Nat} (hn : 0 < n)
    (h : BitVec.ofNat 256 (Nat.clog 2 n) = BitVec.ofNat 256 (Nat.log 2 n)) : ∃ k, n = 2 ^ k := by
  have hle := Nat.le_pow_clog Nat.one_lt_two n
  have hge := Nat.pow_log_le_self 2 hn.ne'
  have hsmall : Nat.clog 2 n ≤ Nat.log 2 n + 1 :=
    Nat.clog_le_of_le_pow (Nat.lt_pow_succ_log_self Nat.one_lt_two n).le
  have hmono := (Nat.pow_le_pow_iff_right Nat.one_lt_two).mp (hge.trans hle)
  grind [BitVec.toNat_ofNat]

end OtherLengths

/-- The proofs of all event lists of a length are complete for every hash function, at any one
index, exactly if the length is a power of two. -/
theorem merkleProofs_complete_iff (n index : Nat) (hindex : index < n) :
    (∀ (T : Type) (hash : List UInt8 → B3Hash) (toVec : T → Except String (List UInt8))
      (events : List T), events.length = n → Complete hash toVec events index) ↔
      ∃ k, n = 2 ^ k := by
  constructor
  · intro h
    have hleaves : (List.replicate n ()).mapM (leafHash depthHash fun _ => .ok []) =
        .ok (List.replicate n (0 : B3Hash)) :=
      List.mapM_pure.trans (by rw [List.map_replicate]; rfl)
    have hcomplete := h Unit depthHash (fun _ => .ok []) (.replicate n ()) List.length_replicate
    have hroot := ((complete_iff (by simpa using hindex) hleaves
      (by rw [List.getElem?_replicate, if_pos hindex])).mp hcomplete).2
    grind [climb_replicate, build_replicate, pow_of_depths]
  · rintro ⟨k, rfl⟩ T hash toVec events hlen leaves leaf hleaves hleaf
    have hcount : leaves.length = 2 ^ k := (length_leaves hleaves).trans hlen
    obtain ⟨hroot, hwalk⟩ := @tree_of_pow hash leaves k leaves.length hcount hcount.ge
    have hclimb := Merkle.climb_eq_iterate (parent hash) (Nat.le_succ leaves.length)
    refine (complete_iff (by omega) hleaves hleaf).mpr ⟨?_, ?_⟩ leaves leaf hleaves hleaf
    · rw [hlen]
      exact (hwalk index leaf hleaf).2
    · rw [hclimb, hcount, Nat.clog_pow 2 k Nat.one_lt_two, ← hcount, hroot]
      rfl

theorem merkleProofs_incomplete_of_three :
    (∀ (T : Type) (hash : List UInt8 → B3Hash) (toVec : T → Except String (List UInt8))
      (events : List T), events.length = 3 → Complete hash toVec events 2) ↔ ∃ k, 3 = 2 ^ k :=
  merkleProofs_complete_iff 3 2 (by decide)

set_option maxRecDepth 2000

/-- Three events: the proof of the last is refused, and the root it carries is another one. -/
theorem threeEvents_refused : let proof := generateProof digitHash (fun e => .ok [e]) [1, 2, 3] 2
    (proof.map fun p => verifyProof digitHash (digitHash [3]) p) = .ok false ∧
      proof.map MerkleProof.root ≠ computeMerkleRoot digitHash (fun e => .ok [e]) [1, 2, 3] := by
  decide

end AdapterOS.Telemetry.MerkleTree
