import NoriBridgeHead.Primitives.Types

open Foundation Foundation.Outcome

namespace NoriModel

def maxTreeDepth : Nat := 16
def maxBatch : Nat := 1 <<< maxTreeDepth
def nMerkleZeros : Nat := maxTreeDepth + 1

/-- The bytes of `merkle-zeros.dat`, one row for each field element. -/
def merkleZeros : List (List UInt8) :=
  [
    [0, 0, 0, 0, 0, 0, 0, 0, 0, 0, 0, 0, 0, 0, 0, 0, 0, 0, 0, 0, 0, 0, 0, 0, 0, 0, 0, 0, 0, 0, 0, 0],
    [168, 235, 158, 224, 243, 0, 70, 48, 138, 187, 250, 93, 32, 175, 115, 200, 27, 189, 171, 194, 91, 69, 151,
      133, 2, 77, 4, 82, 40, 190, 173, 47],
    [184, 30, 102, 106, 102, 189, 27, 190, 80, 232, 254, 100, 247, 204, 3, 39, 66, 54, 176, 186, 185, 103, 8,
      146, 185, 64, 29, 109, 106, 130, 105, 5],
    [186, 218, 138, 201, 96, 247, 142, 211, 204, 21, 120, 78, 146, 215, 59, 76, 218, 85, 120, 73, 191, 26, 40,
      111, 194, 239, 141, 162, 98, 62, 52, 1],
    [69, 232, 169, 223, 161, 101, 191, 21, 42, 244, 60, 120, 141, 222, 66, 86, 254, 152, 168, 187, 181, 127,
      45, 220, 5, 102, 170, 93, 14, 151, 64, 45],
    [139, 180, 138, 177, 146, 191, 71, 9, 170, 41, 161, 19, 92, 40, 160, 209, 70, 185, 87, 108, 62, 186, 32,
      177, 67, 218, 213, 88, 110, 214, 154, 36],
    [85, 111, 211, 93, 162, 248, 139, 152, 246, 215, 110, 209, 111, 86, 38, 50, 242, 5, 197, 203, 254, 164, 8,
      75, 117, 137, 36, 231, 228, 32, 31, 34],
    [164, 131, 51, 139, 134, 62, 64, 62, 121, 59, 96, 194, 204, 109, 170, 20, 191, 74, 113, 53, 195, 107, 20,
      50, 148, 160, 211, 181, 170, 86, 255, 31],
    [143, 150, 93, 249, 155, 6, 72, 87, 1, 82, 97, 124, 198, 157, 221, 153, 15, 116, 102, 81, 99, 139, 181, 81,
      167, 189, 56, 53, 144, 83, 201, 47],
    [4, 238, 160, 94, 38, 64, 211, 133, 25, 57, 208, 34, 186, 23, 94, 130, 168, 64, 225, 28, 139, 88, 249, 255,
      153, 164, 182, 223, 66, 12, 186, 51],
    [165, 66, 26, 191, 182, 154, 46, 69, 156, 126, 12, 109, 43, 30, 240, 154, 16, 139, 63, 211, 66, 80, 247,
      47, 194, 236, 125, 42, 251, 4, 36, 37],
    [45, 57, 238, 200, 35, 109, 195, 10, 45, 45, 255, 80, 172, 116, 177, 113, 159, 90, 30, 182, 248, 34, 176,
      242, 86, 69, 214, 163, 68, 7, 215, 29],
    [123, 1, 159, 100, 158, 236, 201, 35, 29, 101, 78, 109, 92, 211, 80, 100, 85, 213, 66, 62, 231, 91, 125,
      93, 18, 62, 150, 53, 7, 31, 239, 6],
    [104, 84, 204, 158, 118, 224, 198, 190, 122, 106, 140, 52, 245, 205, 170, 243, 77, 167, 81, 111, 37, 241,
      242, 244, 118, 46, 134, 156, 76, 128, 74, 36],
    [27, 211, 233, 99, 223, 149, 180, 9, 253, 107, 60, 226, 105, 249, 133, 202, 54, 233, 37, 181, 75, 223, 169,
      22, 51, 15, 244, 29, 20, 42, 241, 49],
    [156, 90, 30, 191, 199, 145, 169, 238, 101, 40, 51, 236, 214, 35, 196, 64, 98, 44, 44, 13, 245, 205, 159,
      211, 177, 255, 164, 77, 153, 217, 205, 12],
    [25, 175, 179, 120, 152, 221, 234, 128, 94, 102, 88, 124, 124, 150, 79, 251, 98, 167, 156, 72, 86, 20, 67,
      15, 31, 214, 216, 191, 240, 124, 128, 36]]

def getMerkleZeros {ε : Type} : Outcome ε (Vector Fp nMerkleZeros) := do
  let zeros ← merkleZeros.mapM fun chunk => expect "invalid Fp bytes" (Fp.fromBytes chunk).toOption
  expect "index out of bounds"
    (if size : zeros.length = nMerkleZeros then some ⟨zeros.toArray, by simpa using size⟩ else none)

def nextPowerOfTwo (count : Nat) : Nat := 2 ^ (Nat.log2 (count - 1) + 1)

def trailingZeros : Nat → Nat → Nat
  | 0, _ => 0
  | width + 1, word => if word % 2 = 1 then 0 else trailingZeros width (word / 2) + 1

def computeMerkleTreeDepthAndSize (nLeaves : Nat) : Nat × Nat :=
  match nLeaves with
  | 0 | 1 => (0, 1)
  | _ =>
    let paddedSize := nextPowerOfTwo nLeaves
    let depth := trailingZeros 64 paddedSize
    (depth, paddedSize)

def nodeAt {ε : Type} (nodes : List Fp) (index : Nat) : Outcome ε Fp :=
  expect "index out of bounds" nodes[index]?

def storeNode {ε : Type} (nodes : List Fp) (index : Nat) (value : Fp) : Outcome ε (List Fp) :=
  if index < nodes.length then .ok (nodes.set index value) else panicked "index out of bounds"

/-- Iteration `i` of the inner loop: the parent overwrites a node that has already been read. -/
def foldPair {ε : Type} (C : Crypto) (zeros : Vector Fp nMerkleZeros) (depth level nNonDummyNodes : Nat)
    (nodes : List Fp) (i : Nat) : Outcome ε (List Fp) := do
  let leftIdx := 2 * i
  if leftIdx ≥ nNonDummyNodes then
    let height ← subUsize (depth + 1) level
    storeNode nodes i (← expect "index out of bounds" zeros[height]?)
  else
    let rightIdx := 2 * i + 1
    storeNode nodes i (C.poseidonHash [← nodeAt nodes leftIdx, ← nodeAt nodes rightIdx])

def foldLevel {ε : Type} (C : Crypto) (zeros : Vector Fp nMerkleZeros) (depth : Nat)
    (state : List Fp × Nat) (level : Nat) : Outcome ε (List Fp × Nat) := do
  let levelWidth := 2 ^ level
  let parentWidth := levelWidth / 2
  let nodes ← (List.range parentWidth).foldlM (foldPair C zeros depth level state.2) state.1
  pure (nodes, (state.2 + 1) / 2)

def foldMerkleLeft {ε : Type} (C : Crypto) (merkleLeaves : List Fp) (paddedSize depth : Nat)
    (zeros : Vector Fp nMerkleZeros) : Outcome ε Fp := do
  if merkleLeaves.isEmpty then
    return 0
  let nLeaves := merkleLeaves.length
  let missing ← subUsize paddedSize merkleLeaves.length
  let merkleNodes := merkleLeaves ++ List.replicate missing 0
  let (merkleNodes, _) ← (List.range' 1 depth).reverse.foldlM (foldLevel C zeros depth) (merkleNodes, nLeaves)
  nodeAt merkleNodes 0

def buildParent {ε : Type} (C : Crypto) (zeros : Vector Fp nMerkleZeros) (depth level nNonDummyNodes : Nat)
    (childLevel parentLevel : List Fp) (i : Nat) : Outcome ε (List Fp) := do
  let leftIdx := 2 * i
  if leftIdx ≥ nNonDummyNodes then
    let height ← subUsize (depth + 1) level
    pure (parentLevel ++ [← expect "index out of bounds" zeros[height]?])
  else
    let rightIdx := 2 * i + 1
    pure (parentLevel ++ [C.poseidonHash [← nodeAt childLevel leftIdx, ← nodeAt childLevel rightIdx]])

def storeLevel {ε : Type} (merkleTree : List (List Fp)) (level : Nat) (nodes : List Fp) :
    Outcome ε (List (List Fp)) :=
  if level < merkleTree.length then .ok (merkleTree.set level nodes) else panicked "index out of bounds"

def buildLevel {ε : Type} (C : Crypto) (zeros : Vector Fp nMerkleZeros) (depth : Nat)
    (state : List (List Fp) × Nat) (level : Nat) : Outcome ε (List (List Fp) × Nat) := do
  let childLevel ← expect "index out of bounds" state.1[level]?
  let parentWidth := 2 ^ (level - 1)
  let parentLevel ← (List.range parentWidth).foldlM (buildParent C zeros depth level state.2 childLevel) []
  let merkleTree ← storeLevel state.1 (level - 1) parentLevel
  pure (merkleTree, (state.2 + 1) / 2)

def buildMerkleTree {ε : Type} (C : Crypto) (merkleLeaves : List Fp) (paddedSize depth : Nat)
    (zeros : Vector Fp nMerkleZeros) : Outcome ε (List (List Fp)) := do
  let nLeaves := merkleLeaves.length
  let missing ← subUsize paddedSize merkleLeaves.length
  let merkleLeaves := merkleLeaves ++ List.replicate missing 0
  let merkleTree ← storeLevel (List.replicate (depth + 1) []) depth merkleLeaves
  let (merkleTree, _) ← (List.range' 1 depth).reverse.foldlM (buildLevel C zeros depth) (merkleTree, nLeaves)
  pure merkleTree

structure PathState where
  merkleNodes : List Fp
  nNonDummyNodes : Nat
  position : Nat
  path : List Fp

/-- The sibling is read before the level pass overwrites it. -/
def pathLevel {ε : Type} (C : Crypto) (zeros : Vector Fp nMerkleZeros) (depth : Nat) (state : PathState)
    (level : Nat) : Outcome ε PathState := do
  let siblingIndex := if state.position % 2 = 1 then state.position - 1 else state.position + 1
  let sibling ← nodeAt state.merkleNodes siblingIndex
  let (merkleNodes, nNonDummyNodes) ← foldLevel C zeros depth (state.merkleNodes, state.nNonDummyNodes) level
  pure ⟨merkleNodes, nNonDummyNodes, state.position / 2, state.path ++ [sibling]⟩

def getMerklePathFromLeaves {ε : Type} (C : Crypto) (merkleLeaves : List Fp) (paddedSize depth : Nat)
    (index : UInt32) (zeros : Vector Fp nMerkleZeros) : Outcome ε (List Fp) := do
  if merkleLeaves.isEmpty then
    return []
  let nLeaves := merkleLeaves.length
  let missing ← subUsize paddedSize merkleLeaves.length
  let merkleNodes := merkleLeaves ++ List.replicate missing 0
  let state ← (List.range' 1 depth).reverse.foldlM (pathLevel C zeros depth) ⟨merkleNodes, nLeaves, index.toNat, []⟩
  pure state.path

def treePathLevel {ε : Type} (merkleTree : List (List Fp)) (state : UInt32 × List Fp) (level : Nat) :
    Outcome ε (UInt32 × List Fp) := do
  let sibling := state.1 ^^^ 1
  let nodes ← expect "index out of bounds" merkleTree[level]?
  let node ← nodeAt nodes sibling.toNat
  pure (state.1 / 2, state.2 ++ [node])

def getMerklePathFromTree {ε : Type} (merkleTree : List (List Fp)) (index : UInt32) : Outcome ε (List Fp) := do
  let depth ← subUsize merkleTree.length 1
  let (_, path) ← (List.range' 1 depth).reverse.foldlM (treePathLevel merkleTree) (index, [])
  pure path

def shiftRightU64 {ε : Type} (word : UInt64) (count : Nat) : Outcome ε UInt64 :=
  if count < 64 then .ok (word >>> UInt64.ofNat count) else panicked "attempt to shift right with overflow"

def rootLevel {ε : Type} (C : Crypto) (index : UInt64) (hash : Fp) (enumerated : Fp × Nat) : Outcome ε Fp := do
  let (sibling, level) := enumerated
  let bit := (← shiftRightU64 index level) &&& 1
  let (left, right) := if bit = 1 then (sibling, hash) else (hash, sibling)
  pure (C.poseidonHash [left, right])

def computeMerkleRootFromPath {ε : Type} (C : Crypto) (leafHash : Fp) (index : UInt64) (path : List Fp) :
    Outcome ε Fp :=
  path.zipIdx.foldlM (rootLevel C index) leafHash

def subtree {ε : Type} (C : Crypto) (leaves : List Fp) (offset size : Nat) : Outcome ε Fp :=
  if size = 1 then
    if offset < leaves.length then nodeAt leaves offset else .ok 0
  else if size = 0 then
    panicked "stack overflow"
  else do
    let half := size / 2
    let left ← subtree C leaves offset half
    let right ← subtree C leaves (offset + half) half
    pure (C.poseidonHash [left, right])
termination_by size
decreasing_by all_goals omega

def referenceRootRecursive {ε : Type} (C : Crypto) (leaves : List Fp) (paddedSize : Nat) : Outcome ε Fp :=
  subtree C leaves 0 paddedSize

def hashSiblings {ε : Type} (C : Crypto) (level : List Fp) : Outcome ε (List Fp) :=
  (List.range ((level.length + 1) / 2)).mapM fun i => do
    pure (C.poseidonHash [← nodeAt level (2 * i), ← nodeAt level (2 * i + 1)])

/-- The `while` loop; a level of more than one node shrinks, so its width bounds the number of passes. -/
def hashLevels {ε : Type} (C : Crypto) : Nat → List Fp → Outcome ε (List Fp)
  | 0, level => .ok level
  | passes + 1, level => do
    if level.length > 1 then
      hashLevels C passes (← hashSiblings C level)
    else
      pure level

def referenceRootBruteforce {ε : Type} (C : Crypto) (leaves : List Fp) (paddedSize : Nat) : Outcome ε Fp := do
  let level := (leaves ++ List.replicate (paddedSize - leaves.length) 0).take paddedSize
  nodeAt (← hashLevels C level.length level) 0

/-- The four fields of one leaf: the bytes are written from index 0 and read little-endian. -/
def packRequestLeafFields (target : Address) (collectionKeysCount : UInt8) (collectionKey0 collectionKey1 : B256)
    (value : U256) : Except String (List Fp) := do
  let valueBytes := value.toBeBytes
  let firstFieldBytes := target.bytes ++ [collectionKeysCount] ++ collectionKey0.bytes.take 1 ++
    collectionKey1.bytes.take 1 ++ valueBytes.bytes.take 1 ++ List.replicate 8 0
  let secondFieldBytes := (collectionKey0.bytes.drop 1) ++ [0]
  let thirdFieldBytes := (collectionKey1.bytes.drop 1) ++ [0]
  let fourthFieldBytes := (valueBytes.bytes.drop 1) ++ [0]
  let first ← Fp.fromBytes firstFieldBytes
  let second ← Fp.fromBytes secondFieldBytes
  let third ← Fp.fromBytes thirdFieldBytes
  let fourth ← Fp.fromBytes fourthFieldBytes
  pure [first, second, third, fourth]

def hashRequestLeaf (C : Crypto) (target : Address) (collectionKeysCount : UInt8)
    (collectionKey0 collectionKey1 : B256) (value : U256) : Except String Fp := do
  let fields ← packRequestLeafFields target collectionKeysCount collectionKey0 collectionKey1 value
  pure (C.poseidonHash fields)

end NoriModel
