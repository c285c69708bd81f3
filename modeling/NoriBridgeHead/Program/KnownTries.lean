import NoriBridgeHead.Foundation.SelfDelimiting
import NoriBridgeHead.Primitives.MinimalSpec
import NoriBridgeHead.Program.QueueState

open Foundation

namespace NoriModel

structure KnownProof where
  root : B256
  path : List UInt8
  value : Option (List UInt8)
  proof : List Bytes

/-- The hashes and the tries at the finitely many inputs that a computation reaches. -/
structure KnownTries where
  keccak : List (List UInt8 × B256)
  sha : List (List UInt8 × B256)
  poseidon : List (List Fp × Fp)
  proofs : List KnownProof

def rlpTrieAccount (account : TrieAccount) : List UInt8 :=
  let payload := Rlp.encodeUint account.nonce.toNat ++ (Rlp.encodeUint account.balance.toNat ++
    (0xa0 :: account.storageRoot.bytes ++ 0xa0 :: account.codeHash.bytes))
  0xf8 :: UInt8.ofNat payload.length :: payload

def KnownTries.find (known : KnownTries) (root : B256) (path : List UInt8) : Option KnownProof :=
  known.proofs.find? fun entry => entry.root = root ∧ entry.path = path

def KnownTries.trie (known : KnownTries) : TrieContents := fun root path =>
  if root = emptyRootHash then none else (known.find root path).bind KnownProof.value

def KnownTries.verifyProof (known : KnownTries) (root : B256) (path : List UInt8) (expected : Option (List UInt8))
    (proof : List Bytes) : Except String Unit :=
  if root = emptyRootHash then
    if expected = none ∧ proof = [] then .ok () else .error "value mismatch"
  else
    match known.find root path with
    | some entry => if entry.value = expected ∧ entry.proof = proof then .ok () else .error "value mismatch"
    | none => .error "unexpected node"

def KnownTries.crypto (known : KnownTries) : Crypto where
  keccak256 := fun bytes => (known.keccak.lookup bytes).getD FixedBytes.zero
  sha256 := fun bytes => (known.sha.lookup bytes).getD FixedBytes.zero
  poseidonHash := fun fields => (known.poseidon.lookup fields).getD 0
  encodeU256 := fun word => Rlp.encodeUint word.toNat
  encodeTrieAccount := rlpTrieAccount
  verifyProof := known.verifyProof

end NoriModel

namespace NoriProof

open NoriModel

variable (known : KnownTries)

theorem knownTries_sound : VerifyProofSound known.crypto known.trie := by
  constructor
  · intro root path expected proof accepted
    change known.verifyProof root path expected proof = .ok () at accepted
    unfold KnownTries.verifyProof at accepted
    unfold KnownTries.trie
    by_cases empty : root = emptyRootHash
    · rw [if_pos empty] at accepted ⊢
      split at accepted
      · rename_i absent
        exact absent.1.symm
      · cases accepted
    · rw [if_neg empty] at accepted ⊢
      cases found : known.find root path with
      | none =>
        rw [found] at accepted
        cases accepted
      | some entry =>
        rw [found] at accepted
        dsimp only at accepted
        split at accepted
        · rename_i same
          exact same.1
        · cases accepted
  · intro path
    exact if_pos rfl

theorem knownTries_sha {code : List UInt8} (nonzero : known.crypto.sha256 code ≠ FixedBytes.zero) :
    (code, known.crypto.sha256 code) ∈ known.sha := by
  have digest : known.crypto.sha256 code = (known.sha.lookup code).getD FixedBytes.zero := rfl
  cases looked : known.sha.lookup code with
  | none =>
    rw [looked] at digest
    exact absurd digest nonzero
  | some hash =>
    rw [looked, Option.getD_some] at digest
    rcases List.lookup_eq_some_iff.mp looked with ⟨before, after, split, _⟩
    rw [digest, split]
    exact List.mem_append_right before (List.mem_cons_self ..)

theorem rlpTrieAccount_injective : Function.Injective rlpTrieAccount := by
  intro left right same
  have payload := (List.cons.inj (List.cons.inj same).2).2
  have nonceLeft : left.nonce.toNat < 2 ^ 256 := Nat.lt_trans left.nonce.toNat_lt (by decide)
  have nonceRight : right.nonce.toNat < 2 ^ 256 := Nat.lt_trans right.nonce.toNat_lt (by decide)
  rcases Rlp.encodeUint_split nonceLeft nonceRight payload with ⟨nonce, afterNonce⟩
  rcases Rlp.encodeUint_split left.balance.isLt right.balance.isLt afterNonce with ⟨balance, roots⟩
  have sizes : (0xa0 :: left.storageRoot.bytes).length = (0xa0 :: right.storageRoot.bytes).length := by
    rw [List.length_cons, List.length_cons, left.storageRoot.size, right.storageRoot.size]
  rcases List.append_inj roots sizes with ⟨storageRoot, codeHash⟩
  obtain ⟨_, _, _, _⟩ := left
  obtain ⟨_, _, _, _⟩ := right
  cases UInt64.toNat_inj.mp nonce
  cases BitVec.eq_of_toNat_eq balance
  cases FixedBytes.ext (List.cons.inj storageRoot).2
  cases FixedBytes.ext (List.cons.inj codeHash).2
  rfl

theorem knownTries_rlp : RlpInjective known.crypto := by
  refine ⟨?_, rlpTrieAccount_injective⟩
  intro left right same
  exact BitVec.eq_of_toNat_eq (Rlp.encodeUint_injective left.isLt right.isLt same)

end NoriProof

namespace NoriModel.Sample

def rlpHeader (short : UInt8) (size : Nat) : List UInt8 :=
  if size < 56 then [short + UInt8.ofNat size] else [short + 56, UInt8.ofNat size]

def rlpString (bytes : List UInt8) : List UInt8 := rlpHeader 0x80 bytes.length ++ bytes
def rlpList (payload : List UInt8) : List UInt8 := rlpHeader 0xc0 payload.length ++ payload

def word (value : Nat) : B256 := FixedBytes.ofNat 32 value
def path (digest : Nat) : List UInt8 := unpack (word digest)

def branchNode (children : List (Nat × Nat)) : Bytes :=
  rlpList ((List.range 17).flatMap fun nibble =>
    match children.lookup nibble with
    | some digest => 0xa0 :: (word digest).bytes
    | none => [0x80])

def leafNode (depth digest : Nat) (value : List UInt8) : Bytes :=
  let rest := (path digest).drop depth
  let nibbles := if depth % 2 = 1 then 3 :: rest else 2 :: 0 :: rest
  let compact := (List.range (nibbles.length / 2)).map fun index =>
    nibbles.getD (2 * index) 0 * 16 + nibbles.getD (2 * index + 1) 0
  rlpList (rlpString compact ++ (if value.length = 1 then value else rlpString value))

def wordLeaf (depth digest value : Nat) : Bytes := leafNode depth digest (Rlp.encodeUint value)

def wordProof (root digest value : Nat) (proof : List Bytes) : KnownProof :=
  ⟨word root, path digest, if value = 0 then none else some (Rlp.encodeUint value), proof⟩

def queueAddress : Address := FixedBytes.ofNat 20 0x5151515151515151515151515151515151515151
def target : Address := FixedBytes.ofNat 20 0x1111111111111111111111111111111111111111
def absentTarget : Address := FixedBytes.ofNat 20 0xa500000000000000000000000000000000000000
def collectionKey : Nat := 0x2222222222222222222222222222222222222222222222222222222222222222

def queueDigest : Nat := 0x1fbf193f2f1ebf7c11f6e019d575c805202f40d68495c293d85431df63c2dcab
def targetDigest : Nat := 0xe2c07404b8c1df4c46226425cac68c28d27a766bbddce62309f36724839b22c0
def absentDigest : Nat := 0xca44ec1b61dc56f96d53050f431a760686e5993b54b75377ced5f391463d3221
def headDigest : Nat := 0x290decd9548b62a8d60345a988386fc84ba6bc95484008f6362f93160ef3e563
def slotDigest : Nat := 0x036b6384b5eca791c62761152d0c79bb0604c104a5fb6f4eb0703f3154bb3db0

def entry0 : Nat := 0xa6eef7e35abe7026729641147f7915573c7e97b47efa546f5f6e3230263bcb49
def entry0Word0 : Nat := 0x0eb5be412f275a18f6e4d622aee4ff40b21467c926224771b782d4c095d1444b
def entry0Word1 : Nat := 0x08ad42b8c5cc6483fc6f741635eaa19fc52c5290bb801ae007ad7830329c2a0d
def entry0Word2 : Nat := 0x1020b1217df8bd3611f68556521458dfdf5f6dc7fe37834ce488d47695c1d75f
def entry0Word3 : Nat := 0xbaf12935195c1e0b72bbb35b5b92413cddce785944ba9be7f5ae9ca89c1f0ca4
def entry0Word4 : Nat := 0x121d4e837f0cb527a9e7076696e507aa39f8873813d427383ef90e76e36c3a60
def entry1 : Nat := 0xcc69885fda6bcc1a4ace058b4a62bf5e179ea78fd58a1ccd71c22cc9b688792f
def entry1Word0 : Nat := 0x66b32740ad8041bcc3b909c72d7e1afe60094ec55e3cde329b4b3a28501d826c
def entry1Word1 : Nat := 0xec6c1106bed8dc4818944c3fa047c581d4e44ac33f30f9163ac471fe28b0c471
def entry1Word2 : Nat := 0xa25b26899d3e280299bab418b5049f0c50a4fc6cc27db9f53c77e29b88c17fa6
def entry1Word3 : Nat := 0xd718aae3e2f4deb134b4733a01b64eb5289381314299c4b8e961d8eea6ec7e6d
def entry1Word4 : Nat := 0xd65b0de40a6496e3eff90c8a164a663e581dbd744ef59499e245d67b1e91702c

def stateRoot1 : Nat := 0xfdfcaae9f625cebc502ff38db6d75360549aa532bd8e4d44ff432ba85c1a3719
def stateRoot2 : Nat := 0x953a3426e601828c2f762867079ade678a4898ae48ced31fbd294ba5eab88d0d
def queueRoot1 : Nat := 0xa04c2a6296207935efe10008571b25fe0253bc24641ce199a049d554e25b2cc2
def queueRoot2 : Nat := 0xdbfef8c8f233a8ae6027c9fe99f5cb1f3c0dcf9375138248c8f9e15afdc0672b
def targetRoot : Nat := 0x626ec5faa4af21e3ea04476c999c233e3e09e508df14f0b935fa75f9a8327c90

def queueAccount (storageRoot : Nat) : TrieAccount where
  nonce := 1
  balance := 0
  storageRoot := word storageRoot
  codeHash := word 0xbac5ecd2faa027574e2101f9b6bdc19dec3f76beff12aa506ac3391be0022e46

def targetAccount : TrieAccount where
  nonce := 1
  balance := 0xde0b6b3a7640000
  storageRoot := word targetRoot
  codeHash := word 0x3beea18c26b1aea7a418ac95162e59e8f2dbcc37df36454d412680bd6aa29754

def stateBranch (queueLeaf : Nat) : Bytes :=
  branchNode [(1, queueLeaf), (14, 0x43e38f99b08a9761d6d45ae130753d1bb3525a34df26bc477dee661b79285789)]

def stateBranch1 : Bytes := stateBranch 0xa77f7142141e3dabc061e525c43a1f17636ff9d34bc25b802c1cb04b221a315d
def stateBranch2 : Bytes := stateBranch 0xafbfd505e9643c8a4c3405827b98d20214c0c342bcbb7108927808f1cdb82699

def queueBranch1 : Bytes :=
  branchNode [(0, 0x399413fcf3b6ca5c40c31d12ee0a16e774eec359a50b14b5c71139923c550f28),
    (1, 0xa40ad069b15290dac66e8ca5cddfdd7c4b526ca820217f86b7211e00f1162d40),
    (2, 0x4fc5f13ab2f9ba0c2da88b0151ab0e7cf4d85d08cca45ccd923c6ab76323eb28),
    (11, 0x6658e92c1394e4c6509fb0f1e02549577d1194189abd12e8fdcf154d5994fd06)]

def queueBranch2 : Bytes :=
  branchNode [(0, 0x399413fcf3b6ca5c40c31d12ee0a16e774eec359a50b14b5c71139923c550f28),
    (1, 0xa40ad069b15290dac66e8ca5cddfdd7c4b526ca820217f86b7211e00f1162d40),
    (2, 0x4e918b76be51be2f02df0ac6191ec2765d401d2229e47291806815da755f5b5e),
    (6, 0xfbb964c4af8381bd20840327df93fc1f6b2f60f7a75fbc2e93ce27f2b3529801),
    (11, 0x6658e92c1394e4c6509fb0f1e02549577d1194189abd12e8fdcf154d5994fd06)]

def innerBranch : Bytes :=
  branchNode [(8, 0x932e03eed4d7257139d15a40da13638b93ac0a4babddfb2573a47268fb62620a),
    (14, 0x6fbdf86ce09eb03bddd1acfc955df7cf23181b865aacdfc5aef6bb86c7004cd5)]

def queueProof (branch : Bytes) (storageRoot : Nat) : List Bytes :=
  [branch, leafNode 1 queueDigest (rlpTrieAccount (queueAccount storageRoot))]

def targetProof (branch : Bytes) : List Bytes := [branch, leafNode 1 targetDigest (rlpTrieAccount targetAccount)]

def slotProof : List Bytes := [wordLeaf 0 slotDigest 7]

def headProof (branch : Bytes) (head : Nat) : List Bytes := [branch, wordLeaf 1 headDigest head]

def entry0Proofs (branch : Bytes) : Vector (List Bytes) queueEntryWords :=
  #v[[branch, innerBranch, wordLeaf 2 entry0Word0 target.toNat], [branch, innerBranch, wordLeaf 2 entry0Word1 5],
    [branch, wordLeaf 1 entry0Word2 1], [branch, wordLeaf 1 entry0Word3 collectionKey],
    [branch, wordLeaf 1 entry0Word2 1]]

def entry1Proofs : Vector (List Bytes) queueEntryWords :=
  #v[[queueBranch2, wordLeaf 1 entry1Word0 absentTarget.toNat], [queueBranch2], [queueBranch2], [queueBranch2],
    [queueBranch2]]

def entry0Known (storageRoot : Nat) (branch : Bytes) : List KnownProof :=
  [wordProof storageRoot entry0Word0 target.toNat ((entry0Proofs branch)[0]),
    wordProof storageRoot entry0Word1 5 ((entry0Proofs branch)[1]),
    wordProof storageRoot entry0Word2 1 ((entry0Proofs branch)[2]),
    wordProof storageRoot entry0Word3 collectionKey ((entry0Proofs branch)[3]),
    wordProof storageRoot entry0Word4 0 ((entry0Proofs branch)[4])]

def entry1Known : List KnownProof :=
  [wordProof queueRoot2 entry1Word0 absentTarget.toNat ((entry1Proofs)[0]),
    wordProof queueRoot2 entry1Word1 0 [queueBranch2], wordProof queueRoot2 entry1Word2 0 [queueBranch2],
    wordProof queueRoot2 entry1Word3 0 [queueBranch2], wordProof queueRoot2 entry1Word4 0 [queueBranch2]]

def entry0World (branch : Bytes) : List ((Address × B256) × (U256 × List Bytes)) :=
  [((queueAddress, word entry0), (wordOfAddress target, (entry0Proofs branch)[0])),
    ((queueAddress, word (entry0 + 1)), (5, (entry0Proofs branch)[1])),
    ((queueAddress, word (entry0 + 2)), (1, (entry0Proofs branch)[2])),
    ((queueAddress, word (entry0 + 3)), (BitVec.ofNat 256 collectionKey, (entry0Proofs branch)[3])),
    ((queueAddress, word (entry0 + 4)), (0, (entry0Proofs branch)[4])),
    ((target, word 5), (7, slotProof))]

def entry1World : List ((Address × B256) × (U256 × List Bytes)) :=
  [((queueAddress, word entry1), (wordOfAddress absentTarget, entry1Proofs[0])),
    ((queueAddress, word (entry1 + 1)), (0, [queueBranch2])),
    ((queueAddress, word (entry1 + 2)), (0, [queueBranch2])),
    ((queueAddress, word (entry1 + 3)), (0, [queueBranch2])),
    ((queueAddress, word (entry1 + 4)), (0, [queueBranch2])),
    ((absentTarget, word 0), (0, []))]

def stateKnown (stateRoot storageRoot : Nat) (branch : Bytes) : List KnownProof :=
  [⟨word stateRoot, path queueDigest, some (rlpTrieAccount (queueAccount storageRoot)),
      queueProof branch storageRoot⟩,
    ⟨word stateRoot, path targetDigest, some (rlpTrieAccount targetAccount), targetProof branch⟩,
    ⟨word stateRoot, path absentDigest, none, [branch]⟩]

def wordDigests : List (Nat × Nat) :=
  [(0, headDigest), (5, slotDigest), (entry0, entry0Word0), (entry0 + 1, entry0Word1), (entry0 + 2, entry0Word2),
    (entry0 + 3, entry0Word3), (entry0 + 4, entry0Word4), (entry1, entry1Word0), (entry1 + 1, entry1Word1),
    (entry1 + 2, entry1Word2), (entry1 + 3, entry1Word3), (entry1 + 4, entry1Word4)]

def zeroHashPairs : List (List Fp × Fp) :=
  let zeros := merkleZeros.filterMap fun row => (Fp.fromBytes row).toOption
  (zeros.zip zeros.tail).map fun (zero, next) => ([zero, zero], next)

def leafFields (target : Address) (count : UInt8) (key value : Nat) : List Fp :=
  ((packRequestLeafFields target count (word key) (word 0) (BitVec.ofNat 256 value)).toOption).getD []

def leaf0 : Fp := 1869382765349364319769409332639744151548060904783549722735269986050182142542
def leaf1 : Fp := 19086092232511661143280314764648396198783836426967887283106869636012876649433
def leafPair : Fp := 7567045825117965608422946208891878277461957998699857439802325305527219238303

def header0 : Minimal.Header := ⟨64, emptyRootHash, 100⟩
def header1 : Minimal.Header := ⟨96, word stateRoot1, 132⟩
def header2 : Minimal.Header := ⟨128, word stateRoot2, 164⟩
def committee1 : B256 := word 0xc1c1c1c1c1c1c1c1c1c1c1c1c1c1c1c1c1c1c1c1c1c1c1c1c1c1c1c1c1c1c1c1
def committee2 : B256 := word 0xc2c2c2c2c2c2c2c2c2c2c2c2c2c2c2c2c2c2c2c2c2c2c2c2c2c2c2c2c2c2c2c2

def store0 : Minimal.Store := ⟨header0, committee1, none, header0, 0, 0, none⟩
def store1 : Minimal.Store := ⟨header1, committee1, some committee2, header1, 0, 0, none⟩
def store2 : Minimal.Store := ⟨header2, committee1, some committee2, header2, 0, 0, none⟩
def syncedStore0 : Minimal.Store := ⟨header0, committee1, some committee2, header0, 0, 0, none⟩
def header1Later : Minimal.Header := ⟨128, word stateRoot1, 164⟩
def store1Later : Minimal.Store := ⟨header1Later, committee1, some committee2, header1Later, 0, 0, none⟩
def storeHash0 : B256 := word 0x8c593435584e8f4f9dc6c6825bf5013b274125c92bb08ccdec30b3b33779f3eb
def storeHash1 : B256 := word 0x7a904efdfa104c3f33a4ed37515605b576785f890f00d0b46858fd479b2a9166
def storeHash2 : B256 := word 0xfbea6596ac8f8c4046f9a39bfcf07a05d5118a161ff67baa7d4df2ddc01fa4eb

def syncedStoreHash0 : B256 := word 0xea557807472017ba251e918e6981846617ea34670241720225fecc75d97c143c
def storeHash1Later : B256 := word 0x4c5f6fe5985f1008d4395f11a49c09e354219d3d72c63eb5fa88fe5e486cd33a

def storeCode (store : Minimal.Store) : List UInt8 :=
  Minimal.encodeHeader store.finalizedHeader ++ (Minimal.encodeB256 store.currentSyncCommittee ++
    (store.nextSyncCommittee.map Minimal.encodeB256).getD [])

/-- Two states of a queue contract: one request, then a second one whose target does not exist. -/
def known : KnownTries where
  keccak :=
    wordDigests.map (fun pair => ((word pair.1).bytes, word pair.2)) ++
      [((word 0).bytes ++ (word 1).bytes, word entry0), ((word 1).bytes ++ (word 1).bytes, word entry1),
        (queueAddress.bytes, word queueDigest), (target.bytes, word targetDigest),
        (absentTarget.bytes, word absentDigest)]
  sha := [(storeCode store0, storeHash0), (storeCode store1, storeHash1), (storeCode store2, storeHash2),
    (storeCode syncedStore0, syncedStoreHash0), (storeCode store1Later, storeHash1Later)]
  poseidon :=
    (leafFields target 1 collectionKey 7, leaf0) :: (leafFields absentTarget 0 0 0, leaf1) ::
      ([leaf0, leaf1], leafPair) :: zeroHashPairs
  proofs :=
    stateKnown stateRoot1 queueRoot1 stateBranch1 ++ stateKnown stateRoot2 queueRoot2 stateBranch2 ++
      wordProof queueRoot1 headDigest 1 (headProof queueBranch1 1) :: entry0Known queueRoot1 queueBranch1 ++
      wordProof queueRoot2 headDigest 2 (headProof queueBranch2 2) :: entry0Known queueRoot2 queueBranch2 ++
      entry1Known ++ [wordProof targetRoot slotDigest 7 slotProof]

def queueEntry0 : QueueEntry := ⟨target, word 5, 1, #v[word collectionKey, word 0]⟩

def queueStorage1 : QueueStorage where
  proofRequestQueueAddress := queueAddress
  proofRequestQueueAccount := queueAccount queueRoot1
  proofRequestQueueAccountMptProof := queueProof stateBranch1 queueRoot1
  head := 1
  headMptProof := headProof queueBranch1 1
  inputCursor := 0
  entries := [⟨target, word 5, 1, #v[word collectionKey, word 0], entry0Proofs queueBranch1⟩]
  targets := [⟨target, some targetAccount, targetProof stateBranch1, [⟨word 5, 7, slotProof⟩]⟩]

def queueStorage2 : QueueStorage where
  proofRequestQueueAddress := queueAddress
  proofRequestQueueAccount := queueAccount queueRoot2
  proofRequestQueueAccountMptProof := queueProof stateBranch2 queueRoot2
  head := 2
  headMptProof := headProof queueBranch2 2
  inputCursor := 1
  entries := [⟨absentTarget, word 0, 0, #v[word 0, word 0], entry1Proofs⟩]
  targets := [⟨absentTarget, none, [stateBranch2], [⟨word 0, 0, []⟩]⟩]

def proofInputs1 : ProofInputs Minimal.spec where
  updates := [⟨⟨70, emptyRootHash, 106⟩, committee2⟩]
  finalityUpdate := header1
  expectedCurrentSlot := 200
  store := store0
  genesisRoot := word 0
  forks := ()
  storeHash := storeHash0
  queueStorage := queueStorage1

def proofInputs2 : ProofInputs Minimal.spec where
  updates := []
  finalityUpdate := header2
  expectedCurrentSlot := 200
  store := store1
  genesisRoot := word 0
  forks := ()
  storeHash := storeHash1
  queueStorage := queueStorage2

def proofOutputs1 : ProofOutputs where
  inputSlot := 64
  inputStoreHash := storeHash0
  outputSlot := 96
  outputStoreHash := storeHash1
  executionStateRoot := word stateRoot1
  verifiedRequestsRoot := leaf0.toBytes
  nextSyncCommitteeHash := committee2
  proofRequestQueueAddress := queueAddress
  inputQueueCursor := 0
  outputQueueCursor := 1
  outputBlockNumber := 132

def proofOutputs2 : ProofOutputs where
  inputSlot := 96
  inputStoreHash := storeHash1
  outputSlot := 128
  outputStoreHash := storeHash2
  executionStateRoot := word stateRoot2
  verifiedRequestsRoot := leaf1.toBytes
  nextSyncCommitteeHash := committee2
  proofRequestQueueAddress := queueAddress
  inputQueueCursor := 1
  outputQueueCursor := 2
  outputBlockNumber := 164

/-- One proof from the first store to the second state, over both requests. -/
def pairOutputs : ProofOutputs where
  inputSlot := 64
  inputStoreHash := syncedStoreHash0
  outputSlot := 128
  outputStoreHash := storeHash2
  executionStateRoot := word stateRoot2
  verifiedRequestsRoot := leafPair.toBytes
  nextSyncCommitteeHash := committee2
  proofRequestQueueAddress := queueAddress
  inputQueueCursor := 0
  outputQueueCursor := 2
  outputBlockNumber := 164

end NoriModel.Sample

namespace NoriProof

open NoriModel

theorem sample_zerosBuilt : ZerosBuilt Sample.known.crypto := by
  have checked : ∃ zeros : Vector Fp nMerkleZeros, (getMerkleZeros : Outcome Empty _) = .ok zeros ∧
      ∀ height < maxTreeDepth, zeros[height + 1]? =
        zeros[height]?.map fun zero => Sample.known.crypto.poseidonHash [zero, zero] := by
    refine ⟨((getMerkleZeros : Outcome Empty _).toOption).getD (Vector.replicate _ 0), ?_, ?_⟩ <;> decide +kernel
  rcases checked with ⟨table, loaded, hashed⟩
  intro zeros decoded height bound
  obtain rfl : table = zeros := Except.ok.inj (loaded.symm.trans decoded)
  have below : height < nMerkleZeros := Nat.lt_of_succ_lt bound
  have pair := hashed height (Nat.lt_of_succ_lt_succ bound)
  rw [getElem?_pos table (height + 1) bound, getElem?_pos table height below] at pair
  exact Option.some.inj pair

end NoriProof
