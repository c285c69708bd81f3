import NoriBridgeHead.Hash.FoldMerkleLeft

open Foundation Foundation.Outcome Foundation.PaddedTree NoriModel

namespace NoriModel

/-- The 117 bytes of one request, in the order in which the layout numbers them. -/
def requestLeafBytes (target : Address) (collectionKeysCount : UInt8) (collectionKey0 collectionKey1 : B256)
    (value : U256) : List UInt8 :=
  target.bytes ++ ([collectionKeysCount] ++ (collectionKey0.bytes ++ (collectionKey1.bytes ++ value.toBeBytes.bytes)))

/-- The field that a byte lands in, and its place there. -/
def fieldAndOffset (byteIndex : Nat) : Option (Nat × Nat) :=
  if byteIndex ≤ 19 then some (0, byteIndex)
  else if byteIndex = 20 then some (0, 20)
  else if byteIndex = 21 then some (0, 21)
  else if byteIndex ≤ 52 then some (1, byteIndex - 22)
  else if byteIndex = 53 then some (0, 22)
  else if byteIndex ≤ 84 then some (2, byteIndex - 54)
  else if byteIndex = 85 then some (0, 23)
  else if byteIndex ≤ 116 then some (3, byteIndex - 86)
  else none

def firstFieldBytes (target : Address) (collectionKeysCount : UInt8) (collectionKey0 collectionKey1 : B256)
    (value : U256) : List UInt8 :=
  target.bytes ++ ([collectionKeysCount] ++ (collectionKey0.bytes.take 1 ++ (collectionKey1.bytes.take 1 ++
    (value.toBeBytes.bytes.take 1 ++ List.replicate 7 0))))

/-- The bytes of the four fields below their last, which is zero. -/
def fieldBytes (target : Address) (collectionKeysCount : UInt8) (collectionKey0 collectionKey1 : B256)
    (value : U256) : List (List UInt8) :=
  [firstFieldBytes target collectionKeysCount collectionKey0 collectionKey1 value, collectionKey0.bytes.drop 1,
    collectionKey1.bytes.drop 1, value.toBeBytes.bytes.drop 1]

end NoriModel

namespace NoriProof

theorem fromBytes_short {low : List UInt8} (size : low.length = 31) :
    ∃ element, Fp.fromBytes (low ++ [0]) = .ok element ∧ element.val = leNat (low ++ [0]) := by
  have wide : (low ++ [0]).length = 32 := by
    rw [List.length_append, size]
    rfl
  have bound : leNat (low ++ [0]) < 256 ^ 31 := by
    have below := beNat_lt low.reverse
    rw [List.length_reverse, size] at below
    simpa [leNat, beNat] using below
  have modulus : 256 ^ 31 < pallasModulus := by decide
  have inRange : (low ++ [0]).length = 32 ∧ leNat (low ++ [0]) < pallasModulus := ⟨wide, by omega⟩
  exact ⟨_, dif_pos inRange, rfl⟩

section Request

variable (target : Address) (count : UInt8) (key0 key1 : B256) (value : U256)

theorem fieldBytes_length (low : List UInt8) (member : low ∈ fieldBytes target count key0 key1 value) :
    low.length = 31 := by
  simp only [fieldBytes, List.mem_cons, List.not_mem_nil, or_false] at member
  rcases member with rfl | rfl | rfl | rfl
  · simp [firstFieldBytes, target.size, key0.size, key1.size, value.toBeBytes.size]
  · rw [List.length_drop, key0.size]
  · rw [List.length_drop, key1.size]
  · rw [List.length_drop, value.toBeBytes.size]

/-- No field reaches the modulus, and each holds its own bytes. -/
theorem packRequestLeafFields_fields : ∃ fields, packRequestLeafFields target count key0 key1 value = .ok fields ∧
    List.Forall₂ (fun low element => element.val = leNat (low ++ [0])) (fieldBytes target count key0 key1 value)
      fields := by
  have sizes := fieldBytes_length target count key0 key1 value
  simp only [fieldBytes, List.forall_mem_cons] at sizes
  rcases sizes with ⟨size0, size1, size2, size3, _⟩
  rcases fromBytes_short size0 with ⟨field0, packed0, value0⟩
  rcases fromBytes_short size1 with ⟨field1, packed1, value1⟩
  rcases fromBytes_short size2 with ⟨field2, packed2, value2⟩
  rcases fromBytes_short size3 with ⟨field3, packed3, value3⟩
  have first : target.bytes ++ [count] ++ key0.bytes.take 1 ++ key1.bytes.take 1 ++ value.toBeBytes.bytes.take 1 ++
      List.replicate 8 0 = firstFieldBytes target count key0 key1 value ++ [0] := by
    simp only [firstFieldBytes, List.append_assoc]
    rfl
  refine ⟨[field0, field1, field2, field3], ?_, .cons value0 (.cons value1 (.cons value2 (.cons value3 .nil)))⟩
  simp only [packRequestLeafFields, first, packed0, packed1, packed2, packed3, ok_bind]
  rfl

theorem requestLeafBytes_target {offset : Nat} (inside : offset < 20) :
    (requestLeafBytes target count key0 key1 value)[offset]? = target.bytes[offset]? := by
  rw [requestLeafBytes, List.getElem?_append_left (by rw [target.size]; exact inside)]

theorem requestLeafBytes_count : (requestLeafBytes target count key0 key1 value)[20]? = some count := by
  rw [requestLeafBytes, List.getElem?_append_right (Nat.le_of_eq target.size), target.size]
  rfl

theorem requestLeafBytes_rest {index offset : Nat} (place : index = 21 + offset) :
    (requestLeafBytes target count key0 key1 value)[index]? =
      (key0.bytes ++ (key1.bytes ++ value.toBeBytes.bytes))[offset]? := by
  have skipped : index - target.bytes.length - [count].length = offset := by
    rw [target.size, List.length_singleton]
    omega
  rw [requestLeafBytes, List.getElem?_append_right (by rw [target.size]; omega),
    List.getElem?_append_right (by rw [target.size, List.length_singleton]; omega), skipped]

theorem requestLeafBytes_key0 {index offset : Nat} (place : index = 21 + offset) (inside : offset < 32) :
    (requestLeafBytes target count key0 key1 value)[index]? = key0.bytes[offset]? := by
  rw [requestLeafBytes_rest _ _ _ _ _ place, List.getElem?_append_left (by rw [key0.size]; exact inside)]

theorem requestLeafBytes_key1 {index offset : Nat} (place : index = 53 + offset) (inside : offset < 32) :
    (requestLeafBytes target count key0 key1 value)[index]? = key1.bytes[offset]? := by
  have skipped : 32 + offset - key0.bytes.length = offset := by
    rw [key0.size]
    omega
  rw [requestLeafBytes_rest _ _ _ _ _ (show index = 21 + (32 + offset) by omega),
    List.getElem?_append_right (by rw [key0.size]; omega), skipped,
    List.getElem?_append_left (by rw [key1.size]; exact inside)]

theorem requestLeafBytes_value {index offset : Nat} (place : index = 85 + offset) :
    (requestLeafBytes target count key0 key1 value)[index]? = value.toBeBytes.bytes[offset]? := by
  have skipped : 32 + (32 + offset) - key0.bytes.length - key1.bytes.length = offset := by
    rw [key0.size, key1.size]
    omega
  rw [requestLeafBytes_rest _ _ _ _ _ (show index = 21 + (32 + (32 + offset)) by omega),
    List.getElem?_append_right (by rw [key0.size]; omega),
    List.getElem?_append_right (by rw [key0.size, key1.size]; omega), skipped]

theorem requestLeafBytes_length : (requestLeafBytes target count key0 key1 value).length = 117 := by
  simp [requestLeafBytes, target.size, key0.size, key1.size, value.toBeBytes.size]

theorem firstFieldBytes_target {offset : Nat} (inside : offset < 20) :
    (firstFieldBytes target count key0 key1 value)[offset]? = target.bytes[offset]? := by
  rw [firstFieldBytes, List.getElem?_append_left (by rw [target.size]; exact inside)]

/-- The count and the leading bytes that the first field takes from the other words. -/
theorem firstFieldBytes_leading : (firstFieldBytes target count key0 key1 value)[20]? = some count ∧
    (firstFieldBytes target count key0 key1 value)[21]? = key0.bytes[0]? ∧
    (firstFieldBytes target count key0 key1 value)[22]? = key1.bytes[0]? ∧
    (firstFieldBytes target count key0 key1 value)[23]? = value.toBeBytes.bytes[0]? := by
  have leading : ∀ word : B256, ∃ byte, word.bytes.take 1 = [byte] ∧ word.bytes[0]? = some byte := by
    intro word
    have size := word.size
    cases bytes : word.bytes with
    | nil =>
      rw [bytes] at size
      cases size
    | cons byte rest => exact ⟨byte, rfl, rfl⟩
  rcases leading key0 with ⟨byte0, taken0, first0⟩
  rcases leading key1 with ⟨byte1, taken1, first1⟩
  rcases leading value.toBeBytes with ⟨byte2, taken2, first2⟩
  simp [firstFieldBytes, taken0, taken1, taken2, first0, first1, first2, target.size]

theorem tail_lookup (word : B256) (offset : Nat) : (word.bytes.drop 1)[offset]? = word.bytes[1 + offset]? :=
  List.getElem?_drop

/-- The layout: every byte of the request stands at its place in its field. -/
theorem byte_routed {index : Nat} (inside : index < 117) : ∃ field offset low,
    fieldAndOffset index = some (field, offset) ∧ (fieldBytes target count key0 key1 value)[field]? = some low ∧
      low[offset]? = (requestLeafBytes target count key0 key1 value)[index]? := by
  rcases firstFieldBytes_leading target count key0 key1 value with ⟨leadCount, lead0, lead1, leadValue⟩
  have atCount := requestLeafBytes_count target count key0 key1 value
  unfold fieldAndOffset
  split_ifs with inTarget isCount isKey0 inKey0 isKey1 inKey1 isValue inValue
  · refine ⟨0, index, _, rfl, rfl, ?_⟩
    rw [firstFieldBytes_target _ _ _ _ _ (by omega), requestLeafBytes_target _ _ _ _ _ (by omega)]
  · refine ⟨0, 20, _, rfl, rfl, ?_⟩
    rw [isCount, leadCount, atCount]
  · refine ⟨0, 21, _, rfl, rfl, ?_⟩
    rw [lead0, requestLeafBytes_key0 _ _ _ _ _ (show index = 21 + 0 by omega) (by decide)]
  · refine ⟨1, index - 22, _, rfl, rfl, ?_⟩
    rw [tail_lookup, requestLeafBytes_key0 _ _ _ _ _ (show index = 21 + (1 + (index - 22)) by omega) (by omega)]
  · refine ⟨0, 22, _, rfl, rfl, ?_⟩
    rw [lead1, requestLeafBytes_key1 _ _ _ _ _ (show index = 53 + 0 by omega) (by decide)]
  · refine ⟨2, index - 54, _, rfl, rfl, ?_⟩
    rw [tail_lookup, requestLeafBytes_key1 _ _ _ _ _ (show index = 53 + (1 + (index - 54)) by omega) (by omega)]
  · refine ⟨0, 23, _, rfl, rfl, ?_⟩
    rw [leadValue, requestLeafBytes_value _ _ _ _ _ (show index = 85 + 0 by omega)]
  · refine ⟨3, index - 86, _, rfl, rfl, ?_⟩
    rw [tail_lookup, requestLeafBytes_value _ _ _ _ _ (show index = 85 + (1 + (index - 86)) by omega)]
  · omega

/-- A byte of the request is the digit of its field at its offset. -/
theorem byte_recovered {fields : List Fp} (packed : packRequestLeafFields target count key0 key1 value = .ok fields)
    {index : Nat} (inside : index < 117) : ∃ field offset element byte,
    fieldAndOffset index = some (field, offset) ∧ fields[field]? = some element ∧
      (requestLeafBytes target count key0 key1 value)[index]? = some byte ∧
      element.val / 256 ^ offset % 256 = byte.toNat := by
  rcases packRequestLeafFields_fields target count key0 key1 value with ⟨_, again, values⟩
  rw [packed] at again
  cases again
  rcases byte_routed target count key0 key1 value inside with ⟨field, offset, low, routed, bytes, same⟩
  have present : index < (requestLeafBytes target count key0 key1 value).length := by
    rw [requestLeafBytes_length]
    exact inside
  rw [List.getElem?_eq_getElem present] at same
  have below : field < fields.length := by
    rw [← values.length_eq]
    exact (List.getElem?_eq_some_iff.mp bytes).1
  have element : fields[field].val = leNat (low ++ [0]) := by
    have paired := values.get (List.getElem?_eq_some_iff.mp bytes).1 below
    simp only [List.get_eq_getElem] at paired
    rw [paired, (List.getElem?_eq_some_iff.mp bytes).2]
  have digit : (low ++ [0])[offset]? = some (requestLeafBytes target count key0 key1 value)[index] := by
    rw [List.getElem?_append_left (List.getElem?_eq_some_iff.mp same).1]
    exact same
  refine ⟨field, offset, fields[field], _, routed, List.getElem?_eq_getElem below, List.getElem?_eq_getElem present, ?_⟩
  rw [element]
  exact leNat_digit digit

end Request

theorem hashRequestLeaf_total (C : Crypto) (target : Address) (count : UInt8) (key0 key1 : B256) (value : U256) :
    ∃ leaf, hashRequestLeaf C target count key0 key1 value = .ok leaf := by
  rcases packRequestLeafFields_fields target count key0 key1 value with ⟨fields, packed, _⟩
  simp only [hashRequestLeaf, packed, ok_bind]
  exact ⟨_, rfl⟩

section Lossless

variable {target target' : Address} {count count' : UInt8} {key0 key0' key1 key1' : B256} {value value' : U256}

theorem toBeBytes_injective (same : value.toBeBytes = value'.toBeBytes) : value = value' := by
  have numbers := congrArg FixedBytes.toNat same
  simp only [U256.toBeBytes, FixedBytes.toNat_ofNat] at numbers
  rw [Nat.mod_eq_of_lt (show value.toNat < 256 ^ 32 from value.isLt),
    Nat.mod_eq_of_lt (show value'.toNat < 256 ^ 32 from value'.isLt)] at numbers
  exact BitVec.eq_of_toNat_eq numbers

theorem requestLeafBytes_injective
    (same : requestLeafBytes target count key0 key1 value = requestLeafBytes target' count' key0' key1' value') :
    target = target' ∧ count = count' ∧ key0 = key0' ∧ key1 = key1' ∧ value = value' := by
  unfold requestLeafBytes at same
  rcases List.append_inj same (by rw [target.size, target'.size]) with ⟨targets, rest⟩
  rcases List.append_inj rest rfl with ⟨counts, rest⟩
  rcases List.append_inj rest (by rw [key0.size, key0'.size]) with ⟨keys0, rest⟩
  rcases List.append_inj rest (by rw [key1.size, key1'.size]) with ⟨keys1, values⟩
  exact ⟨FixedBytes.ext targets, List.head_eq_of_cons_eq counts, FixedBytes.ext keys0, FixedBytes.ext keys1,
    toBeBytes_injective (FixedBytes.ext values)⟩

/-- Equal fields hold equal bytes, digit by digit. -/
theorem packRequestLeafFields_injective {fields : List Fp}
    (packed : packRequestLeafFields target count key0 key1 value = .ok fields)
    (packed' : packRequestLeafFields target' count' key0' key1' value' = .ok fields) :
    target = target' ∧ count = count' ∧ key0 = key0' ∧ key1 = key1' ∧ value = value' := by
  apply requestLeafBytes_injective
  apply List.ext_getElem?
  intro index
  by_cases inside : index < 117
  · rcases byte_recovered target count key0 key1 value packed inside with
      ⟨field, offset, element, byte, routed, found, present, digit⟩
    rcases byte_recovered target' count' key0' key1' value' packed' inside with
      ⟨_, _, _, byte', routed', found', present', digit'⟩
    cases routed.symm.trans routed'
    cases found.symm.trans found'
    rw [present, present']
    exact congrArg some (UInt8.toNat_inj.mp (digit.symm.trans digit'))
  · rw [List.getElem?_eq_none (by rw [requestLeafBytes_length]; omega),
      List.getElem?_eq_none (by rw [requestLeafBytes_length]; omega)]

end Lossless

/-- Packing succeeds for every request, each byte is a digit of its field, and no two requests share their fields. -/
theorem packRequestLeafFields_lossless :
    (∀ (target : Address) (count : UInt8) (key0 key1 : B256) (value : U256),
      ∃ fields, packRequestLeafFields target count key0 key1 value = .ok fields ∧ fields.length = 4 ∧
        ∀ index, index < 117 → ∃ field offset element byte,
          fieldAndOffset index = some (field, offset) ∧ fields[field]? = some element ∧
          (requestLeafBytes target count key0 key1 value)[index]? = some byte ∧
          element.val / 256 ^ offset % 256 = byte.toNat) ∧
    ∀ (target target' : Address) (count count' : UInt8) (key0 key0' key1 key1' : B256) (value value' : U256),
      packRequestLeafFields target count key0 key1 value = packRequestLeafFields target' count' key0' key1' value' →
      target = target' ∧ count = count' ∧ key0 = key0' ∧ key1 = key1' ∧ value = value' := by
  apply And.intro
  · intro target count key0 key1 value
    rcases packRequestLeafFields_fields target count key0 key1 value with ⟨fields, packed, values⟩
    exact ⟨fields, packed, values.length_eq.symm, fun index inside =>
      byte_recovered target count key0 key1 value packed inside⟩
  · intro target target' count count' key0 key0' key1 key1' value value' same
    rcases packRequestLeafFields_fields target count key0 key1 value with ⟨fields, packed, _⟩
    exact packRequestLeafFields_injective packed (same.symm.trans packed)

end NoriProof
