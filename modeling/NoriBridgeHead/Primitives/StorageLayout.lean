import NoriBridgeHead.Primitives.Types

open Foundation

namespace NoriModel

def queueHeadStorageIndex : UInt8 := 0
def queueRequestsStorageIndex : UInt8 := 1

def storageSlotOfIndex (index : UInt8) : B256 := (U256.ofU8 index).toBeBytes

def mappingEntryLocation (C : Crypto) (key : U256) (mappingSlotIndex : UInt8) : B256 :=
  C.keccak256 (key.toBeBytes.bytes ++ (U256.ofU8 mappingSlotIndex).toBeBytes.bytes)

def structWordSlot (base : B256) (wordIndex : UInt8) : B256 :=
  (U256.fromBeBytes base + U256.ofU8 wordIndex).toBeBytes

def wordOfAddress (address : Address) : U256 := U256.fromBeBytes address

def wordOfB256 (word : B256) : U256 := U256.fromBeBytes word

end NoriModel

namespace NoriProof

open NoriModel

theorem toBeBytes_fromBeBytes (word : B256) : (U256.fromBeBytes word).toBeBytes = word := by
  have bound : word.toNat < 2^256 := word.toNat_lt
  simp only [U256.fromBeBytes, U256.toBeBytes, BitVec.toNat_ofNat, Nat.mod_eq_of_lt bound,
    FixedBytes.ofNat_toNat]

theorem fromBeBytes_toBeBytes (word : U256) : U256.fromBeBytes word.toBeBytes = word := by
  have bound : word.toNat < 256^32 := word.isLt
  simp only [U256.fromBeBytes, U256.toBeBytes, FixedBytes.toNat_ofNat, Nat.mod_eq_of_lt bound,
    BitVec.ofNat_toNat, BitVec.setWidth_eq]

theorem wordOfB256_injective {left right : B256} (same : wordOfB256 left = wordOfB256 right) :
    left = right := by
  rw [← toBeBytes_fromBeBytes left, ← toBeBytes_fromBeBytes right]
  exact congrArg U256.toBeBytes same

theorem wordOfAddress_toNat (address : Address) : (wordOfAddress address).toNat = address.toNat := by
  have bound : address.toNat < 2^160 := address.toNat_lt
  have wide : address.toNat < 2^256 := Nat.lt_trans bound (by decide)
  simp only [wordOfAddress, U256.fromBeBytes, BitVec.toNat_ofNat, Nat.mod_eq_of_lt wide]

theorem wordOfAddress_injective {left right : Address}
    (same : wordOfAddress left = wordOfAddress right) : left = right := by
  apply FixedBytes.toNat_injective
  rw [← wordOfAddress_toNat, ← wordOfAddress_toNat, same]

theorem ofU8_toNat (value : UInt8) : (U256.ofU8 value).toNat = value.toNat := by
  have bound : value.toNat < 2^256 := Nat.lt_trans value.toNat_lt (by decide)
  simp only [U256.ofU8, BitVec.toNat_ofNat, Nat.mod_eq_of_lt bound]

theorem ofU64_toNat (value : UInt64) : (U256.ofU64 value).toNat = value.toNat := by
  have bound : value.toNat < 2^256 := Nat.lt_trans value.toNat_lt (by decide)
  simp only [U256.ofU64, BitVec.toNat_ofNat, Nat.mod_eq_of_lt bound]

theorem ofU8_injective {left right : UInt8} (same : U256.ofU8 left = U256.ofU8 right) :
    left = right := by
  apply UInt8.toNat_inj.mp
  rw [← ofU8_toNat, ← ofU8_toNat, same]

theorem ofU64_injective {left right : UInt64} (same : U256.ofU64 left = U256.ofU64 right) :
    left = right := by
  apply UInt64.toNat_inj.mp
  rw [← ofU64_toNat, ← ofU64_toNat, same]

end NoriProof
