import NoriBridgeHead.Foundation.Bytes
import Mathlib.Data.Nat.Log

namespace Foundation

/-- An encoding whose end can be found without knowing what follows it. -/
structure SelfDelimiting {ε α : Type} (encode : α → Except ε (List UInt8)) : Prop where
  unique : ∀ left right code code' rest rest', encode left = .ok code → encode right = .ok code' →
    code ++ rest = code' ++ rest' → left = right
  nonempty : ∀ value code, encode value = .ok code → code ≠ []

theorem SelfDelimiting.split {ε α : Type} {encode : α → Except ε (List UInt8)} (delimited : SelfDelimiting encode)
    {left right : α} {code code' rest rest' : List UInt8} (first : encode left = .ok code)
    (second : encode right = .ok code') (same : code ++ rest = code' ++ rest') : left = right ∧ rest = rest' := by
  obtain rfl := delimited.unique _ _ _ _ _ _ first second same
  obtain rfl : code = code' := Except.ok.inj (first.symm.trans second)
  exact ⟨rfl, List.append_cancel_left same⟩

def encodeOptional {ε α : Type} (encode : α → Except ε (List UInt8)) : Option α → Except ε (List UInt8)
  | some value => encode value
  | none => .ok []

/-- An absent optional tail is never confused with a present one. -/
theorem SelfDelimiting.optional {ε α : Type} {encode : α → Except ε (List UInt8)} (delimited : SelfDelimiting encode)
    {left right : Option α} {code : List UInt8} (first : encodeOptional encode left = .ok code)
    (second : encodeOptional encode right = .ok code) : left = right := by
  cases left with
  | none =>
    cases right with
    | none => rfl
    | some value => exact absurd (Except.ok.inj first).symm (delimited.nonempty value code second)
  | some value =>
    cases right with
    | none => exact absurd (Except.ok.inj second).symm (delimited.nonempty value code first)
    | some other =>
      have whole : code ++ [] = code ++ [] := rfl
      rw [(delimited.split first second whole).1]

namespace Rlp

def byteLength (value : Nat) : Nat := Nat.log2 value / 8 + 1

def encodeUint (value : Nat) : List UInt8 :=
  if value = 0 then [0x80]
  else if value < 0x80 then [UInt8.ofNat value]
  else UInt8.ofNat (0x80 + byteLength value) :: natBe (byteLength value) value

theorem lt_byteLength (value : Nat) : value < 256 ^ byteLength value := by
  have below : value < 2 ^ (Nat.log2 value + 1) := Nat.lt_log2_self
  have wider : 2 ^ (Nat.log2 value + 1) ≤ 2 ^ (8 * byteLength value) :=
    Nat.pow_le_pow_right (by decide) (by unfold byteLength; omega)
  have bytes : (2 : Nat) ^ (8 * byteLength value) = 256 ^ byteLength value := by rw [Nat.pow_mul]
  rw [bytes] at wider
  exact Nat.lt_of_lt_of_le below wider

theorem byteLength_le {value : Nat} (bound : value < 2 ^ 256) : byteLength value ≤ 32 := by
  by_cases zero : value = 0
  · subst zero
    decide
  · have log := (Nat.log2_lt zero).mpr bound
    unfold byteLength
    omega

theorem encodeUint_head {value : Nat} (bound : value < 2 ^ 256) :
    (value = 0 ∧ encodeUint value = [0x80]) ∨
    (0 < value ∧ value < 0x80 ∧ encodeUint value = [UInt8.ofNat value]) ∨
    (∃ size, 1 ≤ size ∧ size ≤ 32 ∧ value < 256 ^ size ∧
      encodeUint value = UInt8.ofNat (0x80 + size) :: natBe size value) := by
  unfold encodeUint
  by_cases zero : value = 0
  · exact .inl ⟨zero, if_pos zero⟩
  · by_cases small : value < 0x80
    · exact .inr (.inl ⟨by omega, small, by rw [if_neg zero, if_pos small]⟩)
    · refine .inr (.inr ⟨byteLength value, by unfold byteLength; omega, byteLength_le bound,
        lt_byteLength value, ?_⟩)
      rw [if_neg zero, if_neg small]

theorem encodeUint_split {left right : Nat} (boundLeft : left < 2 ^ 256) (boundRight : right < 2 ^ 256)
    {rest rest' : List UInt8} (same : encodeUint left ++ rest = encodeUint right ++ rest') :
    left = right ∧ rest = rest' := by
  have equal : left = right := by
    rcases encodeUint_head boundLeft with ⟨zero, code⟩ | ⟨positive, small, code⟩ | ⟨size, low, high, fits, code⟩
    all_goals
      rcases encodeUint_head boundRight with ⟨zero', code'⟩ | ⟨positive', small', code'⟩ |
        ⟨size', low', high', fits', code'⟩
    all_goals
      rw [code, code'] at same
      simp only [List.cons_append, List.nil_append] at same
      have head := congrArg UInt8.toNat (List.cons.inj same).1
      simp only [UInt8.toNat_ofNat', UInt8.reduceToNat, Nat.reducePow] at head
      try omega
    -- both are long forms, so the lengths agree and the digits decide
    obtain rfl : size = size' := by omega
    have digits := List.append_inj_left (List.cons.inj same).2 (by simp)
    have numbers := congrArg beNat digits
    rw [beNat_natBe, beNat_natBe, Nat.mod_eq_of_lt fits, Nat.mod_eq_of_lt fits'] at numbers
    exact numbers
  subst equal
  exact ⟨rfl, List.append_cancel_left same⟩

theorem encodeUint_injective {left right : Nat} (boundLeft : left < 2 ^ 256) (boundRight : right < 2 ^ 256)
    (same : encodeUint left = encodeUint right) : left = right :=
  (encodeUint_split boundLeft boundRight (congrArg (· ++ []) same)).1

end Rlp

end Foundation
