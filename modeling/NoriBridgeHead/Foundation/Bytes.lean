import Mathlib.Data.List.Basic
import Mathlib.Algebra.Order.Ring.Nat
import Mathlib.Data.Set.Function

namespace Foundation

def beNat : List UInt8 → Nat
  | [] => 0
  | byte :: bytes => byte.toNat * 256 ^ bytes.length + beNat bytes

def natBe : Nat → Nat → List UInt8
  | 0, _ => []
  | width + 1, value => UInt8.ofNat (value / 256 ^ width) :: natBe width value

def leNat (bytes : List UInt8) : Nat := beNat bytes.reverse

def natLe (width value : Nat) : List UInt8 := (natBe width value).reverse

@[simp] theorem natBe_length (width value : Nat) : (natBe width value).length = width := by
  induction width with
  | zero => rfl
  | succ width ih => simp [natBe, ih]

@[simp] theorem natLe_length (width value : Nat) : (natLe width value).length = width := by
  simp [natLe]

theorem beNat_lt (bytes : List UInt8) : beNat bytes < 256 ^ bytes.length := by
  induction bytes with
  | nil => simp [beNat]
  | cons byte bytes ih =>
    have bound : byte.toNat ≤ 255 := Nat.le_of_lt_succ byte.toNat_lt
    have scaled := Nat.mul_le_mul_right (256 ^ bytes.length) bound
    simp only [beNat, List.length_cons, Nat.pow_succ]
    omega

theorem beNat_natBe (width value : Nat) : beNat (natBe width value) = value % 256 ^ width := by
  induction width with
  | zero => simp [natBe, beNat, Nat.mod_one]
  | succ width ih =>
    have split := Nat.mod_mul (x := value) (a := 256 ^ width) (b := 256)
    simp only [natBe, beNat, natBe_length, ih, UInt8.toNat_ofNat', Nat.pow_succ, split]
    rw [Nat.add_comm, Nat.mul_comm]

theorem natBe_congr (width : Nat) {left right : Nat}
    (same : left % 256 ^ width = right % 256 ^ width) : natBe width left = natBe width right := by
  induction width with
  | zero => rfl
  | succ width ih =>
    have low : left % 256 ^ width = right % 256 ^ width := by
      have dvd : 256 ^ width ∣ 256 ^ (width + 1) := ⟨256, Nat.pow_succ ..⟩
      rw [← Nat.mod_mod_of_dvd left dvd, same, Nat.mod_mod_of_dvd right dvd]
    have high : left / 256 ^ width % 256 = right / 256 ^ width % 256 := by
      rw [← Nat.mod_mul_right_div_self, ← Nat.mod_mul_right_div_self, ← Nat.pow_succ, same]
    simp only [natBe, ih low, List.cons.injEq, and_true]
    apply UInt8.toNat_inj.mp
    simpa using high

theorem natBe_beNat (bytes : List UInt8) : natBe bytes.length (beNat bytes) = bytes := by
  induction bytes with
  | nil => rfl
  | cons byte bytes ih =>
    have bound := beNat_lt bytes
    have positive : 0 < 256 ^ bytes.length := Nat.pow_pos (by decide)
    have high : (byte.toNat * 256 ^ bytes.length + beNat bytes) / 256 ^ bytes.length = byte.toNat := by
      rw [Nat.add_comm, Nat.add_mul_div_right _ _ positive, Nat.div_eq_of_lt bound, Nat.zero_add]
    have low : natBe bytes.length (byte.toNat * 256 ^ bytes.length + beNat bytes) = bytes := by
      have same : (byte.toNat * 256 ^ bytes.length + beNat bytes) % 256 ^ bytes.length =
          beNat bytes % 256 ^ bytes.length := by simp
      rw [natBe_congr bytes.length same, ih]
    simp only [List.length_cons, natBe, beNat, high, low, UInt8.ofNat_toNat]

theorem beNat_snoc (bytes : List UInt8) (last : UInt8) : beNat (bytes ++ [last]) = beNat bytes * 256 + last.toNat := by
  induction bytes with
  | nil => simp [beNat]
  | cons byte bytes ih =>
    simp only [List.cons_append, beNat, ih, List.length_append, List.length_singleton, Nat.pow_succ]
    rw [Nat.add_mul, Nat.mul_assoc, Nat.add_assoc]

theorem leNat_cons (byte : UInt8) (bytes : List UInt8) : leNat (byte :: bytes) = byte.toNat + 256 * leNat bytes := by
  rw [leNat, List.reverse_cons, beNat_snoc, Nat.add_comm, Nat.mul_comm]
  rfl

/-- Each byte is a digit to the base 256 of the number it was read into. -/
theorem leNat_digit {bytes : List UInt8} {index : Nat} {byte : UInt8} (found : bytes[index]? = some byte) :
    leNat bytes / 256 ^ index % 256 = byte.toNat := by
  induction bytes generalizing index with
  | nil => cases found
  | cons first bytes ih =>
    have bound := first.toNat_lt
    rw [leNat_cons]
    cases index with
    | zero =>
      obtain rfl : first = byte := Option.some.inj found
      rw [Nat.pow_zero, Nat.div_one]
      omega
    | succ index =>
      have rest : (first.toNat + 256 * leNat bytes) / 256 = leNat bytes := by omega
      rw [Nat.pow_succ', ← Nat.div_div_eq_div_mul, rest]
      exact ih found

theorem natBe_drop (width value skipped : Nat) :
    (natBe width value).drop skipped = natBe (width - skipped) value := by
  induction width generalizing skipped with
  | zero => simp [natBe]
  | succ width ih =>
    cases skipped with
    | zero => simp
    | succ skipped => simp [natBe, ih]

structure FixedBytes (width : Nat) where
  bytes : List UInt8
  size : bytes.length = width
deriving DecidableEq

namespace FixedBytes

variable {width : Nat}

@[ext] theorem ext {left right : FixedBytes width} (same : left.bytes = right.bytes) : left = right := by
  cases left
  cases right
  simpa using same

def ofNat (width value : Nat) : FixedBytes width := ⟨natBe width value, natBe_length width value⟩

def toNat (fixed : FixedBytes width) : Nat := beNat fixed.bytes

def zero : FixedBytes width := ofNat width 0

instance : Inhabited (FixedBytes width) := ⟨zero⟩

theorem toNat_lt (fixed : FixedBytes width) : fixed.toNat < 256 ^ width := by
  simpa [toNat, fixed.size] using beNat_lt fixed.bytes

@[simp] theorem toNat_ofNat (width value : Nat) : (ofNat width value).toNat = value % 256 ^ width :=
  beNat_natBe width value

@[simp] theorem ofNat_toNat (fixed : FixedBytes width) : ofNat width fixed.toNat = fixed := by
  have encoded := natBe_beNat fixed.bytes
  rw [fixed.size] at encoded
  exact ext encoded

theorem toNat_injective {left right : FixedBytes width} (same : left.toNat = right.toNat) :
    left = right := by
  rw [← ofNat_toNat left, ← ofNat_toNat right, same]

/-- The trailing bytes, as a slice of a known width. -/
def drop (skipped : Nat) (fixed : FixedBytes width) : FixedBytes (width - skipped) :=
  ⟨fixed.bytes.drop skipped, by simp [fixed.size]⟩

theorem toNat_drop_ofNat (width value skipped : Nat) :
    ((ofNat width value).drop skipped).toNat = value % 256 ^ (width - skipped) := by
  simp only [toNat, drop, ofNat, natBe_drop, beNat_natBe]

end FixedBytes

/-- Decoding accepts exactly the byte strings of one length and inverts encoding both ways. -/
structure ExactCodec {α : Type} (size : Nat) (encode : α → List UInt8) (decode : List UInt8 → Except String α) :
    Prop where
  decodes : ∀ value, decode (encode value) = .ok value
  accepts : ∀ bytes, (∃ value, decode bytes = .ok value) ↔ bytes.length = size
  encodes : ∀ bytes value, decode bytes = .ok value → encode value = bytes

namespace ExactCodec

variable {α : Type} {size : Nat} {encode : α → List UInt8} {decode : List UInt8 → Except String α}

theorem of_inverses (decodes : ∀ value, decode (encode value) = .ok value)
    (rejects : ∀ bytes value, decode bytes = .ok value → bytes.length = size)
    (covers : ∀ bytes, bytes.length = size → ∃ value, decode bytes = .ok value ∧ encode value = bytes) :
    ExactCodec size encode decode := by
  refine ⟨decodes, ?_, ?_⟩
  · intro bytes
    apply Iff.intro
    · rintro ⟨value, decoded⟩
      exact rejects bytes value decoded
    · intro sized
      rcases covers bytes sized with ⟨value, decoded, _⟩
      exact ⟨value, decoded⟩
  · intro bytes value decoded
    rcases covers bytes (rejects bytes value decoded) with ⟨other, again, encoded⟩
    rw [decoded] at again
    rw [Except.ok.inj again]
    exact encoded

theorem bijOn (codec : ExactCodec size encode decode) : Set.BijOn encode Set.univ {bytes | bytes.length = size} := by
  refine ⟨?_, ?_, ?_⟩
  · intro value _
    exact (codec.accepts (encode value)).mp ⟨value, codec.decodes value⟩
  · intro first _ second _ same
    have decoded := codec.decodes first
    rw [same, codec.decodes second] at decoded
    exact (Except.ok.inj decoded).symm
  · intro bytes sized
    rcases (codec.accepts bytes).mpr sized with ⟨value, decoded⟩
    exact ⟨value, Set.mem_univ value, codec.encodes bytes value decoded⟩

end ExactCodec

end Foundation
