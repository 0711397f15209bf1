import Mathlib.Algebra.Ring.Nat
import Mathlib.Data.List.Basic

/-! Bytes, and numbers in them, with the low byte first or the high one. -/
namespace Osxrdp

abbrev Bytes := List UInt8

namespace Bytes

def littleEndian : Nat → Nat → Bytes
  | 0, _ => []
  | width + 1, n => n.toUInt8 :: littleEndian width (n / 256)

def fromLittleEndian (bytes : Bytes) : Nat :=
  bytes.foldr (fun byte rest => byte.toNat + 256 * rest) 0

variable {width n : Nat} {bytes : Bytes}

@[simp] theorem littleEndian_length (width n : Nat) : (littleEndian width n).length = width := by
  induction width generalizing n with
  | zero => rfl
  | succ width ih => rw [littleEndian, List.length_cons, ih]

/-- A number of so many bytes is below the power of 256. -/
theorem fromLittleEndian_lt (bytes : Bytes) : fromLittleEndian bytes < 256 ^ bytes.length := by
  induction bytes with
  | nil => exact Nat.one_pos
  | cons byte rest ih =>
    have small := byte.toNat_lt
    simp only [fromLittleEndian, List.foldr_cons, List.length_cons, Nat.pow_succ] at ih ⊢
    omega

/-- A number is read from its bytes, low ones first. -/
theorem fromLittleEndian_littleEndian (small : n < 256 ^ width) :
    fromLittleEndian (littleEndian width n) = n := by
  induction width generalizing n with
  | zero =>
    have zero : n = 0 := by simpa using small
    rw [zero]
    rfl
  | succ width ih =>
    have high : n / 256 < 256 ^ width := Nat.div_lt_of_lt_mul (by rwa [Nat.pow_succ, Nat.mul_comm] at small)
    have low : n.toUInt8.toNat = n % 256 := UInt8.toNat_ofNat'
    have tail := ih high
    simp only [fromLittleEndian, littleEndian, List.foldr_cons] at tail ⊢
    rw [tail, low]
    omega

/-- Bytes are those of the number read from them. -/
theorem littleEndian_fromLittleEndian (bytes : Bytes) :
    littleEndian bytes.length (fromLittleEndian bytes) = bytes := by
  induction bytes with
  | nil => rfl
  | cons byte rest ih =>
    have small := byte.toNat_lt
    have whole : fromLittleEndian (byte :: rest) = byte.toNat + 256 * fromLittleEndian rest := rfl
    rw [List.length_cons, littleEndian, whole]
    congr 1
    · apply UInt8.toNat_inj.mp
      have low : (byte.toNat + 256 * fromLittleEndian rest).toUInt8.toNat =
        (byte.toNat + 256 * fromLittleEndian rest) % 256 := UInt8.toNat_ofNat'
      omega
    · have high : (byte.toNat + 256 * fromLittleEndian rest) / 256 = fromLittleEndian rest := by omega
      rw [high, ih]

theorem littleEndian_two (n : UInt16) : littleEndian 2 n.toNat = [n.toUInt8, (n >>> 8).toUInt8] := by
  have high : (n.toNat / 256).toUInt8 = (n >>> 8).toUInt8 := by
    rw [← UInt8.toNat_inj, UInt16.toNat_toUInt8, UInt16.toNat_shiftRight]
    change n.toNat / 256 % 256 = n.toNat >>> 8 % 256
    rw [Nat.shiftRight_eq_div_pow]
  have low : n.toNat.toUInt8 = n.toUInt8 := by
    rw [← UInt8.toNat_inj, UInt16.toNat_toUInt8]
    rfl
  rw [← high, ← low]
  rfl

theorem littleEndian_four (n : UInt32) : littleEndian 4 n.toNat =
    [n.toUInt8, (n >>> 8).toUInt8, (n >>> 16).toUInt8, (n >>> 24).toUInt8] := by
  have part (k : UInt32) (small : k.toNat % 32 = k.toNat) :
      (n.toNat / 2 ^ k.toNat).toUInt8 = (n >>> k).toUInt8 := by
    rw [← UInt8.toNat_inj, UInt32.toNat_toUInt8, UInt32.toNat_shiftRight, small, Nat.shiftRight_eq_div_pow]
    rfl
  have low : n.toNat.toUInt8 = n.toUInt8 := by
    rw [← UInt8.toNat_inj, UInt32.toNat_toUInt8]
    rfl
  rw [← part 8 rfl, ← part 16 rfl, ← part 24 rfl, ← low]
  simp only [littleEndian, Nat.div_div_eq_div_mul]
  rfl

/-- The other way round. -/
def bigEndian (width n : Nat) : Bytes := (littleEndian width n).reverse

@[simp] theorem bigEndian_length (width n : Nat) : (bigEndian width n).length = width := by
  rw [bigEndian, List.length_reverse, littleEndian_length]

end Bytes
end Osxrdp
