import Mathlib.Data.Rat.Floor
import Mathlib.Algebra.Order.Round
import Mathlib.Tactic.FieldSimp
import Mathlib.Tactic.Ring

/-! Boxes fitted to a shape in whole numbers. One side of the box is kept, the
other is the nearest whole length for the shape; which side is kept depends on
the box, so that fitting a fitted box may keep the other one. -/
namespace Osxrdp.AspectFit

/-- The whole number nearest to `k * b / a`, halves upwards. -/
def nearest (k a b : Nat) : Nat := (2 * (k * b) + a) / (2 * a)

/-- A side, which is never empty. -/
def scaled (k a b : Nat) : Nat := max (nearest k a b) 1

def Wider (shape box : Nat × Nat) : Prop := shape.1 * box.2 < box.1 * shape.2

instance (shape box : Nat × Nat) : Decidable (Wider shape box) := inferInstanceAs (Decidable (_ < _))

/-- The box that a shape fills inside another, with its sides rounded. -/
def fit (shape box : Nat × Nat) : Nat × Nat :=
  if Wider shape box then (scaled box.2 shape.2 shape.1, box.2) else (box.1, scaled box.1 shape.1 shape.2)

/-- The side for a kept side `k` is rounded up, or down by no more than half a
unit of the side kept. -/
def Settles (k a b : Nat) : Prop := 2 * (k * b) < a ∨ a ≤ 2 * (k * b % a) ∨ 2 * (k * b % a) ≤ b

instance (k a b : Nat) : Decidable (Settles k a b) := inferInstanceAs (Decidable (_ ∨ _ ∨ _))

variable {k a b : Nat}

theorem scaled_pos (k a b : Nat) : 1 ≤ scaled k a b := le_max_right _ _

/-- Rounding to nearest, on the rationals. -/
theorem round_div (n : Nat) (pos : 0 < a) : round ((n : ℚ) / a) = ((2 * n + a) / (2 * a) : Nat) := by
  have nonzero : (a : ℚ) ≠ 0 := by exact_mod_cast pos.ne'
  have half : (n : ℚ) / a + 1 / 2 = ((2 * n + a : Nat) : ℚ) / ((2 * a : Nat) : ℚ) := by
    push_cast
    field_simp
  rw [round_eq, half, Rat.floor_natCast_div_natCast]
  norm_cast

theorem round_scaled (pos : 0 < a) : round ((k : ℚ) * b / a) = (nearest k a b : Nat) := by
  rw [← Nat.cast_mul, round_div _ pos]
  rfl

/-- A quotient is rounded up from a half on. -/
theorem nearest_eq (pos : 0 < a) :
    nearest k a b = k * b / a + if a ≤ 2 * (k * b % a) then 1 else 0 := by
  have parts := Nat.div_add_mod (k * b) a
  have small := Nat.mod_lt (k * b) pos
  unfold nearest
  generalize k * b / a = d at parts ⊢
  generalize k * b % a = m at parts small ⊢
  have twice : d * (2 * a) = 2 * (a * d) := by ring
  apply Nat.div_eq_of_lt_le
  · split
    · rw [Nat.add_mul, twice]
      omega
    · rw [Nat.add_mul, twice]
      omega
  · split
    · rw [Nat.add_mul, Nat.add_mul, twice]
      omega
    · rw [Nat.add_mul, Nat.add_mul, twice]
      omega

/-- A side that is rounded up, or not rounded, settles. -/
theorem settles_of_le (pos : 0 < a) (up : k * b ≤ scaled k a b * a) : Settles k a b := by
  have parts := Nat.div_add_mod (k * b) a
  have small := Nat.mod_lt (k * b) pos
  unfold Settles
  unfold scaled at up
  rw [nearest_eq pos] at up
  generalize k * b / a = d at parts up
  generalize k * b % a = m at parts small up ⊢
  by_cases half : a ≤ 2 * m
  · exact .inr (.inl half)
  · rw [if_neg half, Nat.add_zero] at up
    cases d with
    | zero =>
      rw [Nat.mul_zero, Nat.zero_add] at parts
      exact .inl (by omega)
    | succ d =>
      rw [Nat.max_eq_left (by omega), Nat.mul_comm (d + 1) a] at up
      exact .inr (.inr (by omega))

private theorem scaled_of_down (pos : 0 < a) (down : scaled k a b * a ≤ k * b) :
    scaled k a b = k * b / a ∧ 0 < k * b / a ∧ 2 * (k * b % a) < a := by
  have parts := Nat.div_add_mod (k * b) a
  have small := Nat.mod_lt (k * b) pos
  unfold scaled at down ⊢
  rw [nearest_eq pos] at down ⊢
  generalize k * b / a = d at parts down ⊢
  generalize k * b % a = m at parts small down ⊢
  by_cases half : a ≤ 2 * m
  · rw [if_pos half, Nat.max_eq_left (Nat.le_add_left 1 d), Nat.add_mul, Nat.mul_comm d a] at down
    omega
  · rw [if_neg half, Nat.add_zero] at down ⊢
    cases d with
    | zero =>
      rw [Nat.mul_zero, Nat.zero_add] at parts
      rw [Nat.max_eq_right (Nat.zero_le 1), Nat.one_mul] at down
      omega
    | succ d => exact ⟨Nat.max_eq_left (by omega), Nat.succ_pos d, by omega⟩

/-- A side that is rounded down, or not rounded, gives back the kept side
exactly when it settles. -/
theorem scaled_scaled_eq_iff (pos : 0 < a) (other : 0 < b) (kept : 0 < k)
    (down : scaled k a b * a ≤ k * b) : scaled (scaled k a b) b a = k ↔ Settles k a b := by
  obtain ⟨whole, filled, low⟩ := scaled_of_down pos down
  have parts := Nat.div_add_mod (k * b) a
  rw [whole]
  unfold Settles
  generalize k * b / a = d at parts filled ⊢
  generalize k * b % a = m at parts low ⊢
  have product : d * a + m = k * b := by rw [Nat.mul_comm d a]; exact parts
  have large : a ≤ d * a := Nat.le_mul_of_pos_left a filled
  have twice : k * (2 * b) = 2 * (k * b) := by ring
  by_cases little : 2 * m ≤ b
  · refine iff_of_true ?_ (.inr (.inr little))
    have back : nearest d b a = k := by
      apply Nat.div_eq_of_lt_le
      · omega
      · rw [Nat.add_mul, twice]
        omega
    rw [scaled, back]
    exact Nat.max_eq_left kept
  · refine iff_of_false (fun back => ?_) (by omega)
    have less : nearest d b a < k := by
      apply Nat.div_lt_of_lt_mul
      rw [Nat.mul_comm (2 * b), twice]
      omega
    have one : k = 1 := by
      unfold scaled at back
      omega
    rw [one, Nat.one_mul] at product
    omega

section Boxes
variable (shape box : Nat × Nat)

theorem fit_pos (wide : 0 < box.1) (high : 0 < box.2) :
    0 < (fit shape box).1 ∧ 0 < (fit shape box).2 := by
  unfold fit
  split
  · exact ⟨scaled_pos _ _ _, high⟩
  · exact ⟨wide, scaled_pos _ _ _⟩

/-- **Fitting is idempotent** on a box exactly when the side that is rounded settles. -/
theorem fit_fit_eq_iff (width : 0 < shape.1) (height : 0 < shape.2) (wide : 0 < box.1) (high : 0 < box.2) :
    fit shape (fit shape box) = fit shape box ↔
      if Wider shape box then Settles box.2 shape.2 shape.1 else Settles box.1 shape.1 shape.2 := by
  by_cases wider : Wider shape box
  · rw [if_pos wider, show fit shape box = (scaled box.2 shape.2 shape.1, box.2) from if_pos wider]
    by_cases again : Wider shape (scaled box.2 shape.2 shape.1, box.2)
    · rw [fit, if_pos again]
      have up : box.2 * shape.1 ≤ scaled box.2 shape.2 shape.1 * shape.2 := by
        rw [Nat.mul_comm]
        exact again.le
      exact iff_of_true rfl (settles_of_le height up)
    · rw [fit, if_neg again, Prod.mk.injEq, and_iff_right rfl]
      have down : scaled box.2 shape.2 shape.1 * shape.2 ≤ box.2 * shape.1 := by
        rw [Nat.mul_comm box.2]
        exact Nat.le_of_not_lt again
      exact scaled_scaled_eq_iff height width high down
  · rw [if_neg wider, show fit shape box = (box.1, scaled box.1 shape.1 shape.2) from if_neg wider]
    by_cases again : Wider shape (box.1, scaled box.1 shape.1 shape.2)
    · rw [fit, if_pos again, Prod.mk.injEq, and_iff_left rfl]
      have down : scaled box.1 shape.1 shape.2 * shape.1 ≤ box.1 * shape.2 := by
        rw [Nat.mul_comm]
        exact again.le
      exact scaled_scaled_eq_iff width height wide down
    · rw [fit, if_neg again]
      have up : box.1 * shape.2 ≤ scaled box.1 shape.1 shape.2 * shape.1 := by
        rw [Nat.mul_comm (scaled _ _ _)]
        exact Nat.le_of_not_lt again
      exact iff_of_true rfl (settles_of_le width up)

private theorem scaled_self {k other : Nat} (kept : 0 < k) (filled : 0 < other) : scaled k k other = other := by
  have exact_quotient : nearest k k other = other := by
    rw [nearest_eq kept, Nat.mul_div_cancel_left _ kept, Nat.mul_mod_right, if_neg (by omega), Nat.add_zero]
  rw [scaled, exact_quotient]
  exact Nat.max_eq_left filled

/-- A box is fitted to the shape itself when it has one side of the shape, and
covers the other. -/
theorem fit_eq_shape_iff (width : 0 < shape.1) (height : 0 < shape.2) :
    fit shape box = shape ↔ box.1 = shape.1 ∧ shape.2 ≤ box.2 ∨ shape.1 ≤ box.1 ∧ box.2 = shape.2 := by
  obtain ⟨a, b⟩ := shape
  obtain ⟨w, h⟩ := box
  dsimp only at width height ⊢
  unfold fit
  by_cases wider : Wider (a, b) (w, h)
  · rw [if_pos wider, Prod.mk.injEq]
    dsimp only [Wider] at wider ⊢
    constructor
    · rintro ⟨_, rfl⟩
      exact .inr ⟨(Nat.lt_of_mul_lt_mul_right wider).le, rfl⟩
    · rintro (⟨rfl, le⟩ | ⟨_, rfl⟩)
      · exact absurd wider (Nat.not_lt.mpr (Nat.mul_le_mul_left _ le))
      · exact ⟨scaled_self height width, rfl⟩
  · rw [if_neg wider, Prod.mk.injEq]
    dsimp only [Wider] at wider ⊢
    constructor
    · rintro ⟨rfl, _⟩
      exact .inl ⟨rfl, Nat.le_of_mul_le_mul_left (Nat.le_of_not_lt wider) width⟩
    · rintro (⟨rfl, _⟩ | ⟨le, rfl⟩)
      · exact ⟨rfl, scaled_self width height⟩
      · have same : w = a := Nat.le_antisymm (Nat.le_of_mul_le_mul_right (Nat.le_of_not_lt wider) height) le
        rw [same]
        exact ⟨rfl, scaled_self width height⟩

end Boxes

end Osxrdp.AspectFit
