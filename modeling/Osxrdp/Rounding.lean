import Mathlib.Algebra.Order.Round
import Mathlib.Data.Rat.Floor
import Mathlib.Tactic.Linarith
import Mathlib.Tactic.Positivity
import Mathlib.Tactic.NormNum

/-! Rounded arithmetic on rationals. An operation of a floating-point format
is the exact operation followed by one rounding; the laws below are the ones
every rounding to `precision` significant bits obeys while no exponent leaves
the format's range. Exact arithmetic is the rounding that changes nothing. -/
namespace Osxrdp

/-- A rounding of rationals with a relative error, as IEEE 754 has it. -/
structure Rounding (precision : Nat) where
  round : ℚ → ℚ
  monotone : Monotone round
  /-- Integers with at most `precision` bits are representable. -/
  natural : ∀ n : Nat, n ≤ 2 ^ precision → round n = n
  /-- The relative error is at most half a unit in the last place. -/
  close : ∀ q, |round q - q| ≤ |q| / 2 ^ precision

namespace Rounding
variable {precision : Nat} (fl : Rounding precision)

/-- Arithmetic read as exact. -/
def exact (precision : Nat) : Rounding precision where
  round q := q
  monotone _ _ le := le
  natural _ _ := rfl
  close q := by simpa using div_nonneg (abs_nonneg q) (by positivity)

@[simp] theorem exact_round (q : ℚ) : (exact precision).round q = q := rfl

def sub (a b : ℚ) : ℚ := fl.round (a - b)

def mul (a b : ℚ) : ℚ := fl.round (a * b)

def div (a b : ℚ) : ℚ := fl.round (a / b)

theorem round_zero : fl.round 0 = 0 := by
  simpa using fl.natural 0 (Nat.zero_le _)

theorem round_nonneg {q : ℚ} (nonneg : 0 ≤ q) : 0 ≤ fl.round q := by
  simpa [fl.round_zero] using fl.monotone nonneg

/-- Rounding never passes a representable integer. -/
theorem round_le_natural {q : ℚ} {n : Nat} (small : n ≤ 2 ^ precision) (below : q ≤ n) :
    fl.round q ≤ n := by
  simpa [fl.natural n small] using fl.monotone below

/-- A rounding loses no more than its precision. -/
theorem le_round (q : ℚ) : q - |q| / 2 ^ precision ≤ fl.round q := by
  have := (abs_le.mp (fl.close q)).1
  linarith

/-- A computed difference at least as large as a rounded threshold witnesses
an exact difference of more than half that threshold. -/
theorem half_threshold_le_abs_sub (bits : 2 ≤ precision) {a b threshold : ℚ}
    (positive : 0 < threshold) (apart : ¬ |fl.sub a b| < fl.round threshold) :
    threshold / 2 ≤ |a - b| := by
  have scale : (4 : ℚ) ≤ 2 ^ precision := by
    calc (4 : ℚ) = 2 ^ 2 := by norm_num
      _ ≤ 2 ^ precision := pow_le_pow_right₀ (by norm_num) bits
  have quarter : ∀ q : ℚ, 0 ≤ q → q / 2 ^ precision ≤ q / 4 := fun q nonneg =>
    div_le_div_of_nonneg_left nonneg (by norm_num) scale
  have lower : threshold - threshold / 4 ≤ fl.round threshold := by
    have := fl.le_round threshold
    rw [abs_of_pos positive] at this
    linarith [quarter threshold positive.le]
  have upper : |fl.sub a b| ≤ |a - b| + |a - b| / 4 := by
    have triangle := abs_sub_abs_le_abs_sub (fl.sub a b) (a - b)
    have := fl.close (a - b)
    have := quarter |a - b| (abs_nonneg _)
    unfold sub at triangle ⊢
    linarith
  have := not_lt.mp apart
  linarith

end Rounding
end Osxrdp
