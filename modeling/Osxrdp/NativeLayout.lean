import Osxrdp.NativeDesktop

/-! The desktop that Native mode announces to a client: with the `f64`
arithmetic read as exact it fits the client's window, fills one side of it, and
is within half a pixel of the display's shape on the other. -/
namespace Osxrdp.NativeLayout
open Display DisplayMode FramePipeline

/-- The whole length nearest to an exact one, but at least 1. -/
def Nearest (exact : ℚ) (length : Nat) : Prop :=
  |(length : ℚ) - exact| ≤ 1 / 2 ∨ exact < 1 / 2 ∧ length = 1

/-- A size that fits a client's window, fills one side of it and keeps the shape
of the native size on the other. -/
structure Fits (native : DesktopSize) (clientW clientH : Nat) (size : DesktopSize) : Prop where
  width_pos : 1 ≤ size.width.toNat
  width_le : size.width.toNat ≤ clientW
  height_pos : 1 ≤ size.height.toNat
  height_le : size.height.toNat ≤ clientH
  shape : size.height.toNat = clientH ∧
      Nearest ((clientH : ℚ) * native.width.toNat / native.height.toNat) size.width.toNat ∨
    size.width.toNat = clientW ∧
      Nearest ((clientW : ℚ) * native.height.toNat / native.width.toNat) size.height.toNat

section Sides
variable {q : ℚ} {n : Nat}

private theorem round_bounds (nonneg : 0 ≤ q) (below : q ≤ n) : 0 ≤ round q ∧ round q ≤ n := by
  constructor
  · rw [round_eq]
    apply Int.floor_nonneg.mpr
    linarith
  · have half := round_le_add_half q
    have : (round q : ℚ) < (n : ℚ) + 1 := by linarith
    exact Int.lt_add_one_iff.mp (by exact_mod_cast this)

/-- A length that fits a side of 65535 pixels at most is not cut off by the cast. -/
theorem roundToU16_toNat (nonneg : 0 ≤ q) (below : q ≤ n) (small : n ≤ 65535) :
    (roundToU16 q).toNat = (round q).toNat := by
  obtain ⟨_, rounded⟩ := round_bounds nonneg below
  have fits : (round q).toNat ≤ 65535 := by omega
  have value : min (round q).toNat 65535 < UInt16.size := by
    rw [Nat.min_eq_left fits]
    exact Nat.lt_succ_of_le fits
  rw [roundToU16, Nat.toUInt16, UInt16.toNat_ofNat_of_lt' value, Nat.min_eq_left fits]

/-- At least one, as a number. -/
theorem max_one_toNat (value : UInt16) : (max value 1).toNat = max value.toNat 1 := by
  have larger : max value 1 = if value ≤ 1 then 1 else value := rfl
  rw [larger]
  by_cases small : value ≤ 1
  · rw [if_pos small]
    have := UInt16.le_iff_toNat_le.mp small
    simp only [UInt16.toNat_one] at this ⊢
    omega
  · rw [if_neg small]
    have := UInt16.lt_iff_toNat_lt.mp (UInt16.not_le.mp small)
    simp only [UInt16.toNat_one] at this
    omega

/-- A length no longer than a side of the window is rounded to one that fits it. -/
theorem rounded_side (nonneg : 0 ≤ q) (below : q ≤ n) (positive : 1 ≤ n) (small : n ≤ 65535) :
    1 ≤ (max (roundToU16 q) 1).toNat ∧ (max (roundToU16 q) 1).toNat ≤ n ∧
      Nearest q (max (roundToU16 q) 1).toNat := by
  obtain ⟨least, most⟩ := round_bounds nonneg below
  rw [max_one_toNat, roundToU16_toNat nonneg below small]
  refine ⟨le_max_right _ _, max_le (by omega) positive, ?_⟩
  by_cases vanishes : round q = 0
  · right
    have := sub_half_lt_round q
    rw [vanishes, Int.cast_zero] at this
    exact ⟨by linarith, by simp [vanishes]⟩
  · left
    have length : max (round q).toNat 1 = (round q).toNat := by omega
    have cast : (((round q).toNat : Nat) : ℚ) = round q := by exact_mod_cast Int.toNat_of_nonneg least
    rw [length, cast, abs_sub_comm]
    exact abs_sub_round q

/-- A side of the window itself is kept. -/
theorem whole_side (positive : 1 ≤ n) (small : n ≤ 65535) : (max (roundToU16 (n : ℚ)) 1).toNat = n := by
  rw [max_one_toNat, roundToU16_toNat (Nat.cast_nonneg n) le_rfl small, round_natCast, Int.toNat_natCast]
  exact max_eq_left positive

end Sides

/-- The size in exact arithmetic: one side of the window is kept. -/
theorem exact_size {native : DesktopSize} {clientW clientH : UInt32} (high : clientH ≠ 0) :
    nativeModeSize (Rounding.exact 53) native clientW clientH =
      if (clientW.toNat : ℚ) / clientH.toNat > (native.width.toNat : ℚ) / native.height.toNat then
        ⟨max (roundToU16 (clientH.toNat * (native.width.toNat / native.height.toNat))) 1,
          max (roundToU16 clientH.toNat) 1⟩
      else
        ⟨max (roundToU16 clientW.toNat) 1,
          max (roundToU16 (clientW.toNat / (native.width.toNat / native.height.toNat))) 1⟩ := by
  have decision : (if clientH = 0 then decide (clientW ≠ 0) else decide
      ((Rounding.exact 53).div clientW.toNat clientH.toNat >
        (Rounding.exact 53).div native.width.toNat native.height.toNat)) =
      decide ((clientW.toNat : ℚ) / clientH.toNat > (native.width.toNat : ℚ) / native.height.toNat) :=
    if_neg high
  unfold nativeModeSize
  dsimp only
  rw [decision]
  by_cases wider : (clientW.toNat : ℚ) / clientH.toNat > (native.width.toNat : ℚ) / native.height.toNat
  · rw [if_pos wider, decide_eq_true wider]
    rfl
  · rw [if_neg wider, decide_eq_false wider]
    rfl

private theorem nativeModeSize_fits {native : DesktopSize} {clientW clientH : UInt32} (width : native.width ≠ 0)
    (height : native.height ≠ 0) (wide : clientW ≠ 0) (wideLe : clientW.toNat ≤ 65535)
    (high : clientH ≠ 0) (highLe : clientH.toNat ≤ 65535) :
    Fits native clientW.toNat clientH.toNat (nativeModeSize (Rounding.exact 53) native clientW clientH) := by
  have widthPos : (0 : ℚ) < native.width.toNat := by
    exact_mod_cast Nat.pos_of_ne_zero fun zero => width (UInt16.toNat_inj.mp zero)
  have heightPos : (0 : ℚ) < native.height.toNat := by
    exact_mod_cast Nat.pos_of_ne_zero fun zero => height (UInt16.toNat_inj.mp zero)
  have widePos : 1 ≤ clientW.toNat := Nat.pos_of_ne_zero fun zero => wide (UInt32.toNat_inj.mp zero)
  have highPos : 1 ≤ clientH.toNat := Nat.pos_of_ne_zero fun zero => high (UInt32.toNat_inj.mp zero)
  have clientHeightPos : (0 : ℚ) < clientH.toNat := by exact_mod_cast highPos
  rw [exact_size high]
  by_cases wider : (clientW.toNat : ℚ) / clientH.toNat > (native.width.toNat : ℚ) / native.height.toNat
  · rw [if_pos wider, ← mul_div_assoc]
    have below : (clientH.toNat : ℚ) * native.width.toNat / native.height.toNat ≤ clientW.toNat := by
      rw [gt_iff_lt, div_lt_div_iff₀ heightPos clientHeightPos] at wider
      rw [div_le_iff₀ heightPos, mul_comm (clientH.toNat : ℚ)]
      exact wider.le
    obtain ⟨least, most, near⟩ := rounded_side (by positivity) below widePos wideLe
    have whole := whole_side highPos highLe
    exact ⟨least, most, by rw [whole]; exact highPos, whole.le, .inl ⟨whole, near⟩⟩
  · rw [if_neg wider, div_div_eq_mul_div]
    have below : (clientW.toNat : ℚ) * native.height.toNat / native.width.toNat ≤ clientH.toNat := by
      rw [gt_iff_lt, not_lt, div_le_div_iff₀ clientHeightPos heightPos] at wider
      rw [div_le_iff₀ widthPos, mul_comm (clientH.toNat : ℚ)]
      exact wider
    obtain ⟨least, most, near⟩ := rounded_side (by positivity) below highPos highLe
    have whole := whole_side widePos wideLe
    exact ⟨by rw [whole]; exact widePos, whole.le, least, most, .inr ⟨whole, near⟩⟩

/-- **The Native layout fits the client and keeps the display's shape**, whatever
the handler was at before. -/
theorem native_layout_fits (host : Host) (display : MacDisplay) (aspectMode : display.aspectMode = .native)
    (width : (display.native host).width ≠ 0) (height : (display.native host).height ≠ 0)
    (clientW clientH : UInt32) (wide : clientW ≠ 0) (wideLe : clientW.toNat ≤ 65535)
    (high : clientH ≠ 0) (highLe : clientH.toNat ≤ 65535) (outcome : SwitchOutcome) :
    ∃ size, (display.requestLayout (Rounding.exact 53) host (some (clientW, clientH)) outcome).2.1.currentSize =
        some size ∧ Fits (display.native host) clientW.toNat clientH.toNat size := by
  refine ⟨_, ?_, nativeModeSize_fits width height wide wideLe high highLe⟩
  simp only [MacDisplay.requestLayout, aspectMode, MacDisplay.announce]
  split
  · assumption
  · rfl

/-- A new handler asked for a window of another shape than the display's. -/
theorem wide_window_is_fitted :
    ∃ size, ((MacDisplay.withMode .bgra .native).requestLayout (Rounding.exact 53) laptop
        (some (1920, 1080)) .spawnFailed).2.1.currentSize = some size ∧
      Fits (cgDisplaySize laptop) 1920 1080 size :=
  native_layout_fits laptop (.withMode .bgra .native) rfl (by decide) (by decide) 1920 1080 (by decide)
    (by decide) (by decide) (by decide) .spawnFailed

end Osxrdp.NativeLayout
