import Osxrdp.DisplayMode
import Osxrdp.Rounding
import Osxrdp.Scan

/-! `display_mode.rs`: how `run_helper` selects the mode to switch to. Its two
loops are one scan with one preference when their arithmetic is exact. -/
namespace Osxrdp.ModeSelection
open DisplayMode (CGDisplayMode laptop)

/-- `f64::MAX` -/
def f64Max : ℚ := 2 ^ 1024 - 2 ^ 971

/-- The mode's width, as the loops compare it. -/
def modeW (mode : CGDisplayMode) : UInt32 := mode.width.toUInt32

/-- The mode's height, as the loops compare it. -/
def modeH (mode : CGDisplayMode) : UInt32 := mode.height.toUInt32

/-- `best_mode`, `best_ratio_diff` and `best_pixel_diff`. -/
structure Best where
  mode : Option CGDisplayMode
  ratioDiff : ℚ
  pixelDiff : ℚ
  deriving DecidableEq

/-- What a loop starts from. -/
def Best.start : Best := { mode := none, ratioDiff := f64Max, pixelDiff := f64Max }

section Loops
variable (fl : Rounding 53) (targetW targetH : UInt32)

/-- The shape of a size. -/
def ratio (w h : UInt32) : ℚ := fl.div w.toNat h.toNat

/-- The pixels of a size. -/
def pixels (w h : UInt32) : ℚ := fl.mul w.toNat h.toNat

/-- How far the mode's shape is from the target's. -/
def ratioDiff (mode : CGDisplayMode) : ℚ :=
  |fl.sub (ratio fl (modeW mode) (modeH mode)) (ratio fl targetW targetH)|

/-- How far the mode's pixels are from the target's. -/
def pixelDiff (mode : CGDisplayMode) : ℚ :=
  |fl.sub (pixels fl (modeW mode) (modeH mode)) (pixels fl targetW targetH)|

/-- Within the ratio that is traded for a closer number of pixels. -/
def closerPixels (best : Best) (mode : CGDisplayMode) : Bool :=
  ratioDiff fl targetW targetH mode < fl.round (best.ratioDiff + fl.round (1 / 1000)) &&
    pixelDiff fl targetW targetH mode < best.pixelDiff

/-- When the first loop replaces its best mode. -/
def replacesWithinTolerance (best : Best) (mode : CGDisplayMode) : Bool :=
  ratioDiff fl targetW targetH mode < fl.round (1 / 50) &&
    (ratioDiff fl targetW targetH mode < fl.sub best.ratioDiff (fl.round (1 / 1000)) ||
      closerPixels fl targetW targetH best mode)

/-- When the second loop replaces its best mode. -/
def replacesRelaxed (best : Best) (mode : CGDisplayMode) : Bool :=
  ratioDiff fl targetW targetH mode < best.ratioDiff || closerPixels fl targetW targetH best mode

/-- The body of either loop. -/
def consider (replaces : Best → CGDisplayMode → Bool) (best : Best) (mode : CGDisplayMode) : Best :=
  if modeH mode = 0 ∨ modeW mode = 0 then best
  else if pixels fl (modeW mode) (modeH mode) < fl.mul (pixels fl targetW targetH) (1 / 4) then best
  else if replaces best mode then {
    mode := some mode
    ratioDiff := ratioDiff fl targetW targetH mode
    pixelDiff := pixelDiff fl targetW targetH mode }
  else best

/-- A target without height has an infinite ratio or none; no comparison with
it succeeds. -/
def bestMode (modes : List CGDisplayMode) : Option CGDisplayMode :=
  if targetH = 0 then none
  else
    let best := modes.foldl (consider fl targetW targetH (replacesWithinTolerance fl targetW targetH))
      Best.start
    let best := if best.mode = none
      then modes.foldl (consider fl targetW targetH (replacesRelaxed fl targetW targetH)) best else best
    best.mode

end Loops

/-- The width and height of the mode the display is in, if it can be told. -/
def currentSize (current : Option CGDisplayMode) : UInt64 × UInt64 :=
  match current with
  | some mode => (mode.width, mode.height)
  | none => (0, 0)

/-- What `--display-mode-switch` finds. -/
inductive Search where
  | alreadyAtTarget
  | noMode
  | selected (mode : CGDisplayMode)
  deriving DecidableEq, Repr

/-- The helper's search. No mode is looked for where the display has the target's size. -/
def search (fl : Rounding 53) (modes : List CGDisplayMode) (current : Option CGDisplayMode)
    (targetW targetH : UInt32) : Search :=
  if currentSize current = (targetW.toUInt64, targetH.toUInt64) then .alreadyAtTarget
  else match bestMode fl targetW targetH modes with
    | none => .noMode
    | some mode => .selected mode

section Measures
variable (targetW targetH : UInt32)

/-- The difference of the aspect ratios of a mode and the target. -/
def ratioDifference (mode : CGDisplayMode) : ℚ :=
  |((modeW mode).toNat / (modeH mode).toNat : ℚ) - (targetW.toNat / targetH.toNat : ℚ)|

/-- The difference of the numbers of pixels of a mode and the target. -/
def pixelDifference (mode : CGDisplayMode) : ℚ :=
  |((modeW mode).toNat * (modeH mode).toNat : ℚ) - (targetW.toNat * targetH.toNat : ℚ)|

/-- Neither dimension is zero, and the mode has a quarter of the target's pixels. -/
def Eligible (mode : CGDisplayMode) : Prop :=
  modeW mode ≠ 0 ∧ modeH mode ≠ 0 ∧
    targetW.toNat * targetH.toNat ≤ 4 * ((modeW mode).toNat * (modeH mode).toNat)

instance : DecidablePred (Eligible targetW targetH) := fun _ => inferInstanceAs (Decidable (_ ∧ _))

/-- The aspect ratios are the same within the tolerance. -/
def Near (mode : CGDisplayMode) : Prop := ratioDifference targetW targetH mode < 1 / 50

instance : DecidablePred (Near targetW targetH) := fun _ => inferInstanceAs (Decidable (_ < _))

/-- Closer in pixels, and less than 0.001 farther in ratio. -/
def Closer (next kept : CGDisplayMode) : Prop :=
  ratioDifference targetW targetH next < ratioDifference targetW targetH kept + 1 / 1000 ∧
    pixelDifference targetW targetH next < pixelDifference targetW targetH kept

instance : DecidableRel (Closer targetW targetH) := fun _ _ => inferInstanceAs (Decidable (_ ∧ _))

/-- The preference of the first loop. -/
def PrefersNear (next kept : CGDisplayMode) : Prop :=
  ratioDifference targetW targetH next < ratioDifference targetW targetH kept - 1 / 1000 ∨
    Closer targetW targetH next kept

instance : DecidableRel (PrefersNear targetW targetH) := fun _ _ => inferInstanceAs (Decidable (_ ∨ _))

/-- The preference of the second loop. -/
def PrefersRelaxed (next kept : CGDisplayMode) : Prop :=
  ratioDifference targetW targetH next < ratioDifference targetW targetH kept ∨
    Closer targetW targetH next kept

instance : DecidableRel (PrefersRelaxed targetW targetH) := fun _ _ => inferInstanceAs (Decidable (_ ∨ _))

/-- The preference of both loops together: the relaxed one holds while the mode
kept is not near. -/
abbrev Prefers : CGDisplayMode → CGDisplayMode → Prop :=
  Scan.Either (Near targetW targetH) (PrefersNear targetW targetH) (PrefersRelaxed targetW targetH)

end Measures

section Exact
variable {targetW targetH : UInt32}

/-- The variables of a loop after it has kept this mode. -/
def Best.of (targetW targetH : UInt32) : Option CGDisplayMode → Best
  | none => Best.start
  | some mode => {
    mode := some mode
    ratioDiff := ratioDifference targetW targetH mode
    pixelDiff := pixelDifference targetW targetH mode }

@[simp] theorem Best.of_mode (kept : Option CGDisplayMode) : (Best.of targetW targetH kept).mode = kept := by
  cases kept <;> rfl

private theorem too_small_iff (mode : CGDisplayMode) :
    pixels (.exact 53) (modeW mode) (modeH mode) <
        (Rounding.exact 53).mul (pixels (.exact 53) targetW targetH) (1 / 4) ↔
      ¬ targetW.toNat * targetH.toNat ≤ 4 * ((modeW mode).toNat * (modeH mode).toNat) := by
  have cast : (targetW.toNat * targetH.toNat ≤ 4 * ((modeW mode).toNat * (modeH mode).toNat)) ↔
      (targetW.toNat * targetH.toNat : ℚ) ≤ 4 * ((modeW mode).toNat * (modeH mode).toNat) := by
    exact_mod_cast Iff.rfl
  rw [cast, not_le]
  change ((modeW mode).toNat * (modeH mode).toNat : ℚ) < (targetW.toNat * targetH.toNat : ℚ) * (1 / 4) ↔ _
  constructor <;> intro less <;> linarith

private theorem consider_exact (replaces : Best → CGDisplayMode → Bool) (best : Best) (mode : CGDisplayMode) :
    consider (.exact 53) targetW targetH replaces best mode =
      if Eligible targetW targetH mode ∧ replaces best mode = true
      then Best.of targetW targetH (some mode) else best := by
  unfold consider
  by_cases zero : modeH mode = 0 ∨ modeW mode = 0
  · have ineligible : ¬ Eligible targetW targetH mode := fun eligible => zero.elim eligible.2.1 eligible.1
    rw [if_pos zero, if_neg (fun both => ineligible both.1)]
  · rw [if_neg zero]
    rw [not_or] at zero
    by_cases small : targetW.toNat * targetH.toNat ≤ 4 * ((modeW mode).toNat * (modeH mode).toNat)
    · have eligible : Eligible targetW targetH mode := ⟨zero.2, zero.1, small⟩
      rw [if_neg (fun less => too_small_iff mode |>.mp less small)]
      simp only [eligible, true_and]
      rfl
    · rw [if_pos ((too_small_iff mode).mpr small), if_neg (fun both => small both.1.2.2)]

/-- A loop is a scan, when its test is a preference among the modes it considers. -/
theorem loop_eq_kept (considers : CGDisplayMode → Prop) [DecidablePred considers]
    (prefers : CGDisplayMode → CGDisplayMode → Prop) [DecidableRel prefers]
    {replaces : Best → CGDisplayMode → Bool}
    (only : ∀ mode, considers mode → Eligible targetW targetH mode)
    (first : ∀ mode, Eligible targetW targetH mode → (replaces Best.start mode = true ↔ considers mode))
    (next : ∀ mode kept, Eligible targetW targetH mode →
      (replaces (Best.of targetW targetH (some kept)) mode = true ↔ considers mode ∧ prefers mode kept))
    (modes : List CGDisplayMode) :
    modes.foldl (consider (.exact 53) targetW targetH replaces) Best.start =
      Best.of targetW targetH (Scan.kept considers prefers modes) := by
  induction modes using List.reverseRecOn with
  | nil => rfl
  | append_singleton modes mode ih =>
    rw [List.foldl_concat, ih, consider_exact]
    by_cases considered : considers mode
    · have eligible := only mode considered
      cases earlier : Scan.kept considers prefers modes with
      | none => rw [Scan.kept_first considered earlier, if_pos ⟨eligible, (first mode eligible).mpr considered⟩]
      | some kept =>
        rw [Scan.kept_next considered earlier]
        by_cases preferred : prefers mode kept
        · rw [if_pos preferred, if_pos ⟨eligible, (next mode kept eligible).mpr ⟨considered, preferred⟩⟩]
        · rw [if_neg preferred, if_neg (fun both => preferred ((next mode kept eligible).mp both.2).2)]
    · rw [Scan.kept_skips considered]
      apply if_neg
      rintro ⟨eligible, replaced⟩
      cases earlier : Scan.kept considers prefers modes with
      | none =>
        rw [earlier] at replaced
        exact considered ((first mode eligible).mp replaced)
      | some kept =>
        rw [earlier] at replaced
        exact considered ((next mode kept eligible).mp replaced).1

private theorem ratio_lt (w h : UInt32) : (w.toNat / h.toNat : ℚ) < 2 ^ 32 := by
  have small : (w.toNat : ℚ) < 2 ^ 32 := by exact_mod_cast w.toNat_lt
  by_cases zero : h.toNat = 0
  · rw [zero, Nat.cast_zero, div_zero]
    positivity
  · have least : (1 : ℚ) ≤ h.toNat := by exact_mod_cast Nat.one_le_iff_ne_zero.mpr zero
    exact (div_le_self (Nat.cast_nonneg _) least).trans_lt small

private theorem sub_large {large larger : ℚ} (least : 2 ^ 33 ≤ large) (doubled : large * 2 ≤ larger) :
    2 ^ 32 ≤ larger - large - 1 := by
  linarith

private theorem f64Max_large : (2 : ℚ) ^ 32 ≤ f64Max - 1 := by
  have doubled : (2 : ℚ) ^ 971 * 2 ≤ 2 ^ 1024 := by
    rw [← pow_succ]
    exact pow_le_pow_right₀ (by norm_num) (by norm_num)
  exact sub_large (pow_le_pow_right₀ (by norm_num) (by norm_num)) doubled

private theorem ratioDifference_lt_start (targetW targetH : UInt32) (mode : CGDisplayMode) :
    ratioDifference targetW targetH mode < f64Max - 1 := by
  have modeSmall := ratio_lt (modeW mode) (modeH mode)
  have targetSmall := ratio_lt targetW targetH
  have modeNonneg : (0 : ℚ) ≤ (modeW mode).toNat / (modeH mode).toNat := by positivity
  have targetNonneg : (0 : ℚ) ≤ targetW.toNat / targetH.toNat := by positivity
  apply lt_of_lt_of_le _ f64Max_large
  unfold ratioDifference
  rw [abs_lt]
  constructor <;> linarith

private theorem replacesWithinTolerance_start (mode : CGDisplayMode) :
    replacesWithinTolerance (.exact 53) targetW targetH Best.start mode = true ↔ Near targetW targetH mode := by
  have small := ratioDifference_lt_start targetW targetH mode
  simp only [replacesWithinTolerance, closerPixels, Bool.and_eq_true, Bool.or_eq_true, decide_eq_true_eq]
  change Near targetW targetH mode ∧ (ratioDifference targetW targetH mode < f64Max - 1 / 1000 ∨ _) ↔ _
  exact and_iff_left (.inl (by linarith))

private theorem replacesWithinTolerance_kept (mode kept : CGDisplayMode) :
    replacesWithinTolerance (.exact 53) targetW targetH (Best.of targetW targetH (some kept)) mode = true ↔
      Near targetW targetH mode ∧ PrefersNear targetW targetH mode kept := by
  simp only [replacesWithinTolerance, closerPixels, Bool.and_eq_true, Bool.or_eq_true, decide_eq_true_eq]
  exact Iff.rfl

private theorem replacesRelaxed_start (mode : CGDisplayMode) :
    replacesRelaxed (.exact 53) targetW targetH Best.start mode = true := by
  have small := ratioDifference_lt_start targetW targetH mode
  simp only [replacesRelaxed, closerPixels, Bool.and_eq_true, Bool.or_eq_true, decide_eq_true_eq]
  change ratioDifference targetW targetH mode < f64Max ∨ _
  exact .inl (by linarith)

private theorem replacesRelaxed_kept (mode kept : CGDisplayMode) :
    replacesRelaxed (.exact 53) targetW targetH (Best.of targetW targetH (some kept)) mode = true ↔
      PrefersRelaxed targetW targetH mode kept := by
  simp only [replacesRelaxed, closerPixels, Bool.and_eq_true, Bool.or_eq_true, decide_eq_true_eq]
  exact Iff.rfl

/-- With exact arithmetic the two loops are one scan of the eligible modes. -/
theorem bestMode_eq_kept (height : targetH ≠ 0) (modes : List CGDisplayMode) :
    bestMode (.exact 53) targetW targetH modes =
      Scan.kept (Eligible targetW targetH) (Prefers targetW targetH) modes := by
  have first := loop_eq_kept
    (fun mode => Eligible targetW targetH mode ∧ Near targetW targetH mode)
    (PrefersNear targetW targetH) (fun _ both => both.1)
    (fun mode eligible => (replacesWithinTolerance_start mode).trans (and_iff_right eligible).symm)
    (fun mode kept eligible => (replacesWithinTolerance_kept mode kept).trans
      (and_congr_left' (and_iff_right eligible).symm)) modes
  have second := loop_eq_kept (Eligible targetW targetH) (PrefersRelaxed targetW targetH)
    (fun _ eligible => eligible)
    (fun mode eligible => iff_of_true (replacesRelaxed_start mode) eligible)
    (fun mode kept eligible => (replacesRelaxed_kept mode kept).trans (and_iff_right eligible).symm) modes
  have wins : ∀ next kept, Near targetW targetH next → ¬ Near targetW targetH kept →
      PrefersRelaxed targetW targetH next kept :=
    fun next kept near far => .inl (lt_of_lt_of_le near (not_lt.mp far))
  rw [← Scan.kept_two_passes wins]
  unfold bestMode
  rw [if_neg height, first]
  dsimp only
  cases nearest : Scan.kept (fun mode => Eligible targetW targetH mode ∧ Near targetW targetH mode)
    (PrefersNear targetW targetH) modes with
  | none =>
    have start : Best.of targetW targetH none = Best.start := rfl
    rw [if_pos (Best.of_mode none), start, second, Best.of_mode, Option.none_or]
  | some mode => rw [if_neg (by simp), Best.of_mode, Option.some_or]

/-- The mode has the target's dimensions, as the helper reads them. -/
def SameSize (targetW targetH : UInt32) (mode : CGDisplayMode) : Prop :=
  modeW mode = targetW ∧ modeH mode = targetH

variable {mode kept : CGDisplayMode}

private theorem ratioDifference_nonneg (targetW targetH : UInt32) (mode : CGDisplayMode) :
    0 ≤ ratioDifference targetW targetH mode := abs_nonneg _

private theorem pixelDifference_nonneg (targetW targetH : UInt32) (mode : CGDisplayMode) :
    0 ≤ pixelDifference targetW targetH mode := abs_nonneg _

private theorem pixelDifference_eq_zero : pixelDifference targetW targetH mode = 0 ↔
    (modeW mode).toNat * (modeH mode).toNat = targetW.toNat * targetH.toNat := by
  unfold pixelDifference
  rw [abs_eq_zero, sub_eq_zero]
  exact_mod_cast Iff.rfl

private theorem SameSize.eligible (same : SameSize targetW targetH mode) (width : targetW ≠ 0)
    (height : targetH ≠ 0) : Eligible targetW targetH mode := by
  obtain ⟨rfl, rfl⟩ := same
  exact ⟨width, height, by omega⟩

private theorem SameSize.ratioDifference_eq (same : SameSize targetW targetH mode) :
    ratioDifference targetW targetH mode = 0 := by
  obtain ⟨rfl, rfl⟩ := same
  simp [ratioDifference]

private theorem SameSize.pixelDifference_eq (same : SameSize targetW targetH mode) :
    pixelDifference targetW targetH mode = 0 := by
  obtain ⟨rfl, rfl⟩ := same
  simp [pixelDifference]

/-- A mode of the target's size is preferred to one with other pixels. -/
theorem SameSize.preferred (same : SameSize targetW targetH mode)
    (other : pixelDifference targetW targetH kept ≠ 0) : Prefers targetW targetH mode kept := by
  have positive := lt_of_le_of_ne (pixelDifference_nonneg targetW targetH kept) (Ne.symm other)
  have nonneg := ratioDifference_nonneg targetW targetH kept
  have closer : Closer targetW targetH mode kept := by
    constructor
    · rw [same.ratioDifference_eq]
      linarith
    · rwa [same.pixelDifference_eq]
  by_cases near : Near targetW targetH kept
  · refine .inl ⟨near, ?_, .inr closer⟩
    unfold Near
    rw [same.ratioDifference_eq]
    norm_num
  · exact .inr ⟨near, .inr closer⟩

/-- Nothing is preferred to a mode of the target's size. -/
theorem SameSize.unbeaten (same : SameSize targetW targetH kept) :
    ¬ Prefers targetW targetH mode kept := by
  have ratio := ratioDifference_nonneg targetW targetH mode
  have pixels := pixelDifference_nonneg targetW targetH mode
  rintro (⟨_, _, less | closer⟩ | ⟨far, _⟩)
  · rw [same.ratioDifference_eq] at less
    linarith
  · have less := closer.2
    rw [same.pixelDifference_eq] at less
    linarith
  · apply far
    unfold Near
    rw [same.ratioDifference_eq]
    norm_num

/-- A near mode among the eligible ones leaves a near one. -/
theorem kept_near {modes : List CGDisplayMode} (member : mode ∈ modes)
    (eligible : Eligible targetW targetH mode) (near : Near targetW targetH mode) :
    ∃ best, Scan.kept (Eligible targetW targetH) (Prefers targetW targetH) modes = some best ∧
      Near targetW targetH best := by
  apply Scan.kept_settles (Near targetW targetH) member eligible near
  · intro other _ _
    by_cases otherNear : Near targetW targetH other
    · exact .inl otherNear
    · exact .inr (.inr ⟨otherNear, .inl (lt_of_lt_of_le near (not_lt.mp otherNear))⟩)
  · rintro other _ _ next _ _ otherNear (⟨_, nextNear, _⟩ | ⟨far, _⟩)
    · exact nextNear
    · exact absurd otherNear far

private theorem kept_sameSize {modes : List CGDisplayMode} (width : targetW ≠ 0) (height : targetH ≠ 0)
    (member : mode ∈ modes) (same : SameSize targetW targetH mode)
    (unique : ∀ other ∈ modes, (modeW other).toNat * (modeH other).toNat = targetW.toNat * targetH.toNat →
      SameSize targetW targetH other) :
    ∃ best, Scan.kept (Eligible targetW targetH) (Prefers targetW targetH) modes = some best ∧
      SameSize targetW targetH best := by
  apply Scan.kept_settles (SameSize targetW targetH) member (same.eligible width height) same
  · intro other among _
    by_cases pixels : pixelDifference targetW targetH other = 0
    · exact .inl (unique other among (pixelDifference_eq_zero.mp pixels))
    · exact .inr (same.preferred pixels)
  · intro other _ _ next _ _ otherSame preferred
    exact absurd preferred otherSame.unbeaten

/-- **Mode selection.** A mode is found exactly when one is eligible; it is an
eligible one of the list, near when an eligible one is, and of the target's
size when one is and its number of pixels is no other's. -/
theorem selected_mode_is_sound_and_complete (modes : List CGDisplayMode) (current : Option CGDisplayMode)
    (targetW targetH : UInt32) (width : targetW ≠ 0) (height : targetH ≠ 0)
    (elsewhere : currentSize current ≠ (targetW.toUInt64, targetH.toUInt64)) :
    (search (.exact 53) modes current targetW targetH = .noMode ↔
      ∀ mode ∈ modes, ¬ Eligible targetW targetH mode) ∧
    (search (.exact 53) modes current targetW targetH ≠ .noMode →
      ∃ best, search (.exact 53) modes current targetW targetH = .selected best ∧
        best ∈ modes ∧ Eligible targetW targetH best ∧
        ((∃ mode ∈ modes, Eligible targetW targetH mode ∧ Near targetW targetH mode) →
          Near targetW targetH best) ∧
        ((∃ mode ∈ modes, SameSize targetW targetH mode) →
          (∀ mode ∈ modes, (modeW mode).toNat * (modeH mode).toNat = targetW.toNat * targetH.toNat →
            SameSize targetW targetH mode) → SameSize targetW targetH best)) := by
  unfold search
  rw [if_neg elsewhere, bestMode_eq_kept height]
  cases found : Scan.kept (Eligible targetW targetH) (Prefers targetW targetH) modes with
  | none => exact ⟨iff_of_true rfl (Scan.kept_eq_none.mp found), fun some => absurd rfl some⟩
  | some best =>
    obtain ⟨member, eligible⟩ := Scan.kept_mem found
    have some_eligible : ¬ ∀ mode ∈ modes, ¬ Eligible targetW targetH mode :=
      fun nothing => nothing best member eligible
    refine ⟨iff_of_false nofun some_eligible, fun _ => ⟨best, rfl, member, eligible, ?_, ?_⟩⟩
    · rintro ⟨mode, among, modeEligible, near⟩
      obtain ⟨_, same, bestNear⟩ := kept_near among modeEligible near
      cases found.symm.trans same
      exact bestNear
    · rintro ⟨mode, among, sameSize⟩ unique
      obtain ⟨_, same, bestSize⟩ := kept_sameSize width height among sameSize unique
      cases found.symm.trans same
      exact bestSize

/-- A laptop is switched to a mode of 720 lines. -/
theorem laptop_is_switched_to_720_lines :
    ∃ best, search (.exact 53) laptop.modes (some laptop.active) 1280 720 = .selected best ∧
      SameSize 1280 720 best := by
  have sound := selected_mode_is_sound_and_complete laptop.modes (some laptop.active) 1280 720
    (by decide) (by decide) (by decide)
  have member : (⟨1280, 720, 0⟩ : CGDisplayMode) ∈ laptop.modes := by decide
  have found : search (.exact 53) laptop.modes (some laptop.active) 1280 720 ≠ .noMode :=
    fun nothing => sound.1.mp nothing ⟨1280, 720, 0⟩ member (by decide)
  obtain ⟨best, selected, _, _, _, sameSize⟩ := sound.2 found
  refine ⟨best, selected, sameSize ⟨_, member, rfl, rfl⟩ ?_⟩
  intro mode among pixels
  obtain rfl | last := List.mem_cons.mp among
  · exact absurd pixels (by decide)
  · cases List.mem_singleton.mp last
    exact ⟨rfl, rfl⟩

end Exact

end Osxrdp.ModeSelection
