import Osxrdp.ModeSelection

/-! How far the aspect ratio of the selected mode may be from the closest one.
Every mode that replaces the best one may be a little farther than it, and
then is the one that the next mode is compared with. -/
namespace Osxrdp.ModeOptimality
open DisplayMode (CGDisplayMode)
open ModeSelection

section Steps
variable (targetW targetH : UInt32)

/-- The mode is less than 0.001 farther in ratio than any eligible one. -/
def Close (modes : List CGDisplayMode) (mode : CGDisplayMode) : Prop :=
  ∀ other ∈ modes, Eligible targetW targetH other →
    ratioDifference targetW targetH mode < ratioDifference targetW targetH other + 1 / 1000

/-- The mode chosen, if there is one, is close. -/
def NearOptimal (modes : List CGDisplayMode) : Prop :=
  ∀ best, bestMode (.exact 53) targetW targetH modes = some best → Close targetW targetH modes best

/-- The next mode replaces the best one, though a mode seen before is 0.001 or
more closer. -/
def Drifts (seen : List CGDisplayMode) (best next : CGDisplayMode) : Prop :=
  Prefers targetW targetH next best ∧ ∃ other ∈ seen, Eligible targetW targetH other ∧
    ratioDifference targetW targetH other + 1 / 1000 ≤ ratioDifference targetW targetH next

/-- The next mode is closer by exactly 0.001, which the first loop does not
take for closer. -/
def Hangs (best next : CGDisplayMode) : Prop :=
  Near targetW targetH best ∧
    ratioDifference targetW targetH best = ratioDifference targetW targetH next + 1 / 1000 ∧
    pixelDifference targetW targetH best ≤ pixelDifference targetW targetH next

/-- No step of the loops over these modes drifts or hangs. -/
def Steady (modes : List CGDisplayMode) : Prop :=
  ∀ seen next best, seen ++ [next] <+: modes → Eligible targetW targetH next →
    bestMode (.exact 53) targetW targetH seen = some best →
    ¬ Drifts targetW targetH seen best next ∧ ¬ Hangs targetW targetH best next

variable {targetW targetH} {best next : CGDisplayMode} {seen : List CGDisplayMode}

private theorem ratio_of_prefers (preferred : Prefers targetW targetH next best) :
    ratioDifference targetW targetH next < ratioDifference targetW targetH best + 1 / 1000 := by
  obtain ⟨_, _, less | closer⟩ | ⟨_, less | closer⟩ := preferred
  · linarith
  · exact closer.1
  · linarith
  · exact closer.1

private theorem prefers_of_apart (apart : ratioDifference targetW targetH next + 1 / 1000 <
    ratioDifference targetW targetH best) : Prefers targetW targetH next best := by
  by_cases near : Near targetW targetH best
  · have nextNear : Near targetW targetH next := by
      unfold Near at near ⊢
      linarith
    exact .inl ⟨near, nextNear, .inl (by linarith)⟩
  · exact .inr ⟨near, .inl (by linarith)⟩

/-- Only a step that hangs passes over a mode that is 0.001 or more closer. -/
theorem hangs_iff : Hangs targetW targetH best next ↔ ¬ Prefers targetW targetH next best ∧
    ratioDifference targetW targetH next + 1 / 1000 ≤ ratioDifference targetW targetH best := by
  constructor
  · rintro ⟨near, exactly, pixels⟩
    refine ⟨?_, exactly.ge⟩
    rintro (⟨_, _, less | closer⟩ | ⟨far, _⟩)
    · linarith
    · exact absurd closer.2 (not_lt.mpr pixels)
    · exact far near
  · rintro ⟨passed, apart⟩
    by_cases near : Near targetW targetH best
    · have nextNear : Near targetW targetH next := by
        unfold Near at near ⊢
        linarith
      have notClose : ¬ PrefersNear targetW targetH next best :=
        fun close => passed (.inl ⟨near, nextNear, close⟩)
      unfold PrefersNear Closer at notClose
      rw [not_or, not_and] at notClose
      have least := not_lt.mp notClose.1
      refine ⟨near, by linarith, not_lt.mp (notClose.2 ?_)⟩
      linarith
    · have notCloser : ¬ PrefersRelaxed targetW targetH next best := fun closer => passed (.inr ⟨near, closer⟩)
      unfold PrefersRelaxed at notCloser
      rw [not_or] at notCloser
      have least := not_lt.mp notCloser.1
      linarith

private theorem keeps_iff : Scan.Keeps (Eligible targetW targetH) (Prefers targetW targetH)
    (ratioDifference targetW targetH) (1 / 1000) seen best next ↔
    ¬ Drifts targetW targetH seen best next ∧ ¬ Hangs targetW targetH best next := by
  rw [hangs_iff]
  constructor
  · rintro ⟨taken, passed⟩
    constructor
    · rintro ⟨preferred, other, among, eligible, apart⟩
      exact absurd (taken preferred other among eligible) (not_lt.mpr apart)
    · rintro ⟨notPreferred, apart⟩
      exact absurd (passed notPreferred) (not_lt.mpr apart)
  · rintro ⟨noDrift, noHang⟩
    constructor
    · intro preferred other among eligible
      by_contra apart
      exact noDrift ⟨preferred, other, among, eligible, not_lt.mp apart⟩
    · intro notPreferred
      by_contra apart
      exact noHang ⟨notPreferred, not_lt.mp apart⟩

end Steps

/-- As the modes are gone through, the best one so far stays less than 0.001
above the closest ratio seen exactly when no step drifts or hangs. -/
theorem near_optimal_throughout_iff (targetW targetH : UInt32) (modes : List CGDisplayMode) :
    (∀ seen, seen <+: modes → NearOptimal targetW targetH seen) ↔ Steady targetW targetH modes := by
  unfold NearOptimal Close Steady
  by_cases flat : targetH = 0
  · simp [bestMode, flat]
  · simp only [bestMode_eq_kept flat, ← keeps_iff]
    exact Scan.within_throughout_iff (by norm_num)

/-- Eligible modes differ in ratio by more than 0.001, or not at all. -/
def Separated (targetW targetH : UInt32) (modes : List CGDisplayMode) : Prop :=
  ∀ mode ∈ modes, Eligible targetW targetH mode → ∀ other ∈ modes, Eligible targetW targetH other →
    ratioDifference targetW targetH mode < ratioDifference targetW targetH other →
      ratioDifference targetW targetH mode + 1 / 1000 < ratioDifference targetW targetH other

/-- Of separated modes one with the closest ratio is selected, in any order. -/
theorem separated_selects_closest {targetW targetH : UInt32} {modes : List CGDisplayMode}
    (separated : Separated targetW targetH modes) {best : CGDisplayMode}
    (selected : bestMode (.exact 53) targetW targetH modes = some best) :
    ∀ other ∈ modes, Eligible targetW targetH other →
      ratioDifference targetW targetH best ≤ ratioDifference targetW targetH other := by
  have height : targetH ≠ 0 := by
    rintro rfl
    simp [bestMode] at selected
  rw [bestMode_eq_kept height] at selected
  intro other among eligible
  have settled : ∃ kept, Scan.kept (Eligible targetW targetH) (Prefers targetW targetH) modes = some kept ∧
      ratioDifference targetW targetH kept ≤ ratioDifference targetW targetH other := by
    apply Scan.kept_settles (fun mode => ratioDifference targetW targetH mode ≤
      ratioDifference targetW targetH other) among eligible (le_refl _)
    · intro mode member modeEligible
      by_cases close : ratioDifference targetW targetH mode ≤ ratioDifference targetW targetH other
      · exact .inl close
      · have apart := separated other among eligible mode member modeEligible (not_le.mp close)
        exact .inr (prefers_of_apart apart)
    · intro mode member modeEligible next nextMember nextEligible close preferred
      by_contra farther
      have apart := separated mode member modeEligible next nextMember nextEligible
        (close.trans_lt (not_le.mp farther))
      exact absurd (ratio_of_prefers preferred) (not_lt.mpr apart.le)
  obtain ⟨kept, same, close⟩ := settled
  cases selected.symm.trans same
  exact close

end Osxrdp.ModeOptimality
