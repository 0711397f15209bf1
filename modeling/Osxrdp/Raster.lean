import Mathlib.Algebra.Ring.Nat
import Mathlib.Data.Finset.Prod
import Mathlib.Data.List.Basic
import Mathlib.Order.Interval.Finset.Nat

/-! Painting rectangles over a picture. A picture is total, so that an observer
who has seen nothing yet still has one; what a sequence of patches leaves at a
point depends only on the patches that cover the point. -/
namespace Osxrdp.Raster

variable {α : Type}

/-- The value shown at a column and a row. -/
abbrev Picture (α : Type) := Nat → Nat → α

/-- A rectangle of pixels. -/
structure Rect where
  x : Nat
  y : Nat
  width : Nat
  height : Nat
  deriving DecidableEq, Repr

namespace Rect

/-- The pixel is in the rectangle. -/
def Contains (rect : Rect) (column row : Nat) : Prop :=
  rect.x ≤ column ∧ column < rect.x + rect.width ∧ rect.y ≤ row ∧ row < rect.y + rect.height

instance (rect : Rect) (column row : Nat) : Decidable (rect.Contains column row) :=
  inferInstanceAs (Decidable (_ ∧ _ ∧ _ ∧ _))

/-- No point lies in both rectangles. -/
def Disjoint (left right : Rect) : Prop :=
  ∀ column row, left.Contains column row → ¬ right.Contains column row

/-- The rectangle has a point, and all its points lie in a `width × height` area. -/
def InArea (rect : Rect) (width height : Nat) : Prop :=
  0 < rect.width ∧ 0 < rect.height ∧ rect.x + rect.width ≤ width ∧ rect.y + rect.height ≤ height

end Rect

section Area
variable {rects : List Rect} {width height : Nat}

def Rect.area (rect : Rect) : Nat := rect.width * rect.height

/-- The points of a rectangle, as columns and rows. -/
def Rect.points (rect : Rect) : Finset (Nat × Nat) :=
  Finset.Ico rect.x (rect.x + rect.width) ×ˢ Finset.Ico rect.y (rect.y + rect.height)

theorem Rect.mem_points {rect : Rect} {point : Nat × Nat} :
    point ∈ rect.points ↔ rect.Contains point.1 point.2 := by
  simp only [points, Finset.mem_product, Finset.mem_Ico, Contains, and_assoc]

theorem Rect.card_points (rect : Rect) : rect.points.card = rect.area := by
  simp [points, area]

/-- Disjoint rectangles have as many points together as their areas add up to. -/
theorem card_points_of_disjoint (disjoint : rects.Pairwise Rect.Disjoint) :
    ∃ points : Finset (Nat × Nat), points.card = (rects.map Rect.area).sum ∧
      ∀ point, point ∈ points ↔ ∃ rect ∈ rects, rect.Contains point.1 point.2 := by
  induction rects with
  | nil => exact ⟨∅, rfl, by simp⟩
  | cons rect rest ih =>
    obtain ⟨apart, disjointRest⟩ := List.pairwise_cons.mp disjoint
    obtain ⟨points, card, mem⟩ := ih disjointRest
    have separate : Disjoint rect.points points := by
      apply Finset.disjoint_left.mpr
      intro point inRect inRest
      obtain ⟨other, member, contains⟩ := (mem point).mp inRest
      exact apart other member point.1 point.2 (Rect.mem_points.mp inRect) contains
    refine ⟨rect.points ∪ points, ?_, fun point => ?_⟩
    · rw [Finset.card_union_of_disjoint separate, card, Rect.card_points, List.map_cons, List.sum_cons]
    · rw [Finset.mem_union, Rect.mem_points, mem, List.exists_mem_cons_iff]

/-- Disjoint rectangles in an area are together no larger than it. -/
theorem sum_area_le (disjoint : rects.Pairwise Rect.Disjoint)
    (inside : ∀ rect ∈ rects, rect.InArea width height) : (rects.map Rect.area).sum ≤ width * height := by
  obtain ⟨points, card, mem⟩ := card_points_of_disjoint disjoint
  have within : points ⊆ Finset.range width ×ˢ Finset.range height := by
    intro point member
    obtain ⟨rect, listed, contains⟩ := (mem point).mp member
    obtain ⟨_, _, right, bottom⟩ := inside rect listed
    obtain ⟨_, column, _, row⟩ := contains
    exact Finset.mem_product.mpr
      ⟨Finset.mem_range.mpr (column.trans_le right), Finset.mem_range.mpr (row.trans_le bottom)⟩
  calc (rects.map Rect.area).sum = points.card := card.symm
    _ ≤ (Finset.range width ×ˢ Finset.range height).card := Finset.card_le_card within
    _ = width * height := by rw [Finset.card_product, Finset.card_range, Finset.card_range]

end Area

/-- New contents for one rectangle, addressed from the rectangle's own corner. -/
structure Patch (α : Type) where
  rect : Rect
  pixel : Picture α

/-- A patch is painted over its rectangle. -/
def paint (patch : Patch α) (picture : Picture α) : Picture α := fun column row =>
  if patch.rect.Contains column row then
    patch.pixel (column - patch.rect.x) (row - patch.rect.y)
  else picture column row

/-- Patches are painted one over the other. -/
def paintAll (patches : List (Patch α)) (picture : Picture α) : Picture α :=
  patches.foldl (fun picture patch => paint patch picture) picture

@[simp] theorem paintAll_nil (picture : Picture α) : paintAll [] picture = picture := rfl

@[simp] theorem paintAll_cons (patch : Patch α) (patches : List (Patch α)) (picture : Picture α) :
    paintAll (patch :: patches) picture = paintAll patches (paint patch picture) := rfl

/-- The first patches are painted first. -/
theorem paintAll_append (first second : List (Patch α)) (picture : Picture α) :
    paintAll (first ++ second) picture = paintAll second (paintAll first picture) := by
  simp [paintAll, List.foldl_append]

/-- Inside its own rectangle the patch carries exactly the target picture. -/
def Patch.Shows (patch : Patch α) (target : Picture α) : Prop :=
  ∀ column row, patch.rect.Contains column row →
    patch.pixel (column - patch.rect.x) (row - patch.rect.y) = target column row

/-- Patches that all carry the target leave it wherever it was already shown
and wherever one of them paints, whatever their order or overlap. -/
theorem paintAll_shows (patches : List (Patch α)) (picture target : Picture α) {column row : Nat}
    (shows : ∀ patch ∈ patches, patch.Shows target)
    (held : picture column row = target column row ∨
      ∃ patch ∈ patches, patch.rect.Contains column row) :
    paintAll patches picture column row = target column row := by
  induction patches generalizing picture with
  | nil => simpa using held
  | cons patch rest ih =>
    apply ih _ (fun later member => shows later (List.mem_cons_of_mem _ member))
    by_cases inside : patch.rect.Contains column row
    · left
      simpa [paint, inside] using shows patch (by simp) column row inside
    · simpa [paint, inside] using held

/-- What patches leave at a point depends only on what was there. -/
theorem paintAll_congr (patches : List (Patch α)) {picture other : Picture α} {column row : Nat}
    (same : picture column row = other column row) :
    paintAll patches picture column row = paintAll patches other column row := by
  induction patches generalizing picture other with
  | nil => exact same
  | cons patch rest ih =>
    apply ih
    by_cases inside : patch.rect.Contains column row
    · simp [paint, inside]
    · simpa [paint, inside] using same

/-- Patches that show what one whole patch leaves, wherever that changes the
picture, leave the same as it does. -/
theorem paintAll_eq_paint (patches : List (Patch α)) (whole : Patch α) (picture : Picture α)
    (shows : ∀ patch ∈ patches, patch.Shows (paint whole picture))
    (covers : ∀ column row, picture column row ≠ paint whole picture column row →
      ∃ patch ∈ patches, patch.rect.Contains column row) :
    paintAll patches picture = paint whole picture := by
  funext column row
  apply paintAll_shows patches picture _ shows
  by_cases same : picture column row = paint whole picture column row
  · exact .inl same
  · exact .inr (covers column row same)

end Osxrdp.Raster
