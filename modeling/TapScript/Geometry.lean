import TapScript.Number.Decimal

/-!
# Points and regions of the screen

Screen positions count pixels from the upper left corner. A `Region` is a rectangle whose edges
belong to it.

* `Region.center` is the exact middle of a rectangle, `Region.checkedCenter` the middle as a run
  computes it, which fails where a sum of two edges does not fit.
-/

namespace TapScript

/-- A position on the screen. -/
structure Point where
  x : Int
  y : Int
deriving DecidableEq, Repr

/-- The two coordinates with a comma between them. -/
def Point.text (p : Point) : Text := Integer.render p.x ++ ',' :: Integer.render p.y

/-- A rectangle of the screen with its four edges. -/
structure Region where
  left : Int
  top : Int
  right : Int
  bottom : Int
deriving DecidableEq, Repr

namespace Region

/-- The rectangle spanned by two corners, given in any order. -/
def ofCorners (x₁ y₁ x₂ y₂ : Int) : Region := ⟨min x₁ x₂, min y₁ y₂, max x₁ x₂, max y₁ y₂⟩

/-- The middle of the rectangle, rounded toward zero. -/
def center (r : Region) : Point := ⟨(r.left + r.right).tdiv 2, (r.top + r.bottom).tdiv 2⟩

/-- Whether a number is a coordinate of thirty-two bits. -/
def isCoordinate (n : Int) : Bool := -0x80000000 ≤ n && n ≤ 0x7FFFFFFF

/-- Whether both sums of opposite edges, which are halved for the center, are coordinates. -/
def hasCenter (r : Region) : Bool :=
  isCoordinate (r.left + r.right) && isCoordinate (r.top + r.bottom)

/-- The center as it is computed, with sums of thirty-two bits: it is a panic if one of them does
not fit. -/
def checkedCenter (r : Region) : Except String Point :=
  if r.hasCenter then .ok r.center else .error "attempt to add with overflow"

/-- Whether the point lies in the rectangle or on its edge. -/
def contains (r : Region) (p : Point) : Bool :=
  r.left ≤ p.x && p.x ≤ r.right && r.top ≤ p.y && p.y ≤ r.bottom

/-- A rectangle contains exactly the points between its edges. -/
theorem contains_iff {r : Region} {p : Point} :
    r.contains p = true ↔ (r.left ≤ p.x ∧ p.x ≤ r.right) ∧ (r.top ≤ p.y ∧ p.y ≤ r.bottom) := by
  simp [contains, and_assoc]

end Region

end TapScript
