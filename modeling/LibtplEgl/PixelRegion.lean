import Mathlib.Tactic.TypeStar

namespace LibtplEgl.PixelRegion

/-- The pixels from the corner `(x, y)` on, `width` columns and `height` rows. -/
structure Rect where
  x : Int
  y : Int
  width : Int
  height : Int
  deriving DecidableEq, Repr

namespace Rect

def Contains (r : Rect) (p : Int × Int) : Prop :=
  r.x ≤ p.1 ∧ p.1 < r.x + r.width ∧ r.y ≤ p.2 ∧ p.2 < r.y + r.height

instance (r : Rect) (p : Int × Int) : Decidable (r.Contains p) :=
  inferInstanceAs (Decidable (_ ∧ _))

def Inside (r outer : Rect) : Prop :=
  outer.x ≤ r.x ∧ r.x + r.width ≤ outer.x + outer.width ∧
    outer.y ≤ r.y ∧ r.y + r.height ≤ outer.y + outer.height

instance (r outer : Rect) : Decidable (r.Inside outer) :=
  inferInstanceAs (Decidable (_ ∧ _))

/-- The rectangle counted from the other end of `height` rows. -/
def flip (r : Rect) (height : Int) : Rect :=
  { r with y := height - (r.y + r.height) }

theorem contains_flip (r : Rect) (height : Int) (p : Int × Int) :
    (r.flip height).Contains p ↔ r.Contains (p.1, height - 1 - p.2) := by
  simp only [Contains, flip]
  omega

theorem corner_eq_of_covers {r outer : Rect} (hwidth : r.width = outer.width)
    (hheight : r.height = outer.height) (hpos : 0 < outer.width ∧ 0 < outer.height)
    (hcovers : ∀ p, outer.Contains p → r.Contains p) : r.x = outer.x ∧ r.y = outer.y := by
  have hfirst := hcovers (outer.x, outer.y) (by simp only [Contains]; omega)
  have hlast := hcovers (outer.x + outer.width - 1, outer.y + outer.height - 1)
    (by simp only [Contains]; omega)
  simp only [Contains] at hfirst hlast
  omega

end Rect

/-- The pixel is in one of the rectangles. -/
def Covers (rects : List Rect) (p : Int × Int) : Prop :=
  ∃ r ∈ rects, r.Contains p

instance (rects : List Rect) (p : Int × Int) : Decidable (Covers rects p) :=
  inferInstanceAs (Decidable (∃ r ∈ rects, r.Contains p))

@[simp] theorem covers_singleton (r : Rect) (p : Int × Int) :
    Covers [r] p ↔ r.Contains p := by
  simp [Covers]

theorem covers_map_flip (rects : List Rect) (height : Int) (p : Int × Int) :
    Covers (rects.map fun r => r.flip height) p ↔ Covers rects (p.1, height - 1 - p.2) := by
  constructor
  · rintro ⟨r, hr, hp⟩
    obtain ⟨original, horiginal, rfl⟩ := List.mem_map.mp hr
    exact ⟨original, horiginal, (original.contains_flip height p).mp hp⟩
  · rintro ⟨original, horiginal, hp⟩
    exact ⟨original.flip height, List.mem_map_of_mem horiginal,
      (original.contains_flip height p).mpr hp⟩

end LibtplEgl.PixelRegion
