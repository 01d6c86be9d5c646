import PositionOverlay.Schema

/-!
# Plane geometry

Points, sizes and upright rectangles of floats. The vertical axis of a scene points down, so the
top of a rectangle has the smaller ordinate.
-/
namespace PositionOverlay

structure Point where
  x : Float
  y : Float
deriving Repr, Inhabited

structure Size where
  w : Float
  h : Float
deriving Repr, Inhabited

structure Rect where
  x : Float
  y : Float
  w : Float
  h : Float
deriving Repr, Inhabited

namespace Point

def origin : Point := ⟨0.0, 0.0⟩

instance : Add Point := ⟨fun p q => ⟨p.x + q.x, p.y + q.y⟩⟩

instance : Sub Point := ⟨fun p q => ⟨p.x - q.x, p.y - q.y⟩⟩

/-- Equality as of numbers: both zeros are equal and an undefined coordinate equals nothing. -/
instance : BEq Point := ⟨fun p q => p.x == q.x && p.y == q.y⟩

def toJson (p : Point) : Json := .obj [("x", .float p.x), ("y", .float p.y)]

def schema : Schema Point :=
  .record "struct Point" (.required "x" .number <| .required "y" .number .nil)
    fun (x, y, _) => ⟨x, y⟩

end Point

namespace Size

def toJson (s : Size) : Json := .obj [("w", .float s.w), ("h", .float s.h)]

def schema : Schema Size :=
  .record "struct Size" (.required "w" .number <| .required "h" .number .nil)
    fun (w, h, _) => ⟨w, h⟩

end Size

/-- The lesser of two numbers; one that is undefined does not count. -/
def lesser (a b : Float) : Float := if a.isNaN then b else if b < a then b else a

/-- The greater of two numbers; one that is undefined does not count. -/
def greater (a b : Float) : Float := if a.isNaN then b else if a < b then b else a

namespace Rect

/-- The smallest rectangle around some points, if there are any. -/
def bounding : List Point → Option Rect
  | [] => none
  | p :: ps =>
    let x₀ := ps.foldl (fun a q => lesser a q.x) p.x
    let y₀ := ps.foldl (fun a q => lesser a q.y) p.y
    let x₁ := ps.foldl (fun a q => greater a q.x) p.x
    let y₁ := ps.foldl (fun a q => greater a q.y) p.y
    some ⟨x₀, y₀, x₁ - x₀, y₁ - y₀⟩

def translate (r : Rect) (offset : Point) : Rect := ⟨r.x + offset.x, r.y + offset.y, r.w, r.h⟩

def topLeft (r : Rect) : Point := ⟨r.x, r.y⟩

def topRight (r : Rect) : Point := ⟨r.x + r.w, r.y⟩

def bottomLeft (r : Rect) : Point := ⟨r.x, r.y + r.h⟩

def bottomRight (r : Rect) : Point := ⟨r.x + r.w, r.y + r.h⟩

/-- Whether a side has collapsed. -/
def isEmpty (r : Rect) : Bool := r.w ≤ 0.0 || r.h ≤ 0.0

def zero : Rect := ⟨0.0, 0.0, 0.0, 0.0⟩

def toJson (r : Rect) : Json :=
  .obj [("x", .float r.x), ("y", .float r.y), ("w", .float r.w), ("h", .float r.h)]

def schema : Schema Rect :=
  .record "struct Rect"
    (.required "x" .number <| .required "y" .number <| .required "w" .number <|
      .required "h" .number .nil)
    fun (x, y, w, h, _) => ⟨x, y, w, h⟩

end Rect

/-- Where a label sits relative to a glyph. -/
inductive Pin where
  | rightCentered
  | leftCentered
  | belowLeftAligned
  | belowRightAligned
deriving Repr, DecidableEq, Inhabited

namespace Pin

def options : List (String × Pin) :=
  [("right-of-path-centered", rightCentered), ("left-of-path-centered", leftCentered),
    ("below-path-left-aligned", belowLeftAligned), ("below-path-right-aligned", belowRightAligned)]

def name : Pin → String
  | rightCentered => "right-of-path-centered"
  | leftCentered => "left-of-path-centered"
  | belowLeftAligned => "below-path-left-aligned"
  | belowRightAligned => "below-path-right-aligned"

theorem lookup_name (p : Pin) : options.lookup p.name = some p := by cases p <;> rfl

def schema : Schema Pin := .choice "PinLocation" options

/-- The place of a label of the given size beside a glyph. -/
def place (pin : Pin) (glyph : Rect) (label : Size) : Point :=
  match pin with
  | rightCentered => glyph.topRight - ⟨label.h / 16.0, label.h / 3.0⟩
  | leftCentered => glyph.topLeft - ⟨label.w, label.h / 6.0⟩
  | belowLeftAligned => glyph.bottomLeft - ⟨0.0, label.h / 6.0⟩
  | belowRightAligned => glyph.bottomRight - ⟨label.w, label.h / 6.0⟩

end Pin

end PositionOverlay
