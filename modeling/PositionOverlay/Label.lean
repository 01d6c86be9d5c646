import PositionOverlay.Geometry
import PositionOverlay.Template
import PositionOverlay.Text.Lines

/-!
# Labels

A label shows a filled template at a place that an anchor rule computes from the size of the
text. The rules are data of a type of their own; who owns the label knows what they mean.
-/
namespace PositionOverlay

structure Label (Anchor : Type) where
  template : String
  fields : Template.Values
  color : String
  /-- Whether it is placed anew when the view changes. -/
  follows : Bool
  text : String
  anchor : Option Anchor
  pos : Point
  visible : Bool
  /-- How many look at the label from outside; meanwhile it cannot move. -/
  holders : Nat
deriving Repr

namespace Label

/-- Text is laid out on a grid of this width. -/
def charWidth : Float := 7.0

def lineHeight : Float := 14.0

/-- The size of a text on the grid. -/
def sizeOf (text : String) : Size :=
  let lines := Text.lines text.toList
  let widest := lines.foldl (fun n l => max n l.length) 0
  ⟨.ofNat widest * charWidth, .ofNat lines.length * lineHeight⟩

variable {Anchor : Type}

/-- A hidden label without text. -/
def make (template : String) (fields : Template.Values) (color : String) (follows : Bool) :
    Label Anchor :=
  ⟨template, fields, color, follows, "", none, .origin, false, 0⟩

def size (l : Label Anchor) : Size := sizeOf l.text

def isHeld (l : Label Anchor) : Bool := l.holders != 0

def setField (l : Label Anchor) (name : String) (value : Json) : Label Anchor :=
  { l with fields := insertSorted name value l.fields }

def field? (l : Label Anchor) (name : String) : Option Json := l.fields.lookup name

/-- Fills the template with the current fields. -/
def write (l : Label Anchor) : Label Anchor := { l with text := Template.fill l.template l.fields }

/-- Moves the label to the place that its rule gives. -/
def update (place : Anchor → Size → Point) (l : Label Anchor) : Label Anchor :=
  match l.anchor with
  | none => l
  | some rule => { l with pos := place rule l.size }

def render (place : Anchor → Size → Point) (l : Label Anchor) : Label Anchor :=
  l.write.update place

def setAnchor (l : Label Anchor) (rule : Anchor) : Label Anchor := { l with anchor := some rule }

def «show» (l : Label Anchor) : Label Anchor := { l with visible := true }

def hide (l : Label Anchor) : Label Anchor := { l with visible := false }

@[simp] theorem visible_update (place : Anchor → Size → Point) (l : Label Anchor) :
    (l.update place).visible = l.visible := by unfold update; split <;> rfl

@[simp] theorem text_update (place : Anchor → Size → Point) (l : Label Anchor) :
    (l.update place).text = l.text := by unfold update; split <;> rfl

@[simp] theorem anchor_update (place : Anchor → Size → Point) (l : Label Anchor) :
    (l.update place).anchor = l.anchor := by unfold update; split <;> simp_all

end Label

end PositionOverlay
