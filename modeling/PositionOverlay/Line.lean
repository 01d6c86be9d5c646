import PositionOverlay.Schema

/-!
# Level lines

A horizontal line at a price. A deleted line stays deleted: it cannot be moved or shown again.
-/
namespace PositionOverlay

/-- How a level line behaves. -/
structure LineOptions where
  /-- The chart attaches its own label. -/
  addLabel : Bool
  highlight : Bool
  movable : Bool
  hideCrosshair : Bool
  /-- A margin on the right is kept free for a marker. -/
  markerMargin : Bool
  markersOnHover : Bool
  alwaysLabels : Bool
deriving Repr, DecidableEq

namespace LineOptions

/-- The options of a line that is not told otherwise. -/
def standard : LineOptions := ⟨true, true, true, true, false, true, false⟩

/-- The options of the line of a position: it cannot be moved and leaves room for its marker. -/
def ofPosition : LineOptions := ⟨false, false, false, false, true, false, true⟩

def toJson (o : LineOptions) : Json :=
  .obj [("add_label", .bool o.addLabel), ("hl_on_hover", .bool o.highlight),
    ("movable", .bool o.movable), ("hide_xhair_on_hover", .bool o.hideCrosshair),
    ("use_marker_margin", .bool o.markerMargin),
    ("only_show_markers_on_hover", .bool o.markersOnHover),
    ("always_show_labels", .bool o.alwaysLabels)]

def schema : Schema LineOptions :=
  .record "struct LineOptions"
    (.required "add_label" .flag <| .required "hl_on_hover" .flag <| .required "movable" .flag <|
      .required "hide_xhair_on_hover" .flag <| .required "use_marker_margin" .flag <|
      .required "only_show_markers_on_hover" .flag <| .required "always_show_labels" .flag .nil)
    fun (a, h, m, x, u, o, s, _) => ⟨a, h, m, x, u, o, s⟩

end LineOptions

/-- What cannot be asked of an overlay. -/
inductive Fault where
  | emptyGlyph
  | noGlyph
  | levelOfDeletedLine
  | showOfDeletedLine
deriving Repr, DecidableEq

def Fault.message : Fault → String
  | emptyGlyph => "marker glyph path was not generated"
  | noGlyph => "marker glyph bounds requested before a style was set"
  | levelOfDeletedLine => "set_level on a deleted line"
  | showOfDeletedLine => "show on a deleted line"

structure Line where
  id : Nat
  level : Float
  color : String
  options : LineOptions
  visible : Bool
  deleted : Bool
deriving Repr

namespace Line

/-- Moves a line to another price. -/
def setLevel (l : Line) (level : Float) : Except Fault Line :=
  if l.deleted then .error .levelOfDeletedLine else .ok { l with level }

def «show» (l : Line) : Except Fault Line :=
  if l.deleted then .error .showOfDeletedLine else .ok { l with visible := true }

def hide (l : Line) : Line := { l with visible := false }

def delete (l : Line) : Line := { l with visible := false, deleted := true }

@[simp] theorem delete_delete (l : Line) : l.delete.delete = l.delete := rfl

@[simp] theorem visible_hide (l : Line) : l.hide.visible = false := rfl

end Line

end PositionOverlay
