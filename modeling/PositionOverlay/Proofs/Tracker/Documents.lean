import PositionOverlay.Proofs.Json.Forms
import PositionOverlay.Proofs.Json.Printing
import PositionOverlay.Tracker.Snapshot

/-! # Snapshots as documents

A snapshot is printed as one object on one line. It has a member for each part of the snapshot, in
the order of the parts.
-/
namespace PositionOverlay

open Json.Form

/-- The object of a point. -/
def Point.form (p : Point) : Json.Form := object [("x", float p.x), ("y", float p.y)]

/-- The text that shows an arrow. -/
def Arrow.form : Arrow → Json.Form
  | up => text "|<"
  | down => text ">|"

namespace Snapshot

/-- The object of a snapshot. -/
def form (s : Snapshot) : Json.Form :=
  object [
    ("symbol", text s.symbol),
    ("size", float s.size),
    ("avg_price", float s.avgPrice),
    ("fills", whole s.fills),
    ("line_level", maybe float s.lineLevel),
    ("line_visible", flag s.lineVisible),
    ("marker_style", maybe Arrow.form s.arrow),
    ("marker_level", float s.markerLevel),
    ("marker_pos", s.markerPos.form),
    ("marker_visible", flag s.markerVisible),
    ("pp_label_pos", s.ppPos.form),
    ("pp_label_visible", flag s.ppVisible),
    ("size_text", text s.sizeText),
    ("size_label_pos", s.sizePos.form),
    ("size_label_visible", flag s.sizeVisible)]

/-- A line that is the object of a snapshot. -/
structure Line (s : Snapshot) (line : String) : Prop where
  form : s.form line.toList
  single : '\n' ∉ line.toList

end Snapshot

open Json

theorem Point.form_toJson (p : Point) : p.form p.toJson.write :=
  form_obj (.cons ⟨rfl, form_float p.x⟩ (.cons ⟨rfl, form_float p.y⟩ .nil))

theorem Arrow.form_name (a : Arrow) : a.form (Json.str a.name).write := by
  cases a
  · exact form_writeString "|<"
  · exact form_writeString ">|"

namespace Snapshot

theorem form_toJson (s : Snapshot) : s.form s.toJson.write := by
  refine form_obj ?_
  simp only [List.forall₂_cons, List.Forall₂.nil, and_true, true_and]
  exact ⟨form_writeString _, form_float _, form_float _, form_nat _, form_option form_float _,
    form_bool _, form_option Arrow.form_name _, form_float _, Point.form_toJson _, form_bool _,
    Point.form_toJson _, form_bool _, form_writeString _, Point.form_toJson _, form_bool _⟩

/-- The document of a snapshot is printed as a line. -/
theorem line_render (s : Snapshot) : s.Line s.toJson.render := by
  rw [Json.render]
  constructor
  · rw [String.toList_ofList]
    exact s.form_toJson
  · rw [String.toList_ofList]
    exact (printable_write s.toJson).noBreak

end Snapshot

end PositionOverlay
