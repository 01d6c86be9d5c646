import PositionOverlay.Json.Printer

/-!
# Templates

A template is text with named slots in braces. A slot begins at the first opening brace and its
name runs up to the next closing brace. Filling replaces the slots whose name has a value; all
else stays as it is written, and what was filled in is not looked at again.
-/
namespace PositionOverlay.Template

/-- The parts of a template, in their order. -/
inductive Piece where
  /-- Text without an opening brace. -/
  | literal (text : List Char)
  /-- A name between two braces. -/
  | slot (name : List Char)
  /-- An opening brace that is never closed, and all that follows it. -/
  | unclosed (text : List Char)
deriving Repr, DecidableEq

/-- The values of the slots, sorted by name. -/
abbrev Values := List (String × Json)

/-- How a piece is written in a template. -/
def Piece.source : Piece → List Char
  | literal text => text
  | slot name => '\x7b' :: name ++ ['\x7d']
  | unclosed text => '\x7b' :: text

theorem length_dropWhile_le (p : Char → Bool) (cs : List Char) :
    (cs.dropWhile p).length ≤ cs.length := (List.dropWhile_sublist p).length_le

/-- The pieces of a template. -/
def pieces : List Char → List Piece
  | [] => []
  | c :: cs =>
    if c = '\x7b' then
      match _h : cs.dropWhile (· ≠ '\x7d') with
      | [] => [.unclosed cs]
      | _ :: rest => .slot (cs.takeWhile (· ≠ '\x7d')) :: pieces rest
    else
      .literal (c :: cs.takeWhile (· ≠ '\x7b')) :: pieces (cs.dropWhile (· ≠ '\x7b'))
termination_by cs => cs.length
decreasing_by
  · have := length_dropWhile_le (· ≠ '\x7d') cs
    simp_all only [List.length_cons]
    omega
  · have := length_dropWhile_le (· ≠ '\x7b') cs
    simp only [List.length_cons]
    omega

/-- Floats of this magnitude and above are never shown as whole numbers. -/
def wholeLimit : Float := 1e15

/-- A value as a part of a sentence: text without quotes, a whole number without a point. -/
def display : Json → List Char
  | .str s => s.toList
  | .num (.float x) =>
    let exact := Decimal.Binary.ofFloat x
    if exact.isWhole && x.abs < wholeLimit then Json.writeInt exact.truncate
    else Json.writeFloat x
  | v => v.canonical.write

/-- A piece with its value, if it is a slot and has one. -/
def Piece.fill (values : Values) : Piece → List Char
  | slot name =>
    match values.lookup (String.ofList name) with
    | some v => display v
    | none => (slot name).source
  | p => p.source

/-- Fills all slots that have a value. -/
def fill (template : String) (values : Values) : String :=
  String.ofList ((pieces template.toList).flatMap (Piece.fill values))

end PositionOverlay.Template
