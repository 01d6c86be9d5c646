import PositionOverlay.Decimal.Layout
import PositionOverlay.Text.Quoted
import PositionOverlay.Uuid
import PositionOverlay.Timestamp

/-!
# What can be wrong with a document

A text can be malformed or end too early; a well formed one can hold something else than what is
expected at some place. A mismatch that is met while the text is read carries a position in the
text; one that is met later, in an already read value, does not.
-/
namespace PositionOverlay

/-- What stands at a place where something else was expected. -/
inductive Found where
  | null
  | boolean (value : Bool)
  | integer (value : Int)
  | float (value : Float)
  | text (value : String)
  | sequence
  | map
deriving Repr

/-- The description of what was found, with floats in the given layout. -/
def Found.describe (layout : Float → String) : Found → String
  | null => "null"
  | boolean b => s!"boolean `{b}`"
  | integer i => s!"integer `{i}`"
  | float x =>
    let digits := layout x
    s!"floating point `{digits}`"
  | text s =>
    let shown := Text.quoted s
    s!"string {shown}"
  | sequence => "sequence"
  | map => "map"

/-- A place of a document that does not hold what is expected there. -/
inductive Mismatch where
  | missingField (name : String)
  | duplicateField (name : String)
  | invalidType (found : Found) (expected : String)
  | invalidValue (found : Found) (expected : String)
  | invalidLength (length : Nat) (expected : String)
  | unknownVariant (name : String) (known : List String)
  | badUuid (fault : Uuid.Fault)
  | badTimestamp (fault : Timestamp.Fault)
deriving Repr

namespace Mismatch

/-- Names one after the other in backticks. -/
def listNames (names : List String) : String :=
  ", ".intercalate (names.map fun n => s!"`{n}`")

/-- The alternatives of a choice. -/
def alternatives : List String → String
  | [] => "there are no variants"
  | [a] => s!"expected `{a}`"
  | [a, b] => s!"expected `{a}` or `{b}`"
  | names =>
    let shown := listNames names
    s!"expected one of {shown}"

def message : Mismatch → String
  | missingField name => s!"missing field `{name}`"
  | duplicateField name => s!"duplicate field `{name}`"
  | invalidType found expected =>
    let shown := found.describe Decimal.Layout.data.write
    s!"invalid type: {shown}, expected {expected}"
  | invalidValue found expected =>
    let shown := found.describe Decimal.Layout.data.write
    s!"invalid value: {shown}, expected {expected}"
  | invalidLength n expected => s!"invalid length {n}, expected {expected}"
  | unknownVariant name known =>
    let rest := alternatives known
    s!"unknown variant `{name}`, {rest}"
  | badUuid fault =>
    let reason := fault.message
    s!"UUID parsing failed: {reason}"
  | badTimestamp fault => fault.message

end Mismatch

namespace Json

/-- When a mismatch was met. -/
inductive Phase where
  | reading
  | building
deriving Repr, DecidableEq

/-- Why a text yields no value of the expected kind. -/
inductive Fault where
  | malformed
  | truncated
  | mismatch (cause : Mismatch) (phase : Phase)
deriving Repr

end Json

end PositionOverlay
