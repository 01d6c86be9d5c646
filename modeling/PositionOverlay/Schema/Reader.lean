import PositionOverlay.Schema
import PositionOverlay.Json.Reader

/-!
# Reading JSON text by a schema

The first fault in reading order decides: a value of the wrong kind is refused before what
follows it is looked at, and absent fields are missed when their object ends.
-/
namespace PositionOverlay

namespace Json

open Reader

/-- Looks at what stands here, as far as a message needs it. -/
def foundHere : Reader Found := do
  match ← peek? with
  | none => fail .truncated
  | some c =>
    if c = 'n' then word "null".toList; return .null
    else if c = 't' then word "true".toList; return .boolean true
    else if c = 'f' then word "false".toList; return .boolean false
    else if c = '-' ∨ c.isDigit then return (← readNumber).found
    else if c = '"' then
      advance
      return .text (← ofRest (readString []))
    else if c = '[' then return .sequence
    else if c = '\x7b' then return .map
    else fail .malformed

/-- Refuses what stands here. -/
def refuse {α : Type} (expected : String) : Reader α := do
  mismatch (.invalidType (← foundHere) expected)

/-- A result that was computed from what has been read. -/
def accept {α : Type} : Except Mismatch α → Reader α
  | .ok a => pure a
  | .error m => mismatch m

/-- Whether the next character is the given one; there has to be one. -/
def nextIs (c : Char) : Reader Bool := do
  match ← peek? with
  | none => fail .truncated
  | some d => return c = d

/-- Reads a string, or refuses what stands here. -/
def stringOr (expected : String) : Reader String := do
  if ← nextIs '"' then
    advance
    ofRest (readString [])
  else refuse expected

/-- Reads a number, or refuses what stands here. -/
def numberOr (expected : String) : Reader Number := do
  match ← peek? with
  | none => fail .truncated
  | some c => if c = '-' ∨ c.isDigit then readNumber else refuse expected

def boolOr (expected : String) : Reader Bool := do
  match ← peek? with
  | none => fail .truncated
  | some c =>
    if c = 't' then word "true".toList; return true
    else if c = 'f' then word "false".toList; return false
    else refuse expected

/-- Reads `null`, or refuses what stands here. -/
def nullOr (expected : String) : Reader Unit := do
  match ← peek? with
  | none => fail .truncated
  | some c => if c = 'n' then word "null".toList else refuse expected

end Json

open Json Json.Reader

/-- Runs a reader inside a newly opened sequence or object, if there is room for one. -/
def Json.nested {α : Type} (room : Nat) (r : Nat → Reader α) : Reader α :=
  match room with
  | 0 => fail .malformed
  | room + 1 => do
    advance
    r room

mutual

/-- Reads a value. The first argument says how many more sequences and objects may be opened. -/
def Schema.read (room : Nat) : {α : Type} → Schema α → Reader α
  | _, .number => Number.toFloat <$> numberOr "f64"
  | _, .natural => do
    let n ← numberOr "u64"
    accept (Schema.natural? n.found n)
  | _, .flag => boolOr "a boolean"
  | _, .text => stringOr "a string"
  | _, .uuid => do accept (Schema.uuidOf (← stringOr "a formatted UUID string"))
  | _, .timestamp => do
    accept (Schema.timestampOf (← stringOr "an RFC 3339 formatted date and time string"))
  | _, .choice _ options => do
    match ← peek? with
    | none => fail .truncated
    | some c =>
      if c = '"' then
        accept (Schema.pick options (← stringOr "variant identifier"))
      else if c = '\x7b' then
        nested room fun _ => do
          let a ← accept (Schema.pick options (← stringOr "variant identifier"))
          colon
          nullOr "unit"
          closeMembers
          return a
      else fail .malformed
  | _, .optional schema => do
    match ← peek? with
    | some 'n' => word "null".toList; return none
    | _ => some <$> schema.read room
  | _, .list schema => do
    if ← nextIs '[' then
      nested room fun room => sequenceOf (schema.read room)
    else refuse "a sequence"
  | _, .record title fields build => do
    match ← peek? with
    | none => fail .truncated
    | some c =>
      if c = '[' then
        nested room fun room => do
          let a ← fields.readItems room (Schema.expectedLength title fields.length) 0 true
          closeItems
          return build a
      else if c = '\x7b' then
        nested room fun room => do
          let slots ← readMembers (fields.readMember room) (← turns) true fields.empty
          let a ← accept (fields.finish slots)
          closeMembers
          return build a
      else refuse title

/-- Reads the fields from the items of a sequence, up to its closing bracket. -/
def Fields.readItems (room : Nat) :
    {α : Type} → Fields α → (expected : String) → (index : Nat) → (first : Bool) → Reader α
  | _, .nil, _, _, _ => return ()
  | _, .cons _ schema default rest, expected, index, first => do
    if ← nextItem? first then
      let a ← schema.read room
      return (a, ← rest.readItems room expected (index + 1) false)
    else
      match default with
      | none => mismatch (.invalidLength index expected)
      | some a => return (a, ← rest.readItems room expected (index + 1) first)

/-- Reads the member of the given name into its slot; members of other names are passed over. -/
def Fields.readMember (room : Nat) :
    {α : Type} → (fs : Fields α) → fs.Slots → String → Reader fs.Slots
  | _, .nil, _, _ => do
    colon
    skipValue
  | _, .cons (α := α) name schema _ rest, slots, found => do
    let slots : Option α × rest.Slots := slots
    if found = name then
      if slots.1.isSome then mismatch (.duplicateField name)
      else
        colon
        return (some (← schema.read room), slots.2)
    else return (slots.1, ← rest.readMember room slots.2 found)

end

/-- Reads a whole text by a schema. -/
def Schema.readText {α : Type} (schema : Schema α) (text : String) : Except Json.Fault α :=
  (schema.read nestingLimit).runText text

end PositionOverlay
