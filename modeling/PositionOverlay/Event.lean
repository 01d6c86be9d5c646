import PositionOverlay.Position
import PositionOverlay.Schema.Decode
import PositionOverlay.Schema.Reader

/-!
# Replay events

An event is an object whose member `type` names its kind, or a sequence that begins with the
name. The other members are read first and decoded when the kind is known, so a mismatch in them
has no place in the text.
-/
namespace PositionOverlay

/-- An execution as it stands in a replay; order and time may be left open. -/
structure FillEvent where
  size : Float
  price : Float
  order : Option Uuid
  time : Option Timestamp
deriving Repr

inductive Event where
  | position (update : PositionUpdate)
  | fill (fill : FillEvent)
  | view (yMin yMax : Float)
  /-- A paint cycle and nothing else. -/
  | paint
deriving Repr

namespace Event

inductive Kind where
  | position
  | fill
  | view
  | paint
deriving Repr, DecidableEq

namespace Kind

def options : List (String × Kind) :=
  [("position", position), ("fill", fill), ("view", view), ("paint", paint)]

def name : Kind → String
  | position => "position"
  | fill => "fill"
  | view => "view"
  | paint => "paint"

theorem lookup_name (k : Kind) : options.lookup k.name = some k := by cases k <;> rfl

end Kind

/-- What is expected where an event stands. -/
def title : String := "internally tagged enum ReplayEvent"

/-- The member that names the kind. -/
def tag : String := "type"

def fillSchema : Schema FillEvent :=
  .record "struct variant ReplayEvent::Fill"
    (.required "size" .number <| .required "price" .number <|
      .defaulted "oid" (.optional .uuid) none <| .defaulted "time" (.optional .timestamp) none .nil)
    fun (size, price, order, time, _) => ⟨size, price, order, time⟩

def viewSchema : Schema Event :=
  .record "struct variant ReplayEvent::View"
    (.required "y_min" .number <| .required "y_max" .number .nil)
    fun (yMin, yMax, _) => .view yMin yMax

/-- A paint event has no content; members are passed over, items are not. -/
def decodePaint : Json → Except Mismatch Event
  | .arr (v :: rest) => .error (Schema.surplus (v :: rest).length 0)
  | _ => .ok .paint

/-- The event of a kind whose other members, or items, are given. -/
def decode (kind : Kind) (content : Json) : Except Mismatch Event :=
  match kind with
  | .position => position <$> PositionUpdate.schema.decode content
  | .fill => fill <$> fillSchema.decode content
  | .view => viewSchema.decode content
  | .paint => decodePaint content

/-! ## Reading -/

open Json Json.Reader

/-- The kind that a tag names. -/
def readKind : Reader Kind := do accept (Schema.pick Kind.options (← stringOr "variant identifier"))

/-- What has been read of an event object: its kind, and the other members in reverse. -/
structure Parts where
  kind : Option Kind
  members : List (String × Json)

/-- Reads behind the name of a member. -/
def readPart (room : Nat) (p : Parts) (name : String) : Reader Parts := do
  if name = tag then
    if p.kind.isSome then mismatch (.duplicateField tag)
    else
      colon
      return { p with kind := some (← readKind) }
  else
    colon
    return { p with members := (name, ← readValue room) :: p.members }

/-- The kind that was read, which must be there. -/
def requireKind : Option Kind → Reader Kind
  | some k => pure k
  | none => mismatch (.missingField tag)

/-- A result that was built from what has been read. -/
def built : Except Mismatch Event → Reader Event
  | .ok e => pure e
  | .error m => fail (.mismatch m .building)

/-- Reads the items behind a leading tag. -/
def readItemParts (room : Nat) : Reader (Kind × List Json) := do
  if ← nextItem? true then
    let kind ← readKind
    return (kind, ← readItems (readValue room) (← turns) false)
  else mismatch (.missingField tag)

def read (room : Nat) : Reader Event := do
  match ← peek? with
  | none => fail .truncated
  | some c =>
    if c = '\x7b' then
      let (kind, content) ← nested room fun room => do
        let parts ← readMembers (readPart room) (← turns) true ⟨none, []⟩
        let kind ← requireKind parts.kind
        closeMembers
        return (kind, Json.obj parts.members.reverse)
      built (decode kind content)
    else if c = '[' then
      let (kind, items) ← nested room fun room => do
        let parts ← readItemParts room
        closeItems
        return parts
      built (decode kind (.arr items))
    else refuse title

/-- Reads a text as one event. -/
def parse (text : String) : Except Json.Fault Event := (read nestingLimit).runText text

end Event

end PositionOverlay
