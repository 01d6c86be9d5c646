import PositionOverlay.Schema

/-!
# Decoding JSON values by a schema

The values are already read, so a mismatch has no place in a text. Members are decoded in their
order, and absent fields are missed after the last member.
-/
namespace PositionOverlay

namespace Json

/-- What a value is, for messages. -/
def found : Json → Found
  | .null => .null
  | .bool b => .boolean b
  | .num n => n.found
  | .str s => .text s
  | .arr _ => .sequence
  | .obj _ => .map

end Json

/-- The fault of a sequence with more items than fields. -/
def Schema.surplus (total count : Nat) : Mismatch :=
  let elements := countElements count
  .invalidLength total s!"{elements} in sequence"

open Json in
mutual

/-- The value that a JSON value stands for. -/
def Schema.decode : {α : Type} → Schema α → Json → Except Mismatch α
  | _, .number, v =>
    match v with
    | .num n => .ok n.toFloat
    | v => .error (.invalidType v.found "f64")
  | _, .natural, v =>
    match v with
    | .num n => Schema.natural? n.found n
    | v => .error (.invalidType v.found "u64")
  | _, .flag, v =>
    match v with
    | .bool b => .ok b
    | v => .error (.invalidType v.found "a boolean")
  | _, .text, v =>
    match v with
    | .str s => .ok s
    | v => .error (.invalidType v.found "a string")
  | _, .uuid, v =>
    match v with
    | .str s => Schema.uuidOf s
    | v => .error (.invalidType v.found "a formatted UUID string")
  | _, .timestamp, v =>
    match v with
    | .str s => Schema.timestampOf s
    | v => .error (.invalidType v.found "an RFC 3339 formatted date and time string")
  | _, .choice _ options, v =>
    match v with
    | .str s => Schema.pick options s
    | .obj [(name, .null)] => Schema.pick options name
    | .obj [(name, v)] => do
      let _ ← Schema.pick options name
      throw (.invalidType v.found "unit variant")
    | .obj _ => .error (.invalidValue .map "map with a single key")
    | v => .error (.invalidType v.found "string or map")
  | _, .optional schema, v =>
    match v with
    | .null => .ok none
    | v => some <$> schema.decode v
  | _, .list schema, v =>
    match v with
    | .arr items => items.mapM schema.decode
    | v => .error (.invalidType v.found "a sequence")
  | _, .record title fields build, v =>
    match v with
    | .arr items =>
      build <$> fields.decodeItems (Schema.expectedLength title fields.length) items.length 0 items
    | .obj members => do
      let slots ← members.foldlM (fun slots m => fields.decodeMember slots m.1 m.2) fields.empty
      build <$> fields.finish slots
    | v => .error (.invalidType v.found title)

/-- Decodes the fields from the items of a sequence, of which none may be left over. -/
def Fields.decodeItems : {α : Type} → Fields α → (expected : String) → (total index : Nat) →
    List Json → Except Mismatch α
  | _, .nil, _, total, index, items =>
    if items.isEmpty then .ok () else .error (Schema.surplus total index)
  | _, .cons _ schema default rest, expected, total, index, items =>
    match items with
    | v :: items => do
      let a ← schema.decode v
      return (a, ← rest.decodeItems expected total (index + 1) items)
    | [] =>
      match default with
      | none => .error (.invalidLength index expected)
      | some a => do return (a, ← rest.decodeItems expected total (index + 1) [])

/-- Decodes a member into the slot of its name; members of other names are passed over. -/
def Fields.decodeMember : {α : Type} → (fs : Fields α) → fs.Slots → String → Json →
    Except Mismatch fs.Slots
  | _, .nil, _, _, _ => .ok ()
  | _, .cons (α := α) name schema _ rest, slots, found, v => do
    let slots : Option α × rest.Slots := slots
    if found = name then
      if slots.1.isSome then throw (.duplicateField name)
      else return (some (← schema.decode v), slots.2)
    else return (slots.1, ← rest.decodeMember slots.2 found v)

end

end PositionOverlay
