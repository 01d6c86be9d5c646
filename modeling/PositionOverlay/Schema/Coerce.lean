import PositionOverlay.Decimal.Numeral
import PositionOverlay.Schema.Decode
import PositionOverlay.Text.Lowercase

/-!
# Coercing plain data by a schema

Configuration is read leniently: numbers, truth values and text stand for each other where they
can, and a sequence of fields may have more items than fields. A value that does not fit is
reported with the way to it.
-/
namespace PositionOverlay

/-- A value that does not fit. -/
inductive Misfit where
  /-- It is no number, truth value or text, as the case may be. -/
  | scalar (found : Found) (expected : String)
  /-- It is no record. -/
  | record (found : Found) (title : String)
  /-- It names no option of a choice. -/
  | option (title name : String)
  /-- It is neither a name nor a table of one name. -/
  | choice (title : String)
  | other (cause : Mismatch)
deriving Repr

/-- A step on the way to a value. -/
inductive Step where
  | member (name : String)
  | item (index : Nat)
deriving Repr, DecidableEq

/-- A value that does not fit, and the way to it. -/
structure Misplaced where
  way : List Step
  cause : Misfit
deriving Repr

namespace Misfit

/-- Floats in sentences about configuration: never with an exponent, always with a point. -/
def layout : Decimal.Layout := { Decimal.Layout.plain with keepsPoint := true }

/-- What was found, in sentences about configuration; an empty place has no value but a unit. -/
def describe : Found → String
  | .null => "unit value"
  | found => found.describe layout.write

def message : Misfit → String
  | scalar found expected =>
    let shown := describe found
    s!"invalid type: {shown}, expected {expected}"
  | record found title =>
    let shown := describe found
    s!"invalid type: {shown}, expected {title}"
  | option title name => s!"enum {title} does not have variant constructor {name}"
  | choice title =>
    s!"value of enum {title} should be represented by either string or table with exactly one key"
  | other cause => cause.message

end Misfit

namespace Misplaced

/-- The way written with dots and brackets. -/
def writeWay : List Step → String
  | [] => ""
  | [.member name] => name
  | .member name :: .item i :: rest => name ++ writeWay (.item i :: rest)
  | .member name :: rest => name ++ "." ++ writeWay rest
  | .item i :: .member name :: rest => s!"[{i}]." ++ writeWay (.member name :: rest)
  | .item i :: rest => s!"[{i}]" ++ writeWay rest

def message (m : Misplaced) : String :=
  if m.way.isEmpty then m.cause.message
  else
    let text := m.cause.message
    let way := writeWay m.way
    s!"{text} for key `{way}`"

end Misplaced

/-- A result that is one step further away. -/
def Misplaced.under {α : Type} (step : Step) : Except Misplaced α → Except Misplaced α :=
  Except.mapError fun m => { m with way := step :: m.way }

namespace Schema

def misfit {α : Type} (cause : Misfit) : Except Misplaced α := .error ⟨[], cause⟩

/-- The words for true and false. -/
def truthWord? (s : String) : Option Bool :=
  if ["true", "on", "yes"].contains s then some true
  else if ["false", "off", "no"].contains s then some false
  else none

/-- Truth counts as one, text as what it says. -/
def coerceNumber : Json → Except Misplaced Float
  | .num n => .ok n.toFloat
  | .bool b => .ok (if b then 1.0 else 0.0)
  | .str s =>
    match truthWord? (Text.lower s), Decimal.readFloat? s with
    | some b, _ => .ok (if b then 1.0 else 0.0)
    | none, some x => .ok x
    | none, none => misfit (.scalar (.text s) "a floating point")
  | v => misfit (.scalar v.found "a floating point")

/-- A number is true unless it is zero. -/
def coerceFlag : Json → Except Misplaced Bool
  | .bool b => .ok b
  | .num (.int i) => .ok (i ≠ 0)
  | .num (.float x) => .ok (x != 0.0)
  | .str s =>
    let word := Text.lower s
    match truthWord? word with
    | some b => .ok b
    | none =>
      if word = "1" then .ok true
      else if word = "0" then .ok false
      else misfit (.scalar (.text word) "a boolean")
  | v => misfit (.scalar v.found "a boolean")

/-- Scalars as they are written in sentences. -/
def coerceText : Json → Except Misplaced String
  | .str s => .ok s
  | .bool b => .ok (if b then "true" else "false")
  | .num (.int i) => .ok (toString i)
  | .num (.float x) => .ok (Decimal.Layout.plain.write x)
  | v => misfit (.scalar v.found "a string")

/-- A name, alone or as the only one of a table. -/
def coerceChoice {α : Type} (title : String) (options : List (String × α)) (v : Json) :
    Except Misplaced α :=
  let named (name : String) : Except Misplaced α :=
    match options.lookup name with
    | some a => .ok a
    | none => misfit (.option title name)
  match v with
  | .str name => named name
  | .obj [(name, _)] => named name
  | _ => misfit (.choice title)

end Schema

mutual

/-- The value that plain data stands for. -/
def Schema.coerce : {α : Type} → Schema α → Json → Except Misplaced α
  | _, .number, v => Schema.coerceNumber v
  | _, .flag, v => Schema.coerceFlag v
  | _, .text, v => Schema.coerceText v
  | _, .choice title options, v => Schema.coerceChoice title options v
  | _, .optional schema, v =>
    match v with
    | .null => .ok none
    | v => some <$> schema.coerce v
  | _, .record title fields build, v =>
    match v with
    | .obj members => build <$> fields.coerceMembers members
    | .arr items => build <$> fields.coerceItems 0 items
    | v => Schema.misfit (.record v.found title)
  | _, .natural, v => (Schema.natural.decode v).mapError fun m => ⟨[], .other m⟩
  | _, .uuid, v => (Schema.uuid.decode v).mapError fun m => ⟨[], .other m⟩
  | _, .timestamp, v => (Schema.timestamp.decode v).mapError fun m => ⟨[], .other m⟩
  | _, .list schema, v => ((Schema.list schema).decode v).mapError fun m => ⟨[], .other m⟩

/-- The fields from the members of an object, absent ones by their defaults. -/
def Fields.coerceMembers : {α : Type} → Fields α → List (String × Json) → Except Misplaced α
  | _, .nil, _ => .ok ()
  | _, .cons name schema default rest, members => do
    let a ← match members.lookup name, default with
      | some v, _ => Misplaced.under (.member name) (schema.coerce v)
      | none, some a => .ok a
      | none, none => Schema.misfit (.other (.missingField name))
    return (a, ← rest.coerceMembers members)

/-- The fields from the items of a sequence, absent ones by their defaults. -/
def Fields.coerceItems : {α : Type} → Fields α → (index : Nat) → List Json → Except Misplaced α
  | _, .nil, _, _ => .ok ()
  | _, .cons name schema default rest, index, items => do
    let a ← match items, default with
      | v :: _, _ => Misplaced.under (.item index) (schema.coerce v)
      | [], some a => .ok a
      | [], none => Schema.misfit (.other (.missingField name))
    return (a, ← rest.coerceItems (index + 1) (items.drop 1))

end

end PositionOverlay
