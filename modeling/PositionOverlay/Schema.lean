import PositionOverlay.Json.Fault
import PositionOverlay.Json.Value

/-!
# Schemas

A schema says how the values of a type are written in a document. One schema serves all document
kinds: JSON text, JSON values that were read before, and configuration values.
-/
namespace PositionOverlay

mutual

/-- The written form of a type. -/
inductive Schema : Type → Type 1 where
  | number : Schema Float
  | natural : Schema Nat
  | flag : Schema Bool
  | text : Schema String
  | uuid : Schema Uuid
  | timestamp : Schema Timestamp
  /-- One of some names, alone or as the only name of an object. -/
  | choice {α : Type} (title : String) (options : List (String × α)) : Schema α
  | optional {α : Type} (schema : Schema α) : Schema (Option α)
  | list {α : Type} (schema : Schema α) : Schema (List α)
  /-- Named fields, written as an object or as a sequence in the given order. -/
  | record {α β : Type} (title : String) (fields : Fields α) (build : α → β) : Schema β

/-- Named fields; one with a default may be absent. -/
inductive Fields : Type → Type 1 where
  | nil : Fields Unit
  | cons {α β : Type} (name : String) (schema : Schema α) (default : Option α)
      (rest : Fields β) : Fields (α × β)

end

/-- Sequences and objects are counted in words. -/
def countElements (n : Nat) : String := if n = 1 then "1 element" else s!"{n} elements"

namespace Fields

/-- A field that must be present. -/
abbrev required {α β : Type} (name : String) (schema : Schema α) (rest : Fields β) :
    Fields (α × β) :=
  .cons name schema none rest

/-- A field that may be absent. -/
abbrev defaulted {α β : Type} (name : String) (schema : Schema α) (default : α) (rest : Fields β) :
    Fields (α × β) :=
  .cons name schema (some default) rest

def length : {α : Type} → Fields α → Nat
  | _, .nil => 0
  | _, .cons _ _ _ rest => rest.length + 1

def names : {α : Type} → Fields α → List String
  | _, .nil => []
  | _, .cons name _ _ rest => name :: rest.names

/-- The values of the fields that have been met so far. -/
def Slots : {α : Type} → Fields α → Type
  | _, .nil => Unit
  | _, .cons (α := α) _ _ _ rest => Option α × rest.Slots

/-- No field has been met. -/
def empty : {α : Type} → (fs : Fields α) → fs.Slots
  | _, .nil => ()
  | _, .cons _ _ _ rest => (none, rest.empty)

/-- All fields, absent ones by their defaults. -/
def finish : {α : Type} → (fs : Fields α) → fs.Slots → Except Mismatch α
  | _, .nil, _ => .ok ()
  | _, .cons (α := α) name _ default rest, slots => do
    let slots : Option α × rest.Slots := slots
    let a ← match slots.1.or default with
      | some a => pure a
      | none => throw (.missingField name)
    return (a, ← rest.finish slots.2)

end Fields

/-- What a number is, for messages. -/
def Json.Number.found : Json.Number → Found
  | .int i => .integer i
  | .float x => .float x

namespace Schema

/-- The length that a sequence of fields should have. -/
def expectedLength (title : String) (count : Nat) : String :=
  let elements := countElements count
  s!"{title} with {elements}"

/-- The option of the given name. -/
def pick {α : Type} (options : List (String × α)) (name : String) : Except Mismatch α :=
  match options.lookup name with
  | some a => .ok a
  | none => .error (.unknownVariant name (options.map Prod.fst))

/-- A whole number that is not negative. -/
def natural? (found : Found) : Json.Number → Except Mismatch Nat
  | .int (.ofNat n) => .ok n
  | .int (.negSucc _) => .error (.invalidValue found "u64")
  | .float _ => .error (.invalidType found "u64")

def uuidOf (s : String) : Except Mismatch Uuid := (Uuid.parse s).mapError .badUuid

def timestampOf (s : String) : Except Mismatch Timestamp :=
  (Timestamp.parse s).mapError .badTimestamp

end Schema

end PositionOverlay
