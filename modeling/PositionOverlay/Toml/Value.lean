import PositionOverlay.Json.Value

/-!
# TOML values

A document is built statement by statement. While it is built, each table remembers how it came
to be: a table that a header has named cannot be named again, and dotted keys only reach into
tables that no header has named, which none can name from then on.
-/
namespace PositionOverlay

inductive Toml where
  | str (value : String)
  | int (value : Int)
  | float (value : Float)
  | bool (value : Bool)
  /-- A date, a time or both, in normal form. -/
  | moment (text : String)
  | arr (items : List Toml)
  | table (members : List (String × Toml))
deriving Repr, Inhabited

namespace Toml

/-- How a table came to be. -/
inductive Origin where
  /-- On the way to a table that a header names. -/
  | implied
  /-- By a dotted key. -/
  | dotted
  | header
deriving Repr, DecidableEq

/-- A part of a document that is being built. -/
inductive Node where
  /-- A value that is complete. -/
  | value (value : Toml)
  | table (origin : Origin) (members : List (String × Node))
  /-- Tables of one name; statements reach the last of them. -/
  | tables (earlier : List (List (String × Node))) (last : List (String × Node))
deriving Inhabited

abbrev Members := List (String × Node)

/-- Puts a node in place of the one of the same name, or at the end. -/
def Members.put (name : String) (node : Node) : Members → Members
  | [] => [(name, node)]
  | (k, n) :: rest => if k = name then (name, node) :: rest else (k, n) :: put name node rest

/-- Changes the table at the end of a path; tables on the way are made with the given origin. -/
def Members.change (making : Origin) (f : Origin → Members → Option (Origin × Members)) :
    (path : List String) → Origin → Members → Option (Origin × Members)
  | [], origin, ms => f origin ms
  | k :: path, origin, ms =>
    match ms.lookup k with
    | none => do
      let (o, inner) ← change making f path making []
      return (origin, ms.put k (.table o inner))
    | some (.table o inner) =>
      if making = .dotted ∧ o = .header then none
      else do
        let (o, inner) ← change making f path (if making = .dotted then .dotted else o) inner
        return (origin, ms.put k (.table o inner))
    | some (.tables earlier last) => do
      let (_, last) ← change making f path .header last
      return (origin, ms.put k (.tables earlier last))
    | some (.value _) => none

/-- Adds a value under a dotted key. -/
def Members.addValue (path : List String) (name : String) (v : Toml) :
    Origin → Members → Option (Origin × Members) :=
  change .dotted (fun origin ms =>
    if decide (origin = .dotted) = path.isEmpty ∨ (ms.lookup name).isSome then none
    else some (origin, ms.put name (.value v))) path

/-- Names a table by a header. -/
def Members.openTable (path : List String) (name : String) :
    Origin → Members → Option (Origin × Members) :=
  change .implied (fun origin ms =>
    match ms.lookup name with
    | none => some (origin, ms.put name (.table .header []))
    | some (.table .implied inner) => some (origin, ms.put name (.table .header inner))
    | some _ => none) path

/-- Adds a table to the tables of one name. -/
def Members.appendTable (path : List String) (name : String) :
    Origin → Members → Option (Origin × Members) :=
  change .implied (fun origin ms =>
    match ms.lookup name with
    | none => some (origin, ms.put name (.tables [] []))
    | some (.tables earlier last) => some (origin, ms.put name (.tables (earlier ++ [last]) []))
    | some _ => none) path

mutual

/-- The value of a node when the document is complete. -/
def Node.finish : Node → Toml
  | .value v => v
  | .table _ ms => .table (finishMembers ms)
  | .tables earlier last => .arr (finishTables earlier ++ [.table (finishMembers last)])

def finishMembers : List (String × Node) → List (String × Toml)
  | [] => []
  | (k, n) :: rest => (k, n.finish) :: finishMembers rest

def finishTables : List (List (String × Node)) → List Toml
  | [] => []
  | ms :: rest => .table (finishMembers ms) :: finishTables rest

end

/-- A statement of a document. -/
inductive Statement where
  | entry (path : List String) (name : String) (value : Toml)
  | header (path : List String) (name : String)
  | element (path : List String) (name : String)

/-- A document in progress: its members, and the table that entries go to. -/
structure Draft where
  members : Members
  current : List String

namespace Draft

def start : Draft := ⟨[], []⟩

/-- Takes a statement in, if it agrees with those before it. -/
def take (d : Draft) : Statement → Option Draft
  | .entry path name v => do
    let (_, members) ←
      Members.change .implied (Members.addValue path name v) d.current .header d.members
    return { d with members }
  | .header path name => do
    let (_, members) ← Members.openTable path name .header d.members
    return { members, current := path ++ [name] }
  | .element path name => do
    let (_, members) ← Members.appendTable path name .header d.members
    return { members, current := path ++ [name] }

def finish (d : Draft) : List (String × Toml) := finishMembers d.members

end Draft

/-- The table that some statements describe. -/
def ofStatements? (statements : List Statement) : Option (List (String × Toml)) :=
  Draft.finish <$> statements.foldlM Draft.take .start

end Toml

end PositionOverlay
