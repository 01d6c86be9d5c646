import PositionOverlay.Decimal.Numeral
import PositionOverlay.Json.Value
import PositionOverlay.Toml.Value

/-!
# Layers of configuration

Configuration comes in layers of named values, of which later ones win. Tables of several layers
are merged member by member, and any other value takes the place of what was there. A name may
be a path of names and indices, such as `view.height` or `view[2]`.
-/
namespace PositionOverlay

mutual

/-- A configuration value as plain data. -/
def Toml.toData : Toml → Json
  | .str s => .str s
  | .int i => .int i
  | .float x => .float x
  | .bool b => .bool b
  | .moment text => .str text
  | .arr items => .arr (Toml.itemsToData items)
  | .table members => .obj (Toml.membersToData members)

def Toml.itemsToData : List Toml → List Json
  | [] => []
  | v :: rest => v.toData :: Toml.itemsToData rest

def Toml.membersToData : List (String × Toml) → List (String × Json)
  | [] => []
  | (k, v) :: rest => (k, v.toData) :: Toml.membersToData rest

end

namespace Layers

/-- Named values of one source. -/
abbrev Layer := List (String × Json)

/-- The members of a table; any other value has none. -/
def membersOf : Option Json → List (String × Json)
  | some (.obj ms) => ms
  | _ => []

mutual

/-- A value over one that was there before. -/
def merge : Json → Option Json → Json
  | .obj ms, old => .obj (mergeMembers ms (membersOf old))
  | v, _ => v

/-- Members over those that were there before. -/
def mergeMembers : List (String × Json) → List (String × Json) → List (String × Json)
  | [], old => old
  | (k, v) :: rest, old => mergeMembers rest (insertSorted k (merge v (old.lookup k)) old)

end

/-- A step of a path. A negative index counts from the end of a sequence. -/
inductive PathStep where
  | member (name : String)
  | item (index : Int)
deriving Repr, DecidableEq

/-- The items of a sequence; any other value has none. -/
def itemsOf : Option Json → List Json
  | some (.arr items) => items
  | _ => []

/-- A sequence with room for an index, and the place that the index means. What lies between is
empty; behind a negative index beyond the beginning, the room is made in front. -/
def makeRoom (index : Int) (items : List Json) : List Json × Nat :=
  match index with
  | .ofNat n => (items ++ List.replicate (n + 1 - items.length) .null, n)
  | .negSucc n =>
    (List.replicate (n + 1 - items.length) .null ++ items, items.length - (n + 1))

/-- A value with another one put at a path below it. -/
def assign : (path : List PathStep) → Json → Option Json → Json
  | [], v, old => merge v old
  | .member k :: path, v, old =>
    let ms := membersOf old
    .obj (insertSorted k (assign path v (ms.lookup k)) ms)
  | .item i :: path, v, old =>
    let (items, n) := makeRoom i (itemsOf old)
    .arr (items.set n (assign path v items[n]?))

def isNameChar (c : Char) : Bool := c.isAlphanum || c = '_' || c = '-'

/-- An index in brackets, possibly with blanks around it, and the rest behind the brackets. -/
def readIndex? (cs : List Char) : Option (Int × List Char) := do
  let isGap (c : Char) : Bool := c = ' ' || c = '\t'
  let cs := cs.dropWhile isGap
  let (negative, cs) := match cs with
    | '-' :: cs => (true, cs)
    | cs => (false, cs)
  let (ds, cs) := Decimal.spanDigits cs
  let n : Int := Decimal.valueOfDigits ds
  let n := if negative then -n else n
  match cs.dropWhile isGap with
  | ']' :: rest =>
    if ds.isEmpty ∨ n < -0x8000000000000000 ∨ 0x8000000000000000 ≤ n then none else some (n, rest)
  | _ => none

/-- The steps of a path behind its first name; the first argument bounds their number. -/
def readSteps? : (bound : Nat) → List Char → Option (List PathStep)
  | _, [] => some []
  | 0, _ => none
  | bound + 1, c :: cs =>
    if c = '.' then do
      let name := cs.takeWhile isNameChar
      if name.isEmpty then none
      else return .member (String.ofList name) :: (← readSteps? bound (cs.dropWhile isNameChar))
    else if c = '[' then do
      let (index, rest) ← readIndex? cs
      return .item index :: (← readSteps? bound rest)
    else none

/-- The path that a name stands for; a name that is no path stands for itself. -/
def pathOf (name : String) : List PathStep :=
  let cs := name.toList
  let first := cs.takeWhile isNameChar
  match readSteps? cs.length (cs.dropWhile isNameChar) with
  | some steps =>
    if first.isEmpty then [.member name] else .member (String.ofList first) :: steps
  | none => [.member name]

/-- The table that the layers agree on. -/
def combine (layers : List Layer) : Json :=
  layers.flatten.foldl (fun table e => assign (pathOf e.1) e.2 (some table)) (.obj [])

end Layers

end PositionOverlay
