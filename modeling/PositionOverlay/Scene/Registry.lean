/-!
# Registries

Objects with names. A name belongs to the object that took it last; an object whose name was
taken or dropped stays under its key, because others may still refer to it, but is not live.
-/
namespace PositionOverlay

structure Registry.Entry (α : Type) where
  name : String
  live : Bool
  object : α
deriving Repr

/-- The key of an entry is its index. -/
structure Registry (α : Type) where
  entries : Array (Registry.Entry α)
deriving Repr

namespace Registry

variable {α : Type}

def empty : Registry α := ⟨#[]⟩

/-- The key that the next object gets. -/
def nextKey (r : Registry α) : Nat := r.entries.size

/-- The object under a key, live or not. -/
def get? (r : Registry α) (key : Nat) : Option α := r.entries[key]?.map Entry.object

/-- The object under a key, if it is live or something keeps it. -/
def reach? (r : Registry α) (keeps : α → Bool) (key : Nat) : Option α :=
  match r.entries[key]? with
  | some e => if e.live || keeps e.object then some e.object else none
  | none => none

/-- The live object under a key. -/
def live? (r : Registry α) (key : Nat) : Option α := r.reach? (fun _ => false) key

/-- The key and the object that a name belongs to. -/
def find? (r : Registry α) (name : String) : Option (Nat × α) := do
  let key ← r.entries.findIdx? fun e => e.live && e.name == name
  return (key, ← r.get? key)

/-- Replaces the object under a key. -/
def set (r : Registry α) (key : Nat) (object : α) : Registry α :=
  ⟨r.entries.modify key fun e => { e with object }⟩

/-- Takes the name away from the object that it belongs to. -/
def drop (r : Registry α) (name : String) : Registry α :=
  ⟨r.entries.map fun e => if e.name = name then { e with live := false } else e⟩

/-- Adds an object, which takes its name from any other. -/
def add (r : Registry α) (name : String) (object : α) : Registry α :=
  ⟨(r.drop name).entries.push ⟨name, true, object⟩⟩

/-- The live objects with their names, in the order in which they came. -/
def toList (r : Registry α) : List (String × α) :=
  r.entries.toList.filterMap fun e => if e.live then some (e.name, e.object) else none

/-- The keys of the objects that the given names belong to. -/
def keysOf (r : Registry α) (names : List String) : List Nat :=
  names.filterMap fun name => (r.find? name).map Prod.fst

/-- Changes the objects under the given keys, one after the other. -/
def modify (r : Registry α) (keys : List Nat) (f : α → α) : Registry α :=
  keys.foldl (fun r key => ⟨r.entries.modify key fun e => { e with object := f e.object }⟩) r

@[simp] theorem nextKey_set (r : Registry α) (key : Nat) (object : α) :
    (r.set key object).nextKey = r.nextKey := by simp [set, nextKey]

theorem get?_set (r : Registry α) (key other : Nat) (object : α) :
    (r.set key object).get? other =
      if key = other then (r.get? other).map fun _ => object else r.get? other := by
  simp only [set, get?, Array.getElem?_modify]
  split <;> simp [Function.comp_def]

end Registry

end PositionOverlay
