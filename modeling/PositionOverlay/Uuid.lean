/-!
# Order identifiers

A UUID is 128 bits. It is read from 32 hexadecimal digits, from the five hyphenated groups, and
from those groups in braces or behind `urn:uuid:`, in either case; it is written as the groups in
lower case.
-/
namespace PositionOverlay

/-- A universally unique identifier. -/
structure Uuid where
  bits : BitVec 128
deriving DecidableEq, Repr, Inhabited

namespace Uuid

/-- All bits zero. -/
def zero : Uuid := ⟨0⟩

/-- Why a text is no identifier. Positions in bytes and groups are counted from zero. -/
inductive Fault where
  | character (c : Char) (position : Nat)
  | length (found : Nat)
  | groupCount (found : Nat)
  | groupLength (group found : Nat)
deriving DecidableEq, Repr

/-- The lengths of the hyphenated groups. -/
def groupLengths : List Nat := [8, 4, 4, 4, 12]

namespace Fault

def message : Fault → String
  | character c n => s!"invalid character: found `{c}` at {n}"
  | length n => s!"invalid length: found {n}"
  | groupCount n => s!"invalid group count: expected 5, found {n}"
  | groupLength g n =>
    let expected := groupLengths.getD g 0
    s!"invalid group length in group {g}: expected {expected}, found {n}"

end Fault

/-- The value of a hexadecimal digit in either case. -/
def hexDigit? (c : Char) : Option Nat :=
  if '0' ≤ c ∧ c ≤ '9' then some (c.toNat - '0'.toNat)
  else if 'a' ≤ c ∧ c ≤ 'f' then some (c.toNat - 'a'.toNat + 10)
  else if 'A' ≤ c ∧ c ≤ 'F' then some (c.toNat - 'A'.toNat + 10)
  else none

/-- The number that some hexadecimal digits write. -/
def hexNumber? (cs : List Char) : Option Nat :=
  cs.foldlM (fun n c => (hexDigit? c).map (16 * n + ·)) 0

/-- Splits off groups of the given lengths with hyphens between them. -/
def splitGroups? : List Nat → List Char → Option (List (List Char))
  | [], [] => some []
  | [], _ :: _ => none
  | [n], cs => if cs.length = n then some [cs] else none
  | n :: ns, cs =>
    match cs.drop n with
    | '-' :: rest =>
      if (cs.take n).length = n then (splitGroups? ns rest).map (cs.take n :: ·) else none
    | _ => none

/-- Whether a text stands in braces. -/
def isBraced (cs : List Char) : Bool :=
  2 ≤ cs.length && cs.head? == some '\x7b' && cs.getLast? == some '\x7d'

/-- Whether a text begins with the name of the namespace of identifiers, in either case. -/
def hasNamespace (cs : List Char) : Bool := (cs.take 9).map Char.toLower == "urn:uuid:".toList

/-- The hyphenated groups inside an accepted wrapping. -/
def unwrap (cs : List Char) : List Char :=
  if cs.length = 38 && isBraced cs then (cs.drop 1).dropLast
  else if cs.length = 45 && hasNamespace cs then cs.drop 9
  else cs

def read? (cs : List Char) : Option Uuid :=
  let digits :=
    if cs.length = 32 then some cs
    else (splitGroups? groupLengths (unwrap cs)).map List.flatten
  (digits.bind hexNumber?).map fun n => ⟨BitVec.ofNat 128 n⟩

/-- The part of a refused text that is looked at, and how many bytes stand before it. -/
def examined (cs : List Char) : List Char × Nat × Bool :=
  if isBraced cs then ((cs.drop 1).dropLast, 1, false)
  else if hasNamespace cs then (cs.drop 9, 9, false)
  else (cs, 0, true)

/-- The first character that belongs in no identifier, with the byte position before it. -/
def firstStranger? : (offset : Nat) → List Char → Option (Char × Nat)
  | _, [] => none
  | n, c :: cs =>
    if c = '-' ∨ (hexDigit? c).isSome then firstStranger? (n + c.utf8Size) cs else some (c, n)

/-- The lengths of the parts between hyphens. -/
def partLengths (cs : List Char) : List Nat := (cs.splitOn '-').map List.length

/-- The length in bytes of the longest form of an identifier. -/
def mostBytes : Nat := 45

def byteLength (cs : List Char) : Nat := cs.foldl (fun n c => n + c.utf8Size) 0

/-- Why a refused text is no identifier. One that is longer than any form is not looked into, and
what wraps the groups counts as a part of the last one. -/
def diagnose (cs : List Char) : Fault :=
  let (inner, offset, bare) := examined cs
  if mostBytes < byteLength cs then .length (byteLength cs)
  else
    match firstStranger? offset inner with
    | some (c, n) => .character c n
    | none =>
      let parts := partLengths inner
      if parts.length = 1 && bare then .length cs.length
      else if parts.length ≠ 5 then .groupCount parts.length
      else
        match ((parts.zip groupLengths).zipIdx.take 4).find? fun p => p.1.1 ≠ p.1.2 with
        | some ((found, _), group) => .groupLength group found
        | none => .groupLength 4 (cs.length - (groupLengths.take 4).foldl (· + ·) 0 - 4)

def parse (s : String) : Except Fault Uuid :=
  match read? s.toList with
  | some u => .ok u
  | none => .error (diagnose s.toList)

/-- The 32 digits, with leading zeros. -/
def digits (u : Uuid) : List Char :=
  let ds := Nat.toDigits 16 u.bits.toNat
  List.replicate (32 - ds.length) '0' ++ ds

/-- Cuts a list into consecutive pieces of the given lengths. -/
def cut : List Nat → List Char → List (List Char)
  | [], _ => []
  | n :: ns, cs => cs.take n :: cut ns (cs.drop n)

def render (u : Uuid) : String :=
  String.ofList (['-'].intercalate (cut groupLengths u.digits))

end Uuid

end PositionOverlay
