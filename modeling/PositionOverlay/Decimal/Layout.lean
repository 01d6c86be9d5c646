import PositionOverlay.Decimal.Shortest

/-!
# How floats are written

A layout fixes the decisions that the shortest digits leave open: which magnitudes are written
positionally, whether a whole number keeps a `.0`, and how an exponent is marked. The three
layouts of the library are `data`, `plain` and `inspect`.
-/
namespace PositionOverlay.Decimal

/-- The decisions of a number format. -/
structure Layout where
  /-- Which of two equally near shortest decimals is written. -/
  tie : Tie
  /-- The places of the leading digit that are written positionally; all of them when absent. -/
  positional : Option (Int × Int)
  /-- A whole number that is written positionally ends in `.0`. -/
  keepsPoint : Bool
  /-- A positive exponent carries a plus sign. -/
  signedExponent : Bool
deriving Repr

namespace Layout

/-- Numbers in data documents: always with a point or an exponent. -/
def data : Layout := ⟨.toEven, some (-5, 15), true, true⟩

/-- Numbers inside sentences: never with an exponent, whole numbers without a point. -/
def plain : Layout := ⟨.up, none, false, false⟩

/-- Numbers in descriptions of objects. -/
def inspect : Layout := ⟨.up, some (-4, 15), true, false⟩

/-- The digits with a point after `place` more digits than the first. -/
def writePositional (keepsPoint : Bool) (digits : List Char) (place : Int) : List Char :=
  if place < 0 then
    '0' :: '.' :: List.replicate ((-place).toNat - 1) '0' ++ digits
  else
    let whole := place.toNat + 1
    if digits.length ≤ whole then
      let ending := if keepsPoint then ['.', '0'] else []
      digits ++ List.replicate (whole - digits.length) '0' ++ ending
    else digits.take whole ++ '.' :: digits.drop whole

/-- One digit, the others behind a point, and the exponent. -/
def writeExponent (signed : Bool) (digits : List Char) (place : Int) : List Char :=
  let mantissa := match digits with
    | d :: [] => [d]
    | d :: ds => d :: '.' :: ds
    | [] => []
  let sign := if place < 0 then ['-'] else if signed then ['+'] else []
  mantissa ++ 'e' :: sign ++ Nat.toDigits 10 place.natAbs

/-- A positive value `m * 2 ^ q`. -/
def writePositive (n : Layout) (m : Nat) (q : Int) : List Char :=
  let d := shortest n.tie m q
  let digits := Nat.toDigits 10 d.digits
  let place := d.exponent + (digits.length : Int) - 1
  let spelledOut := match n.positional with
    | none => true
    | some (least, most) => least ≤ place && place ≤ most
  if spelledOut then writePositional n.keepsPoint digits place
  else writeExponent n.signedExponent digits place

/-- A value; the three that have no digits are written by name. -/
def writeBinary (n : Layout) : Binary → List Char
  | .nan => "NaN".toList
  | .infinite negative => (if negative then ['-'] else []) ++ "inf".toList
  | .finite negative m q =>
    (if negative then ['-'] else []) ++
      if m = 0 then '0' :: (if n.keepsPoint then ['.', '0'] else []) else n.writePositive m q

def write (n : Layout) (x : Float) : String := String.ofList (n.writeBinary (.ofFloat x))

end Layout

end PositionOverlay.Decimal
