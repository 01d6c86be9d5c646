import PositionOverlay.Decimal.Shortest

/-!
# Reading decimal numerals

A numeral is read into a sign, whole digits and a decimal exponent, and rounded once to the
nearest float.
-/
namespace PositionOverlay.Decimal

/-- The decimal `digits * 10 ^ exponent` with a sign. -/
structure Numeral where
  negative : Bool
  digits : Nat
  exponent : Int
deriving Repr, DecidableEq, Inhabited

/-- The value that some decimal digits write. -/
def valueOfDigits (cs : List Char) : Nat := cs.foldl (fun n c => 10 * n + (c.toNat - '0'.toNat)) 0

@[simp] theorem valueOfDigits_nil : valueOfDigits [] = 0 := rfl

/-- The leading decimal digits of a text and the rest. -/
def spanDigits (cs : List Char) : List Char × List Char :=
  (cs.takeWhile Char.isDigit, cs.dropWhile Char.isDigit)

namespace Numeral

/-- The numeral with the given digits before and after the point, times a power of ten. -/
def ofParts (negative : Bool) (whole fraction : List Char) (power : Int) : Numeral :=
  ⟨negative, valueOfDigits (whole ++ fraction), power - fraction.length⟩

/-- The nearest float; beyond the range of floats an infinity or a zero. -/
def toFloat (n : Numeral) : Float :=
  let place : Int := digitCount n.digits + n.exponent
  let magnitude : Float :=
    if n.digits = 0 || place < -330 then 0.0
    else if 310 < place then 1.0 / 0.0
    else Float.ofScientific n.digits (n.exponent < 0) n.exponent.natAbs
  if n.negative then -magnitude else magnitude

/-- An exponent part `e`, an optional sign and digits, up to the end of the text. -/
def readPower? : List Char → Option Int
  | [] => some 0
  | c :: cs =>
    if c ≠ 'e' ∧ c ≠ 'E' then none
    else
      let (negative, ds) := match cs with
        | '-' :: r => (true, r)
        | '+' :: r => (false, r)
        | r => (false, r)
      if ds.isEmpty || !ds.all Char.isDigit then none
      else some (if negative then -(valueOfDigits ds : Int) else valueOfDigits ds)

/-- Digits with an optional point and an optional exponent; at least one digit is needed. -/
def readUnsigned? (negative : Bool) (cs : List Char) : Option Numeral :=
  let (whole, rest) := spanDigits cs
  let (fraction, rest) := match rest with
    | '.' :: r => spanDigits r
    | r => ([], r)
  if whole.isEmpty && fraction.isEmpty then none
  else (readPower? rest).map (ofParts negative whole fraction)

end Numeral

/-- The lower case form of an ASCII text. -/
def lowerAscii (cs : List Char) : List Char := cs.map Char.toLower

/-- Reads a float: an optional sign, then a numeral or one of the words for the values that have
no digits, in any case. -/
def readFloat? (text : String) : Option Float :=
  let (negative, cs) := match text.toList with
    | '-' :: r => (true, r)
    | '+' :: r => (false, r)
    | r => (false, r)
  let word := String.ofList (lowerAscii cs)
  if word = "inf" ∨ word = "infinity" then some (if negative then -(1.0 / 0.0) else 1.0 / 0.0)
  else if word = "nan" then some (0.0 / 0.0)
  else (Numeral.readUnsigned? negative cs).map Numeral.toFloat

end PositionOverlay.Decimal
