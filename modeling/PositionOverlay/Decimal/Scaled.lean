import PositionOverlay.Decimal.Numeral

/-!
# Numerals by scaling

A quick way to read a numeral: the leading digits that fit in a word make a whole number, which is
rounded to a float and then multiplied or divided by a power of ten. Each step rounds, so the
result can miss the nearest float by its last bit.
-/
namespace PositionOverlay.Decimal

/-- Appends digits to a whole number while it fits in 64 bits; the rest begins with the first that
does not. -/
def appendDigits : (n : Nat) → List Char → Nat × List Char
  | n, [] => (n, [])
  | n, c :: cs =>
    let next := 10 * n + (c.toNat - '0'.toNat)
    if next < 0x10000000000000000 then appendDigits next cs else (n, c :: cs)

/-- The greatest power of ten that is a float. -/
def greatestPower : Nat := 308

/-- The float nearest to a power of ten. -/
def powerOfTen (n : Nat) : Float := .ofScientific 1 false n

/-- A float times a power of ten, of which a small one is applied in two steps. -/
def scale (x : Float) : (power : Int) → Float
  | .ofNat n =>
    if n ≤ greatestPower then x * powerOfTen n
    else if x == 0.0 then x
    else 1.0 / 0.0
  | .negSucc k =>
    let n := k + 1
    if n ≤ greatestPower then x / powerOfTen n
    else if n ≤ 2 * greatestPower then
      x / powerOfTen greatestPower / powerOfTen (n - greatestPower)
    else 0.0

/-- The float of the digits before and after a point, times a power of ten. Whole digits that do
not fit count as zeros, and the others are left out. -/
def readScaled (negative : Bool) (whole fraction : List Char) (power : Int) : Float :=
  let (n, uncounted) := appendDigits 0 whole
  let (n, ignored) := appendDigits n fraction
  let places := fraction.length - ignored.length
  let magnitude := scale (.ofNat n) (power + uncounted.length - places)
  if negative then -magnitude else magnitude

end PositionOverlay.Decimal
