/-!
# Floating point numbers as exact values

A float is a sign and an exact value `mantissa * 2 ^ exponent`, or one of the two kinds of
number that have no digits. All digit generation works on this form.
-/
namespace PositionOverlay.Decimal

/-- What a float stands for. The sign is kept beside the value, so that both zeros differ. -/
inductive Binary where
  | nan
  | infinite (negative : Bool)
  | finite (negative : Bool) (mantissa : Nat) (exponent : Int)
deriving Repr, DecidableEq, Inhabited

/-- The exponent of the least significant bit of the smallest floats. -/
def leastExponent : Int := -1074

/-- The implicit leading bit of a normal float. -/
def leadingBit : Nat := 0x10000000000000

namespace Binary

/-- Reads the three parts of a binary64 pattern: sign, biased exponent and fraction. -/
def ofBits (bits : Nat) : Binary :=
  let negative := bits / 0x8000000000000000 % 2 == 1
  let biased : Nat := bits / leadingBit % 2048
  let fraction : Nat := bits % leadingBit
  if biased = 2047 then
    if fraction = 0 then .infinite negative else .nan
  else if biased = 0 then .finite negative fraction leastExponent
  else .finite negative (leadingBit + fraction) (leastExponent + (biased : Int) - 1)

def ofFloat (x : Float) : Binary := ofBits x.toBits.toNat

/-- The whole number that a finite value truncates to, toward zero. -/
def truncate : Binary → Int
  | .finite negative m q =>
    let magnitude : Nat := if 0 ≤ q then m * Nat.pow 2 q.toNat else m / Nat.pow 2 (-q).toNat
    if negative then -(magnitude : Int) else magnitude
  | _ => 0

/-- Whether the value is a whole number. -/
def isWhole : Binary → Bool
  | .finite _ m q => 0 ≤ q || m % Nat.pow 2 (-q).toNat == 0
  | _ => false

end Binary

/-- The greatest whole number not above a float. A whole number keeps its sign, and a value
without digits is left as it is. -/
def floor (x : Float) : Float :=
  let exact := Binary.ofFloat x
  match exact with
  | .finite negative _ _ =>
    let magnitude := exact.truncate.natAbs
    if exact.isWhole then x
    else if negative then -.ofNat (magnitude + 1)
    else .ofNat magnitude
  | _ => x

example : floor 2.75 = 2.0 ∧ floor (-2.25) = -3.0 := by decide

end PositionOverlay.Decimal
