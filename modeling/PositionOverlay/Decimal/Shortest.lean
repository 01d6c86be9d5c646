import PositionOverlay.Decimal.Binary

/-!
# Shortest decimal digits

Among all decimals that a float reader rounds to the same float, the shortest ones have the
fewest digits, and the nearest of those is chosen. The search walks through the decimal grids
of 1, 2, ... 17 digits and tests the two grid points next to the value, in exact arithmetic.
-/
namespace PositionOverlay.Decimal

/-- What decides between two shortest decimals that are equally near. -/
inductive Tie where
  | toEven
  | up
deriving Repr, DecidableEq

/-- A positive decimal `digits * 10 ^ exponent`. -/
structure Digits where
  digits : Nat
  exponent : Int
deriving Repr, DecidableEq, Inhabited

/-- The number of decimal digits of a number, at least one. -/
def digitCount (n : Nat) : Nat := (Nat.toDigits 10 n).length

/-- A value and the ends of the interval of reals that round to it, over one denominator. -/
structure Interval where
  value : Nat
  low : Nat
  high : Nat
  denominator : Nat
  closed : Bool
deriving Repr

namespace Interval

/-- The reals that round to `m * 2 ^ q`: half way to both neighbours, where the neighbour below
a power of two is only half as far away. The ends belong to it when `m` is even. -/
def ofBinary (m : Nat) (q : Int) : Interval :=
  let below := if m = leadingBit ∧ leastExponent < q then 1 else 2
  let scale := Nat.pow 2 (q - 2).toNat
  { value := 4 * m * scale
    low := (4 * m - below) * scale
    high := (4 * m + 2) * scale
    denominator := Nat.pow 2 (2 - q).toNat
    closed := m % 2 == 0 }

/-- The same interval with the value counted in units of `10 ^ k`. -/
def inUnitsOf (i : Interval) (k : Int) : Interval :=
  let up := Nat.pow 10 (-k).toNat
  { value := i.value * up, low := i.low * up, high := i.high * up
    denominator := i.denominator * Nat.pow 10 k.toNat, closed := i.closed }

/-- Whether the whole number `d` lies in the interval. -/
def holds (i : Interval) (d : Nat) : Bool :=
  let x := d * i.denominator
  if i.closed then i.low ≤ x && x ≤ i.high else i.low < x && x < i.high

/-- The place of the leading decimal digit: `10 ^ place ≤ value < 10 ^ (place + 1)`. -/
def leadingPlace (i : Interval) : Int :=
  if i.denominator ≤ i.value then (digitCount (i.value / i.denominator) : Int) - 1
  else -(digitCount ((i.denominator - 1) / i.value) : Int)

/-- The neighbour of the value among whole numbers that lies in the interval, the nearer one
where both do. -/
def neighbour? (i : Interval) (tie : Tie) : Option Nat :=
  let d := i.value / i.denominator
  let rest := i.value % i.denominator
  match i.holds d, i.holds (d + 1) with
  | true, true =>
    if 2 * rest < i.denominator then some d
    else if i.denominator < 2 * rest then some (d + 1)
    else match tie with
      | .up => some (d + 1)
      | .toEven => some (if d % 2 = 0 then d else d + 1)
  | true, false => some d
  | false, true => some (d + 1)
  | false, false => none

/-- A neighbour that is returned reads back as the value. -/
theorem holds_of_neighbour? {i : Interval} {tie : Tie} {d : Nat} (h : i.neighbour? tie = some d) :
    i.holds d = true := by
  cases hd : i.holds (i.value / i.denominator) <;>
    cases hu : i.holds (i.value / i.denominator + 1) <;>
    cases tie <;> simp only [neighbour?, hd, hu] at h <;> grind

/-- The first grid with a neighbour in the interval, from `n` digits on. -/
def search (i : Interval) (tie : Tie) (place : Int) : (tries n : Nat) → Digits
  | 0, n =>
    let k := place - n + 1
    ⟨(i.inUnitsOf k).value / (i.inUnitsOf k).denominator, k⟩
  | tries + 1, n =>
    let k := place - n + 1
    match (i.inUnitsOf k).neighbour? tie with
    | some d => ⟨d, k⟩
    | none => i.search tie place tries (n + 1)

end Interval

/-- Moves trailing zeros of the digits into the exponent. -/
def Digits.stripZeros : (fuel : Nat) → Digits → Digits
  | 0, d => d
  | fuel + 1, d =>
    if d.digits ≠ 0 ∧ d.digits % 10 = 0 then stripZeros fuel ⟨d.digits / 10, d.exponent + 1⟩ else d

/-- The shortest digits of the positive value `m * 2 ^ q`, without trailing zeros. -/
def shortest (tie : Tie) (m : Nat) (q : Int) : Digits :=
  let i := Interval.ofBinary m q
  (i.search tie i.leadingPlace 17 1).stripZeros 18

end PositionOverlay.Decimal
