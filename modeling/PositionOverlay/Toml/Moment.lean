import PositionOverlay.Decimal.Numeral
import PositionOverlay.Timestamp

/-!
# Dates and times in TOML

A date, a time of day, or both with an optional offset. The normal form separates both by `T`,
has seconds and a fraction where they are written, and marks an offset of `z` by `Z`. A fraction
has no needless zeros at its end.
-/
namespace PositionOverlay.Toml

/-- Exactly so many digits as a number, in the given range. -/
def digitsIn? (count least most : Nat) (cs : List Char) : Option (Nat × List Char) :=
  let ds := cs.take count
  let n := Decimal.valueOfDigits ds
  if ds.length = count ∧ ds.all Char.isDigit ∧ least ≤ n ∧ n ≤ most then some (n, cs.drop count)
  else none

/-- The rest behind a given character. -/
def after? (c : Char) : List Char → Option (List Char)
  | d :: rest => if d = c then some rest else none
  | [] => none

/-- A number with zeros in front. -/
def padTo (width n : Nat) : List Char :=
  let ds := Nat.toDigits 10 n
  List.replicate (width - ds.length) '0' ++ ds

/-- A calendar date in normal form. -/
def date? (cs : List Char) : Option (List Char × List Char) := do
  let (year, cs) ← digitsIn? 4 0 9999 cs
  let cs ← after? '-' cs
  let (month, cs) ← digitsIn? 2 1 12 cs
  let cs ← after? '-' cs
  let (day, cs) ← digitsIn? 2 1 (Timestamp.Date.monthLength year month) cs
  return (padTo 4 year ++ '-' :: padTo 2 month ++ '-' :: padTo 2 day, cs)

/-- A fraction of a second in normal form; nine digits count and one is kept. -/
def fraction? : List Char → Option (List Char × List Char)
  | '.' :: cs =>
    let (ds, rest) := Decimal.spanDigits cs
    let kept := ((ds.take 9).reverse.dropWhile (· = '0')).reverse
    if ds.isEmpty then none else some ('.' :: (if kept.isEmpty then ['0'] else kept), rest)
  | cs => some ([], cs)

/-- A time of day in normal form, with or without seconds. -/
def time? (cs : List Char) : Option (List Char × List Char) := do
  let (hour, cs) ← digitsIn? 2 0 23 cs
  let cs ← after? ':' cs
  let (minute, cs) ← digitsIn? 2 0 59 cs
  let clock := padTo 2 hour ++ ':' :: padTo 2 minute
  match after? ':' cs with
  | none => return (clock, cs)
  | some cs =>
    let (second, cs) ← digitsIn? 2 0 60 cs
    let (fraction, cs) ← fraction? cs
    return (clock ++ ':' :: padTo 2 second ++ fraction, cs)

/-- An offset in normal form, up to the end of the text. -/
def offset? : List Char → Option (List Char)
  | [] => some []
  | ['Z'] => some ['Z']
  | ['z'] => some ['Z']
  | sign :: cs => do
    let (hour, cs) ← digitsIn? 2 0 23 cs
    let cs ← after? ':' cs
    let (minute, cs) ← digitsIn? 2 0 59 cs
    if (sign = '+' ∨ sign = '-') ∧ cs.isEmpty then
      let sign := if hour = 0 ∧ minute = 0 then '+' else sign
      return sign :: padTo 2 hour ++ ':' :: padTo 2 minute
    else none

/-- The normal form of a date, a time or both. -/
def moment? (cs : List Char) : Option String :=
  match date? cs with
  | some (date, []) => some (String.ofList date)
  | some (date, mark :: cs) => do
    if mark = 'T' ∨ mark = 't' ∨ mark = ' ' then
      let (time, cs) ← time? cs
      let offset ← offset? cs
      return String.ofList (date ++ 'T' :: time ++ offset)
    else none
  | none => do
    let (time, cs) ← time? cs
    if cs.isEmpty then return String.ofList time else none

end PositionOverlay.Toml
