import PositionOverlay.Text.Blank
import PositionOverlay.Decimal.Numeral

/-!
# Execution times

An instant in universal time with nanoseconds, read from a date, a time of day and an offset, and
written in the `Z` form with as many fraction digits in groups of three as it needs.
-/
namespace PositionOverlay

/-- Seconds since the start of 1970 and nanoseconds; `10 ^ 9` nanoseconds and more stand for the
second that is inserted after a minute. -/
structure Timestamp where
  seconds : Int
  nanos : Nat
deriving DecidableEq, Repr, Inhabited

namespace Timestamp

/-- The start of 1970. -/
def epoch : Timestamp := ⟨0, 0⟩

/-- Why a text is no time. -/
inductive Fault where
  | tooShort
  | invalid
  | outOfRange
  | tooLong
  /-- The local time is in range, but not the universal one. -/
  | impossible
deriving DecidableEq, Repr

def Fault.message : Fault → String
  | tooShort => "premature end of input"
  | invalid => "input contains invalid characters"
  | outOfRange => "input is out of range"
  | tooLong => "trailing input"
  | impossible => "no possible date and time matching input"

/-- A day of the proleptic Gregorian calendar. -/
structure Date where
  year : Int
  month : Nat
  day : Nat
deriving DecidableEq, Repr

namespace Date

def isLeap (year : Int) : Bool := year % 4 == 0 && (year % 100 != 0 || year % 400 == 0)

def monthLength (year : Int) (month : Nat) : Nat :=
  if month = 2 then (if isLeap year then 29 else 28)
  else if month = 4 ∨ month = 6 ∨ month = 9 ∨ month = 11 then 30
  else 31

/-- The years that a date can have. -/
def yearInRange (year : Int) : Bool := -262143 ≤ year && year ≤ 262142

/-- Days since the start of 1970. Years are counted from March, so that the inserted day is the
last day of its year. -/
def toDays (d : Date) : Int :=
  let y := if d.month ≤ 2 then d.year - 1 else d.year
  let era := y / 400
  let yearOfEra := y % 400
  let monthFromMarch : Int := if d.month ≤ 2 then d.month + 9 else (d.month : Int) - 3
  let dayOfYear := (153 * monthFromMarch + 2) / 5 + d.day - 1
  let dayOfEra := yearOfEra * 365 + yearOfEra / 4 - yearOfEra / 100 + dayOfYear
  era * 146097 + dayOfEra - 719468

def ofDays (days : Int) : Date :=
  let z := days + 719468
  let era := z / 146097
  let dayOfEra := z % 146097
  let yearOfEra := (dayOfEra - dayOfEra / 1460 + dayOfEra / 36524 - dayOfEra / 146096) / 365
  let dayOfYear := dayOfEra - (365 * yearOfEra + yearOfEra / 4 - yearOfEra / 100)
  let monthFromMarch := (5 * dayOfYear + 2) / 153
  let day := dayOfYear - (153 * monthFromMarch + 2) / 5 + 1
  let month := if monthFromMarch < 10 then monthFromMarch + 3 else monthFromMarch - 9
  ⟨yearOfEra + era * 400 + (if month ≤ 2 then 1 else 0), month.toNat, day.toNat⟩

end Date

/-- A reader of a part of the text returns the rest. -/
abbrev Part (α : Type) := List Char → Except Fault (α × List Char)

/-- Between one and `most` digits. -/
def number (most : Option Nat) : Part Nat := fun cs =>
  let (ds, rest) := Decimal.spanDigits cs
  let width := (most.getD ds.length).min ds.length
  if width = 0 then .error (if cs.isEmpty then .tooShort else .invalid)
  else .ok (Decimal.valueOfDigits (ds.take width), ds.drop width ++ rest)

/-- Blanks and then a number of at most two digits within bounds. -/
def field (least most : Nat) : Part Nat := fun cs => do
  let (n, rest) ← number (some 2) (Text.trimStart cs)
  if n < least ∨ most < n then throw .outOfRange
  return (n, rest)

/-- Blanks and then a year: four digits, or a sign and any number of digits. -/
def year : Part Int := fun cs => do
  let (y, rest) ← match Text.trimStart cs with
    | '-' :: r => (fun (n, r) => (-(n : Int), r)) <$> number none r
    | '+' :: r => (fun (n, r) => ((n : Int), r)) <$> number none r
    | r => (fun (n, r) => ((n : Int), r)) <$> number (some 4) r
  if y < -2147483648 ∨ 2147483647 < y then throw .outOfRange
  return (y, rest)

/-- Blanks and then the given mark. -/
def mark (c : Char) : Part Unit := fun cs =>
  match Text.trimStart cs with
  | [] => .error .tooShort
  | d :: rest => if d = c then .ok ((), rest) else .error .invalid

/-- An optional point with digits, of which nine count. -/
def fraction : Part Nat := fun cs =>
  match cs with
  | '.' :: rest => do
    let (ds, _) := Decimal.spanDigits rest
    let (n, _) ← number (some 9) rest
    return (n * Nat.pow 10 (9 - ds.length.min 9), rest.dropWhile Char.isDigit)
  | _ => .ok (0, cs)

/-- Two digits, as hours or minutes of an offset. -/
def digitPair (cs : List Char) : Except Fault ((Nat × Nat) × List Char) :=
  match cs with
  | a :: b :: rest =>
    if a.isDigit && b.isDigit then .ok ((a.toNat - '0'.toNat, b.toNat - '0'.toNat), rest)
    else .error .invalid
  | [a] => .error (if 2 ≤ a.utf8Size then .invalid else .tooShort)
  | [] => .error .tooShort

/-- An offset from universal time in seconds: `Z`, `UTC`, or a sign, hours and minutes. -/
def offset : Part Int := fun cs => do
  if Decimal.lowerAscii (cs.take 3) = "utc".toList then return (0, cs.drop 3)
  match cs with
  | [] => throw .tooShort
  | c :: rest =>
    if c = 'Z' ∨ c = 'z' then return (0, rest)
    let negative ← if c = '+' then pure false else if c = '-' ∨ c = '\u2212' then pure true
      else throw .invalid
    let ((h, h'), rest) ← digitPair rest
    let ((m, m'), rest) ← digitPair (rest.dropWhile fun c => c = ':' || Text.isBlank c)
    if 6 ≤ m then throw .outOfRange
    let total : Int := (10 * h + h') * 3600 + (10 * m + m') * 60
    return (if negative then -total else total, rest)

/-- The instant of a local date and time of day; a sixtieth second is the inserted one. -/
def ofLocal (d : Date) (hour minute second nanos : Nat) (offset : Int) : Timestamp :=
  let inDay : Int := hour * 3600 + minute * 60 + (second.min 59 : Nat)
  ⟨d.toDays * 86400 + inDay - offset, nanos + (if second = 60 then 1000000000 else 0)⟩

/-- The date in universal time. -/
def date (t : Timestamp) : Date := Date.ofDays (t.seconds / 86400)

def parse (s : String) : Except Fault Timestamp := do
  let (y, cs) ← year s.toList
  let ((), cs) ← mark '-' cs
  let (month, cs) ← field 1 12 cs
  let ((), cs) ← mark '-' cs
  let (day, cs) ← field 1 31 cs
  let cs ← match cs with
    | [] => throw .tooShort
    | c :: rest => if c = 'T' ∨ c = 't' ∨ c = ' ' then pure rest else throw .invalid
  let (hour, cs) ← field 0 23 cs
  let ((), cs) ← mark ':' cs
  let (minute, cs) ← field 0 59 cs
  let ((), cs) ← mark ':' cs
  let (second, cs) ← field 0 60 cs
  let (nanos, cs) ← fraction cs
  let (shift, cs) ← offset (Text.trimStart cs)
  if !(Text.trimStart cs).isEmpty then throw .tooLong
  if shift ≤ -86400 ∨ 86400 ≤ shift then throw .outOfRange
  if !Date.yearInRange y || Date.monthLength y month < day then throw .outOfRange
  let t := ofLocal ⟨y, month, day⟩ hour minute second nanos shift
  if !Date.yearInRange t.date.year then throw .impossible
  return t

/-- A number with leading zeros up to the given width. -/
def padded (width n : Nat) : List Char :=
  let ds := Nat.toDigits 10 n
  List.replicate (width - ds.length) '0' ++ ds

/-- Four digits; other years carry their sign. -/
def renderYear (year : Int) : List Char :=
  if 0 ≤ year ∧ year ≤ 9999 then padded 4 year.toNat
  else (if year < 0 then '-' else '+') :: padded 4 year.natAbs

/-- No digits, or the least of three, six and nine that lose nothing. -/
def renderFraction (nanos : Nat) : List Char :=
  if nanos = 0 then []
  else if nanos % 1000000 = 0 then '.' :: padded 3 (nanos / 1000000)
  else if nanos % 1000 = 0 then '.' :: padded 6 (nanos / 1000)
  else '.' :: padded 9 nanos

def render (t : Timestamp) : String :=
  let d := t.date
  let inDay := (t.seconds % 86400).toNat
  let (extra, nanos) :=
    if 1000000000 ≤ t.nanos then (1, t.nanos - 1000000000) else (0, t.nanos)
  String.ofList <|
    renderYear d.year ++ '-' :: padded 2 d.month ++ '-' :: padded 2 d.day ++
      'T' :: padded 2 (inDay / 3600) ++ ':' :: padded 2 (inDay / 60 % 60) ++
      ':' :: padded 2 (inDay % 60 + extra) ++ renderFraction nanos ++ ['Z']

end Timestamp

end PositionOverlay
