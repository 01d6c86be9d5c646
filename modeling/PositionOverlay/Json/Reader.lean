import PositionOverlay.Json.Value
import PositionOverlay.Json.Fault
import PositionOverlay.Decimal.Numeral
import PositionOverlay.Decimal.Scaled

/-!
# Reading JSON text

A reader consumes the beginning of a text and fails at the first fault in reading order. There
are two ways to pass over a value: `readValue` keeps it and is strict, `skipValue` drops it and
only looks at the outline of strings and numbers.
-/
namespace PositionOverlay.Json

abbrev Reader := StateT (List Char) (Except Fault)

namespace Reader

def fail {α : Type} (f : Fault) : Reader α := throw f

def mismatch {α : Type} (m : Mismatch) : Reader α := throw (.mismatch m .reading)

/-- A pure reading of the remaining text. -/
def ofRest {α : Type} (f : List Char → Except Fault (α × List Char)) : Reader α := f

def isSpace (c : Char) : Bool := c = ' ' || c = '\n' || c = '\t' || c = '\r'

/-- Passes over blanks and looks at the next character. -/
def peek? : Reader (Option Char) := fun cs =>
  let rest := cs.dropWhile isSpace
  .ok (rest.head?, rest)

/-- Passes over one character. -/
def advance : Reader Unit := fun cs => .ok ((), cs.drop 1)

/-- Reads the given letters. -/
def word : List Char → Reader Unit
  | [] => pure ()
  | w :: ws => fun cs =>
    match cs with
    | [] => .error .truncated
    | c :: rest => if c = w then word ws rest else .error .malformed

end Reader

/-! ## Strings -/

/-- The fault of an escape with fewer than four hexadecimal digits before the end of the text. -/
def shortEscape (rest : List Char) : Fault :=
  if rest.foldl (fun n c => n + c.utf8Size) 0 < 4 then .truncated else .malformed

/-- The sixteen bit unit written by four hexadecimal digits. -/
def unit? (a b c d : Char) : Option Nat := Uuid.hexNumber? [a, b, c, d]

def isHighSurrogate (n : Nat) : Bool := 0xD800 ≤ n && n < 0xDC00

def isLowSurrogate (n : Nat) : Bool := 0xDC00 ≤ n && n < 0xE000

/-- The character of a surrogate pair. -/
def joinSurrogates (high low : Nat) : Char :=
  Char.ofNat (0x10000 + (high - 0xD800) * 0x400 + (low - 0xDC00))

/-- The character that one letter behind a backslash stands for. -/
def simpleEscape? (c : Char) : Option Char :=
  if c = '"' ∨ c = '\\' ∨ c = '/' then some c
  else if c = 'b' then some '\x08'
  else if c = 'f' then some '\x0c'
  else if c = 'n' then some '\n'
  else if c = 'r' then some '\r'
  else if c = 't' then some '\t'
  else none

/-- The rest of a string behind its opening quote, with the characters so far in reverse. -/
def readString : (reversed : List Char) → List Char → Except Fault (String × List Char)
  | _, [] => .error .truncated
  | acc, '"' :: rest => .ok (String.ofList acc.reverse, rest)
  | _, ['\\'] => .error .truncated
  | acc, '\\' :: 'u' :: a :: b :: c :: d :: rest =>
    match unit? a b c d with
    | none => .error .malformed
    | some n =>
      if isLowSurrogate n then .error .malformed
      else if isHighSurrogate n then
        match rest with
        | [] => .error .truncated
        | ['\\'] => .error .truncated
        | '\\' :: 'u' :: e :: f :: g :: h :: rest =>
          match unit? e f g h with
          | none => .error .malformed
          | some m =>
            if isLowSurrogate m then readString (joinSurrogates n m :: acc) rest
            else .error .malformed
        | '\\' :: 'u' :: rest => .error (shortEscape rest)
        | _ => .error .malformed
      else readString (Char.ofNat n :: acc) rest
  | _, '\\' :: 'u' :: rest => .error (shortEscape rest)
  | acc, '\\' :: e :: rest =>
    match simpleEscape? e with
    | some c => readString (c :: acc) rest
    | none => .error .malformed
  | acc, c :: rest => if c.toNat < 32 then .error .malformed else readString (c :: acc) rest

/-- Passes over the rest of a string; surrogates need no partner. -/
def skipString : List Char → Except Fault (List Char)
  | [] => .error .truncated
  | '"' :: rest => .ok rest
  | ['\\'] => .error .truncated
  | '\\' :: 'u' :: a :: b :: c :: d :: rest =>
    if (unit? a b c d).isSome then skipString rest else .error .malformed
  | '\\' :: 'u' :: rest => .error (shortEscape rest)
  | '\\' :: e :: rest => if (simpleEscape? e).isSome then skipString rest else .error .malformed
  | c :: rest => if c.toNat < 32 then .error .malformed else skipString rest

/-! ## Numbers -/

/-- The outline of a numeral: its sign, its whole digits, and fraction and exponent, if any. -/
structure NumberText where
  negative : Bool
  whole : List Char
  fraction : Option (List Char)
  power : Option Int

/-- Passes over a minus sign and says whether there is one. -/
def readMinus : List Char → Bool × List Char
  | '-' :: rest => (true, rest)
  | cs => (false, cs)

/-- Reads digits, at least one; a text that ends where one belongs has the given fault. -/
def readDigits (atEnd : Fault) (cs : List Char) : Except Fault (List Char × List Char) :=
  let (ds, rest) := Decimal.spanDigits cs
  if ds.isEmpty then .error (if rest.isEmpty then atEnd else .malformed) else .ok (ds, rest)

/-- Reads whole digits, which do not begin with a zero in front of others. -/
def readWhole (atEnd : Fault) (cs : List Char) : Except Fault (List Char × List Char) := do
  let (ds, rest) ← readDigits atEnd cs
  match ds with
  | '0' :: _ :: _ => throw .malformed
  | _ => return (ds, rest)

/-- Reads a point and digits, if there is a point. -/
def readFraction (atEnd : Fault) :
    List Char → Except Fault (Option (List Char) × List Char)
  | '.' :: cs => do
    let (ds, rest) ← readDigits atEnd cs
    return (some ds, rest)
  | cs => .ok (none, cs)

/-- Passes over a sign and says whether it is a minus. -/
def readSign : List Char → Bool × List Char
  | '-' :: rest => (true, rest)
  | '+' :: rest => (false, rest)
  | rest => (false, rest)

/-- Reads an exponent with an optional sign, if there is one. -/
def readPower (atEnd : Fault) : List Char → Except Fault (Option Int × List Char)
  | [] => .ok (none, [])
  | c :: cs => do
    if c = 'e' ∨ c = 'E' then
      let (down, more) := readSign cs
      let (ds, rest) ← readDigits atEnd more
      let n : Int := Decimal.valueOfDigits ds
      return (some (if down then -n else n), rest)
    else return (none, c :: cs)

/-- Reads the outline of a numeral; a text that ends inside it has the given fault. -/
def readNumberText (atEnd : Fault) (cs : List Char) : Except Fault (NumberText × List Char) := do
  let (negative, cs) := readMinus cs
  let (whole, rest) ← readWhole atEnd cs
  let (fraction, rest) ← readFraction atEnd rest
  let (power, rest) ← readPower atEnd rest
  return (⟨negative, whole, fraction, power⟩, rest)

/-- The float of a numeral. -/
def NumberText.toFloat (t : NumberText) : Float :=
  Decimal.readScaled t.negative t.whole (t.fraction.getD []) (t.power.getD 0)

/-- The number of a numeral: a whole number of 64 bits where it is written as one, otherwise a
float. A negative zero is a float, and a float must not be infinite. -/
def NumberText.number? (t : NumberText) : Option Number :=
  let float : Option Number :=
    match Decimal.Binary.ofFloat t.toFloat with
    | .finite .. => some (.float t.toFloat)
    | _ => none
  match t.fraction, t.power with
  | none, none =>
    let n := Decimal.valueOfDigits t.whole
    if t.negative then if 0 < n ∧ n ≤ 0x8000000000000000 then some (.int (-(n : Int))) else float
    else if n < 0x10000000000000000 then some (.int n) else float
  | _, _ => float

/-- Reads a number that begins here. -/
def readNumber : Reader Number := Reader.ofRest fun cs => do
  let (t, rest) ← readNumberText .truncated cs
  match t.number? with
  | some n => return (n, rest)
  | none => throw .malformed

/-! ## Sequences and members -/

open Reader

/-- Whether another item follows in a sequence, of which the first is treated apart. -/
def nextItem? (first : Bool) : Reader Bool := do
  match ← peek? with
  | none => fail .truncated
  | some c =>
    if c = ']' then return false
    else if first then return true
    else if c = ',' then
      advance
      match ← peek? with
      | none => fail .truncated
      | some d => if d = ']' then fail .malformed else return true
    else fail .malformed

/-- Reads all items up to the closing bracket; the first argument bounds their number. -/
def readItems {α : Type} (item : Reader α) : (bound : Nat) → (first : Bool) → Reader (List α)
  | 0, _ => fail .malformed
  | bound + 1, first => do
    if ← nextItem? first then
      let a ← item
      return a :: (← readItems item bound false)
    else return []

/-- Passes the closing bracket of a sequence. -/
def closeItems : Reader Unit := do
  match ← peek? with
  | none => fail .truncated
  | some c => if c = ']' then advance else fail .malformed

/-- The name of the next member of an object, if there is one. -/
def nextName? (first : Bool) : Reader (Option String) := do
  match ← peek? with
  | none => fail .truncated
  | some c =>
    if c = '\x7d' then return none
    else
      let c ← if first then pure (some c)
        else if c = ',' then do advance; peek?
        else fail .malformed
      match c with
      | none => fail .truncated
      | some c =>
        if c = '"' then do advance; some <$> ofRest (readString [])
        else fail .malformed

/-- Passes the colon behind a name. -/
def colon : Reader Unit := do
  match ← peek? with
  | none => fail .truncated
  | some c => if c = ':' then advance else fail .malformed

/-- Reads all members up to the closing brace; `step` reads behind the name of each. -/
def readMembers {σ : Type} (step : σ → String → Reader σ) :
    (bound : Nat) → (first : Bool) → σ → Reader σ
  | 0, _, _ => fail .malformed
  | bound + 1, first, s => do
    match ← nextName? first with
    | none => return s
    | some name => readMembers step bound false (← step s name)

/-- Passes the closing brace of an object. -/
def closeMembers : Reader Unit := do
  match ← peek? with
  | none => fail .truncated
  | some c => if c = '\x7d' then advance else fail .malformed

/-- One more than the characters left: no loop over them takes more turns. -/
def turns : Reader Nat := return (← get).length + 1

/-- Reads the items of a sequence behind its opening bracket, and the closing bracket. -/
def sequenceOf {α : Type} (item : Reader α) : Reader (List α) := do
  let items ← readItems item (← turns) true
  closeItems
  return items

/-- Reads the members of an object behind its opening brace, and the closing brace. -/
def membersOf {σ : Type} (step : σ → String → Reader σ) (s : σ) : Reader σ := do
  let s ← readMembers step (← turns) true s
  closeMembers
  return s

/-! ## Values -/

/-- Reads any value. The argument says how many more sequences and objects may be opened. -/
def readValue : (room : Nat) → Reader Json := fun room => do
  match ← peek? with
  | none => fail .truncated
  | some c =>
    if c = 'n' then word "null".toList; return .null
    else if c = 't' then word "true".toList; return .bool true
    else if c = 'f' then word "false".toList; return .bool false
    else if c = '-' ∨ c.isDigit then return .num (← readNumber)
    else if c = '"' then
      advance
      return .str (← ofRest (readString []))
    else if c = '[' then
      match room with
      | 0 => fail .malformed
      | room + 1 =>
        advance
        return .arr (← sequenceOf (readValue room))
    else if c = '\x7b' then
      match room with
      | 0 => fail .malformed
      | room + 1 =>
        advance
        let member (ms : List (String × Json)) (name : String) : Reader (List (String × Json)) := do
          colon
          return ms ++ [(name, ← readValue room)]
        return .obj (← membersOf member [])
    else fail .malformed

/-- A sequence or an object that was opened and not yet closed. -/
inductive Opened where
  | sequence
  | object
deriving DecidableEq

/-- Passes over the name and the colon of a member. -/
def skipName : Reader Unit := do
  match ← peek? with
  | none => fail .truncated
  | some c =>
    if c = '"' then
      advance
      ofRest fun cs => do return ((), ← skipString cs)
      colon
    else fail .malformed

/-- Passes over a value without sequences and objects, or opens one. -/
def skipScalar : Reader (Option Opened) := do
  match ← peek? with
  | none => fail .truncated
  | some c =>
    if c = 'n' then word "null".toList; return none
    else if c = 't' then word "true".toList; return none
    else if c = 'f' then word "false".toList; return none
    else if c = '-' ∨ c.isDigit then
      ofRest fun cs => do return ((), (← readNumberText .malformed cs).2)
      return none
    else if c = '"' then
      advance
      ofRest fun cs => do return ((), ← skipString cs)
      return none
    else if c = '[' then advance; return some .sequence
    else if c = '\x7b' then advance; return some .object
    else fail .malformed

/-- Closes what ends here, from the innermost outward, and passes the comma in front of the next
value. Returns what is still open; the boolean says whether a value stands before this place. -/
def skipEnds : (bound : Nat) → (afterValue : Bool) → List Opened → Reader (List Opened)
  | 0, _, _ => fail .malformed
  | _ + 1, _, [] => return []
  | bound + 1, afterValue, opened :: outer => do
    match ← peek? with
    | none => fail .truncated
    | some c =>
      if afterValue ∧ c = ',' then
        advance
        return opened :: outer
      else if (c = ']' ∧ opened = .sequence) ∨ (c = '\x7d' ∧ opened = .object) then
        advance
        skipEnds bound true outer
      else if afterValue then fail .malformed
      else return opened :: outer

/-- Passes over values until everything that is open has been closed. -/
def skipOpen : (bound : Nat) → List Opened → Reader Unit
  | 0, _ => fail .malformed
  | bound + 1, opened => do
    let inner ← skipScalar
    let stack := match inner with
      | some o => o :: opened
      | none => opened
    match ← skipEnds (← turns) inner.isNone stack with
    | [] => return
    | o :: outer =>
      if o = .object then skipName
      skipOpen bound (o :: outer)

/-- Passes over any value, however deeply nested. -/
def skipValue : Reader Unit := do skipOpen (← turns) []

/-- Nothing but blanks is left. -/
def endOfText : Reader Unit := do
  match ← peek? with
  | none => return
  | some _ => fail .malformed

/-- How many sequences and objects may be open at once. -/
def nestingLimit : Nat := 127

/-- Runs a reader on a whole text. -/
def Reader.runText {α : Type} (r : Reader α) (text : String) : Except Fault α :=
  Prod.fst <$> (do let a ← r; endOfText; return a : Reader α) text.toList

/-- Reads a text as one value. -/
def parse (text : String) : Except Fault Json := (readValue nestingLimit).runText text

end PositionOverlay.Json
