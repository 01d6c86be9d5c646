import PositionOverlay.Toml.Moment
import PositionOverlay.Toml.Value
import PositionOverlay.Uuid

/-!
# Reading TOML

A document is a list of statements, one a line. A reader consumes the beginning of a text or
fails; why a text is malformed is not told.
-/
namespace PositionOverlay.Toml

abbrev Reader := StateT (List Char) Option

namespace Reader

def fail {α : Type} : Reader α := fun _ => none

def peek? : Reader (Option Char) := return (← get).head?

def advance (n : Nat) : Reader Unit := modify (List.drop n)

/-- Whether the text goes on with the given one. -/
def ahead (cs : List Char) : Reader Bool := return cs.isPrefixOf (← get)

/-- Passes over the given text. -/
def expect (cs : List Char) : Reader Unit := do
  if ← ahead cs then advance cs.length else fail

/-- Takes characters while they are of a class. -/
def takeWhile (p : Char → Bool) : Reader (List Char) := fun cs =>
  some (cs.takeWhile p, cs.dropWhile p)

/-- One more than the characters left: no loop over them takes more turns. -/
def turns : Reader Nat := return (← get).length + 1

end Reader

open Reader

/-! ## Blanks and comments -/

def isBlankChar (c : Char) : Bool := c = ' ' || c = '\t'

/-- Characters that stand for themselves within a line. -/
def isPlain (c : Char) : Bool := c = '\t' || (32 ≤ c.toNat && c.toNat ≠ 127)

def skipBlanks : Reader Unit := do let _ ← takeWhile isBlankChar

/-- Passes over a comment, if there is one. -/
def skipComment : Reader Unit := do
  if (← peek?) = some '#' then let _ ← takeWhile isPlain

/-- Passes over a line end, if there is one. -/
def lineEnd? : Reader Bool := do
  if ← ahead ['\n'] then
    advance 1
    return true
  else if ← ahead ['\r', '\n'] then
    advance 2
    return true
  else return false

/-- Passes over blanks, comments and line ends. -/
def skipLines : (bound : Nat) → Reader Unit
  | 0 => return
  | bound + 1 => do
    skipBlanks
    skipComment
    if ← lineEnd? then skipLines bound

def skipSpace : Reader Unit := do skipLines (← turns)

/-- Passes over what may stand between a statement and the end of its line. -/
def endOfLine : Reader Unit := do
  skipBlanks
  skipComment
  if (← get).isEmpty then return
  else if ← lineEnd? then return
  else fail

/-! ## Strings -/

/-- The character of some hexadecimal digits. -/
def charOfHex? (ds : List Char) : Option Char := do
  let n ← Uuid.hexNumber? ds
  if n < 0xD800 ∨ (0xDFFF < n ∧ n < 0x110000) then return Char.ofNat n else none

/-- The character of an escape behind its backslash, and the rest. -/
def escape? : List Char → Option (Char × List Char)
  | c :: cs =>
    let hex (n : Nat) : Option (Char × List Char) := do
      if cs.length < n then none else return (← charOfHex? (cs.take n), cs.drop n)
    if c = '"' ∨ c = '\\' then some (c, cs)
    else if c = 'b' then some ('\x08', cs)
    else if c = 'f' then some ('\x0c', cs)
    else if c = 'n' then some ('\n', cs)
    else if c = 'r' then some ('\r', cs)
    else if c = 't' then some ('\t', cs)
    else if c = 'e' then some ('\x1b', cs)
    else if c = 'x' then hex 2
    else if c = 'u' then hex 4
    else if c = 'U' then hex 8
    else none
  | [] => none

/-- The rest of a string of one line, with the characters so far in reverse. -/
def basicString : (bound : Nat) → (reversed : List Char) → Reader String
  | 0, _ => fail
  | bound + 1, acc => fun cs =>
    match cs with
    | '"' :: rest => some (String.ofList acc.reverse, rest)
    | '\\' :: rest => do
      let (c, rest) ← escape? rest
      basicString bound (c :: acc) rest
    | c :: rest => if isPlain c then basicString bound (c :: acc) rest else none
    | [] => none

/-- The rest of a string of one line without escapes. -/
def literalString : Reader String := do
  let cs ← takeWhile fun c => isPlain c && c ≠ '\''
  expect ['\'']
  return String.ofList cs

/-- The rest behind blanks and line ends. -/
def dropFold : List Char → List Char
  | ' ' :: cs => dropFold cs
  | '\t' :: cs => dropFold cs
  | '\n' :: cs => dropFold cs
  | '\r' :: '\n' :: cs => dropFold cs
  | cs => cs

/-- The rest behind a backslash at the end of a line: blanks and line ends up to other text. -/
def folded? (cs : List Char) : Option (List Char) :=
  match cs.dropWhile isBlankChar with
  | '\n' :: rest => some (dropFold rest)
  | '\r' :: '\n' :: rest => some (dropFold rest)
  | _ => none

/-- The rest of a string of many lines that ends with three of the given quotes. Up to two more
of them may stand right before the end. Line ends stay as they are written. -/
def longString (quote : Char) (escapes : Bool) :
    (bound : Nat) → (reversed : List Char) → Reader String
  | 0, _ => fail
  | bound + 1, acc => fun cs =>
    match cs with
    | [] => none
    | '\r' :: '\n' :: rest => longString quote escapes bound ('\n' :: '\r' :: acc) rest
    | '\n' :: rest => longString quote escapes bound ('\n' :: acc) rest
    | c :: rest =>
      if c = quote then
        let run := (cs.takeWhile (· = quote)).length
        let inside := List.replicate (if run < 3 then run else run - 3) quote
        if run < 3 then longString quote escapes bound (inside ++ acc) (cs.drop run)
        else if run ≤ 5 then some (String.ofList (acc.reverse ++ inside), cs.drop run)
        else none
      else if escapes ∧ c = '\\' then
        match folded? rest with
        | some rest => longString quote escapes bound acc rest
        | none => do
          let (c, rest) ← escape? rest
          longString quote escapes bound (c :: acc) rest
      else if isPlain c then longString quote escapes bound (c :: acc) rest
      else none

/-- A string of any of the four kinds. -/
def string : Reader String := do
  let long (quote : Char) (escapes : Bool) : Reader String := do
    advance 3
    let _ ← lineEnd?
    longString quote escapes (← turns) []
  if ← ahead ['"', '"', '"'] then long '"' true
  else if ← ahead ['\'', '\'', '\''] then long '\'' false
  else if ← ahead ['"'] then
    advance 1
    basicString (← turns) []
  else
    expect ['\'']
    literalString

/-! ## Keys -/

def isBareKey (c : Char) : Bool := c.isAlphanum || c = '_' || c = '-'

/-- One part of a key. -/
def simpleKey : Reader String := do
  match ← peek? with
  | some '"' =>
    advance 1
    basicString (← turns) []
  | some '\'' =>
    advance 1
    literalString
  | _ =>
    let cs ← takeWhile isBareKey
    if cs.isEmpty then fail else return String.ofList cs

/-- How many parts a dotted key may have. -/
def keyLimit : Nat := 80

/-- The parts of a dotted key: those before the last, and the last. The first argument bounds
their number. -/
def dottedKey : (bound : Nat) → Reader (List String × String)
  | 0 => fail
  | bound + 1 => do
    skipBlanks
    let k ← simpleKey
    skipBlanks
    if ← ahead ['.'] then
      advance 1
      let (path, name) ← dottedKey bound
      return (k :: path, name)
    else return ([], k)

def key : Reader (List String × String) := dottedKey keyLimit

/-! ## Values -/

/-- Digits of a base with single underscores between them. -/
def grouped? (isDigit : Char → Bool) (cs : List Char) : Option (List Char) :=
  let rec go : (afterDigit : Bool) → List Char → Option (List Char)
    | afterDigit, [] => if afterDigit then some [] else none
    | afterDigit, c :: cs =>
      if isDigit c then (c :: ·) <$> go true cs
      else if c = '_' ∧ afterDigit then
        match cs with
        | d :: _ => if isDigit d then go false cs else none
        | [] => none
      else none
  go false cs

/-- A whole number of 64 bits. -/
def inRange? (n : Int) : Option Int :=
  if -0x8000000000000000 ≤ n ∧ n < 0x8000000000000000 then some n else none

/-- The value of digits of a base up to sixteen. -/
def valueIn (base : Nat) (ds : List Char) : Nat :=
  ds.foldl (fun n c => base * n + (Uuid.hexDigit? c).getD 0) 0

/-- A sign and the rest. -/
def signOf : List Char → Bool × List Char
  | '-' :: cs => (true, cs)
  | '+' :: cs => (false, cs)
  | cs => (false, cs)

/-- Decimal digits without needless zeros in front. -/
def wholeDigits? (cs : List Char) : Option (List Char) := do
  let ds ← grouped? Char.isDigit cs
  match ds with
  | '0' :: _ :: _ => none
  | _ => return ds

def integer? (cs : List Char) : Option Int := do
  let based (base : Nat) (isDigit : Char → Bool) (cs : List Char) : Option Int := do
    inRange? (valueIn base (← grouped? isDigit cs))
  match cs with
  | '0' :: 'x' :: cs => based 16 (fun c => (Uuid.hexDigit? c).isSome) cs
  | '0' :: 'o' :: cs => based 8 (fun c => '0' ≤ c && c ≤ '7') cs
  | '0' :: 'b' :: cs => based 2 (fun c => c = '0' || c = '1') cs
  | cs =>
    let (negative, cs) := signOf cs
    let n : Int := Decimal.valueOfDigits (← wholeDigits? cs)
    inRange? (if negative then -n else n)

/-- The exponent of a float: its power of ten. -/
def power? : List Char → Option Int
  | [] => some 0
  | _ :: cs => do
    let (negative, cs) := signOf cs
    let n : Int := Decimal.valueOfDigits (← grouped? Char.isDigit cs)
    return if negative then -n else n

/-- A float with a fraction, an exponent or both; it must not be beyond the range of floats. -/
def float? (cs : List Char) : Option Float := do
  let (negative, body) := signOf cs
  match body with
  | ['i', 'n', 'f'] => return if negative then -(1.0 / 0.0) else 1.0 / 0.0
  | ['n', 'a', 'n'] => return 0.0 / 0.0
  | _ =>
    let isMark (c : Char) : Bool := c = 'e' || c = 'E'
    let mantissa := body.takeWhile (!isMark ·)
    let power ← power? (body.dropWhile (!isMark ·))
    let whole ← wholeDigits? (mantissa.takeWhile (· ≠ '.'))
    let fraction ← match mantissa.dropWhile (· ≠ '.') with
      | [] => if body.any isMark then some [] else none
      | _ :: cs => grouped? Char.isDigit cs
    let x := (Decimal.Numeral.ofParts negative whole fraction power).toFloat
    if x.isInf then none else return x

/-- The value of a word without quotes and brackets. -/
def scalar? (cs : List Char) : Option Toml :=
  if cs = "true".toList then some (.bool true)
  else if cs = "false".toList then some (.bool false)
  else .int <$> integer? cs <|> .float <$> float? cs <|> .moment <$> moment? cs

def isScalarChar (c : Char) : Bool := c.isAlphanum || ['_', '+', '-', '.', ':'].contains c

/-- A word, or a date and a time with a blank between them. -/
def scalar : Reader Toml := do
  let cs ← takeWhile isScalarChar
  let rest ← get
  match date? cs, rest with
  | some (_, []), ' ' :: d :: _ =>
    if d.isDigit then
      advance 1
      let time ← takeWhile isScalarChar
      scalar? (cs ++ ' ' :: time)
    else scalar? cs
  | _, _ => scalar? cs

/-- How many arrays and inline tables may be open at once. -/
def nestingLimit : Nat := 80

/-- The items of an array up to its closing bracket. -/
def arrayItems (item : Reader Toml) : (bound : Nat) → Reader (List Toml)
  | 0 => fail
  | bound + 1 => do
    skipSpace
    if ← ahead [']'] then
      advance 1
      return []
    else
      let v ← item
      skipSpace
      if ← ahead [','] then
        advance 1
        return v :: (← arrayItems item bound)
      else
        expect [']']
        return [v]

/-- A dotted key with its value; `skip` passes over what may stand around the equals sign. -/
def entry (skip : Reader Unit) (item : Reader Toml) : Reader Statement := do
  let (path, name) ← key
  skip
  expect ['=']
  skip
  return .entry path name (← item)

/-- The entries of an inline table up to its closing brace. -/
def tableEntries (item : Reader Toml) : (bound : Nat) → Reader (List Statement)
  | 0 => fail
  | bound + 1 => do
    skipSpace
    if ← ahead ['\x7d'] then
      advance 1
      return []
    else
      let e ← entry skipSpace item
      skipSpace
      if ← ahead [','] then
        advance 1
        return e :: (← tableEntries item bound)
      else
        expect ['\x7d']
        return [e]

/-- A value. The argument says how many more arrays and inline tables may be opened. -/
def value : (room : Nat) → Reader Toml := fun room => do
  match ← peek? with
  | some '"' => .str <$> string
  | some '\'' => .str <$> string
  | some '[' =>
    match room with
    | 0 => fail
    | room + 1 =>
      advance 1
      return .arr (← arrayItems (value room) (← turns))
  | some '\x7b' =>
    match room with
    | 0 => fail
    | room + 1 =>
      advance 1
      let entries ← tableEntries (value room) (← turns)
      return .table (← ofStatements? entries)
  | _ => scalar

/-! ## Documents -/

/-- A statement, up to the end of its line. -/
def statement : Reader Statement := do
  let s ← if ← ahead ['[', '['] then
      advance 2
      let (path, name) ← key
      expect [']', ']']
      pure (.element path name)
    else if ← ahead ['['] then
      advance 1
      let (path, name) ← key
      expect [']']
      pure (.header path name)
    else entry skipBlanks (value nestingLimit)
  endOfLine
  return s

def statements : (bound : Nat) → Reader (List Statement)
  | 0 => fail
  | bound + 1 => do
    skipSpace
    if (← get).isEmpty then return []
    else
      let s ← statement
      return s :: (← statements bound)

/-- Reads a document, with or without a byte order mark. -/
def parse? (text : String) : Option (List (String × Toml)) := do
  let cs := match text.toList with
    | '\ufeff' :: cs => cs
    | cs => cs
  let (ss, _) ← (do statements (← turns) : Reader (List Statement)) cs
  ofStatements? ss

end PositionOverlay.Toml
