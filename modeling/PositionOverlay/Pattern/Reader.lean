import PositionOverlay.Pattern
import PositionOverlay.Pattern.Fault
import PositionOverlay.Text.Alphanumeric
import PositionOverlay.Uuid

/-!
# Reading patterns

A text is read from left to right. What is badly written ends the reading. What is well written
but has no meaning is kept as an objection, and the first objection counts when all is read.

The classes and cases of all scripts are not known, so the short classes and letters of any case
have a meaning only where a flag restricts the pattern to ASCII.
-/
namespace PositionOverlay.Pattern

/-! ## Places in the text -/

/-- How a pattern is read from some place on. -/
structure Flags where
  /-- Letters stand for both cases. -/
  anyCase : Bool := false
  /-- Lines have starts and ends of their own. -/
  lines : Bool := false
  /-- The dot stands for line ends, too. -/
  dotAll : Bool := false
  /-- A carriage return belongs to a line end. -/
  returns : Bool := false
  unicode : Bool := true
  /-- Blanks and comments are left out. -/
  loose : Bool := false
deriving Repr, DecidableEq

/-- Where the reading of a text stands. -/
structure Cursor where
  size : Nat
  rest : List Char
  flags : Flags
  /-- The names of groups with the stretches where they stand. -/
  names : List (List Char × Span)
  objection : Option Fault
  /-- Whether the words of all scripts are asked for. -/
  wordsAsked : Bool

abbrev Reader := StateT Cursor (Except Fault)

namespace Reader

def rest : Reader (List Char) := return (← get).rest

def peek? : Reader (Option Char) := return (← rest).head?

def flags : Reader Flags := return (← get).flags

/-- The column of the next character. -/
def column : Reader Nat := return (← get).size - (← rest).length

/-- The stretch from a column to the next character. -/
def since (start : Nat) : Reader Span := return ⟨start, ← column⟩

/-- The stretch of nothing before the next character. -/
def here : Reader Span := do since (← column)

/-- The stretch of the next character. -/
def nextChar : Reader Span := return ⟨← column, (← column) + 1⟩

def fail {α : Type} (problem : Problem) (spans : List Span) : Reader α :=
  throw (.located problem spans)

/-- Keeps an objection, unless there is one already. -/
def object (problem : Problem) (span : Span) : Reader Unit :=
  modify fun c => { c with objection := c.objection.or (some (.located problem [span])) }

/-- Moves over one character, and says whether another follows. -/
def bump : Reader Bool := do
  modify fun c => { c with rest := c.rest.drop 1 }
  return !(← rest).isEmpty

/-- Moves over the given text, if it comes next. -/
def bumpIf (text : String) : Reader Bool := do
  if text.toList.isPrefixOf (← rest) then
    modify fun c => { c with rest := c.rest.drop text.length }
    return true
  else return false

/-- Moves over the first of some texts that comes next, if one does. -/
def bumpIfAny : List String → Reader Bool
  | [] => return false
  | text :: rest => do if ← bumpIf text then return true else bumpIfAny rest

/-- The text without the blanks and comments at its beginning. -/
def afterSpace : (comment : Bool) → List Char → List Char
  | _, [] => []
  | true, c :: cs => afterSpace (c ≠ '\n') cs
  | false, c :: cs =>
    if Text.isBlank c then afterSpace false cs
    else if c = '#' then afterSpace true cs
    else c :: cs

/-- Moves over blanks and comments where they are left out. -/
def skipSpace : Reader Unit := do
  if (← flags).loose then modify fun c => { c with rest := afterSpace false c.rest }

/-- Moves over one character and what is left out behind it, and says whether another follows. -/
def advance : Reader Bool := do
  let _ ← bump
  skipSpace
  return !(← rest).isEmpty

/-- The next character but one, apart from what is left out. -/
def secondInSpace? : Reader (Option Char) := do
  let behind := (← rest).drop 1
  return (if (← flags).loose then afterSpace false behind else behind).head?

/-- Collects characters of a kind and moves over what is left out between them. -/
def collect (p : Char → Bool) : (bound : Nat) → Reader (List Char)
  | 0 => return []
  | bound + 1 => do
    match ← peek? with
    | some c =>
      if p c then
        let _ ← advance
        return c :: (← collect p bound)
      else return []
    | none => return []

def turns : Reader Nat := return (← rest).length + 1

end Reader

open Reader

/-! ## Escapes -/

/-- What an escape stands for. -/
inductive Escape where
  | char (c : Char)
  | set (s : CharSet)
  | place (kind : Place)

def isHexDigit (c : Char) : Bool := (Uuid.hexNumber? [c]).isSome

/-- The character of some hexadecimal digits, which stand in a stretch. -/
def charOfHex (digits : List Char) (span : Span) : Reader Char := do
  match Uuid.hexNumber? digits with
  | some n =>
    if n < 0xD800 ∨ (0xDFFF < n ∧ n < 0x110000) then return Char.ofNat n
    else fail .hexNoChar [span]
  | none => fail .hexNoChar [span]

/-- A fixed number of hexadecimal digits. -/
def hexDigits : (count : Nat) → Reader (List Char)
  | 0 => return []
  | count + 1 => do
    match ← peek? with
    | none => fail .escapeEnd [← here]
    | some c =>
      if isHexDigit c then
        let _ ← advance
        return c :: (← hexDigits count)
      else fail .hexDigit [← nextChar]

/-- Hexadecimal digits in braces. -/
def bracedHex : Reader Char := do
  let start ← column
  let _ ← advance
  let digits ← collect isHexDigit (← turns)
  match ← peek? with
  | none => fail .escapeEnd [← since start]
  | some c =>
    if c ≠ '\x7d' then fail .hexDigit [← nextChar]
    else
      let span : Span := ⟨start + 1, ← column⟩
      let _ ← advance
      if digits.isEmpty then fail .hexEmpty [← since start]
      charOfHex digits span

/-- The character of an escape by number, behind its letter. -/
def numberEscape (start count : Nat) : Reader Char := do
  if (← peek?).isNone then fail .escapeEnd [← here]
  if (← peek?) = some '\x7b' then bracedHex
  else
    let first ← column
    let digits ← hexDigits count
    let c ← charOfHex digits (← since first)
    if count = 2 ∧ 0x7f < c.toNat ∧ !(← flags).unicode then object .notText (← since start)
    return c

/-- A class by property, behind its letter; no property is known. -/
def propertyEscape (start : Nat) : Reader Escape := do
  match ← peek? with
  | none => fail .escapeEnd [← here]
  | some '\x7b' =>
    let _ ← advance
    let _ ← collect (· ≠ '\x7d') (← turns)
    if (← peek?).isNone then fail .escapeEnd [← here]
    let _ ← bump
  | some c =>
    if c = '\\' then fail .propertyEscape [← nextChar]
    let _ ← advance
  object (if (← flags).unicode then .noProperty else .notUnicode) (← since start)
  return .set .none

/-- A class by a letter; the capital ones stand for what is not in the class. -/
def shortClass (start : Nat) (s : CharSet) (negated : Bool) : Reader Escape := do
  let span ← since start
  if (← flags).unicode then object .noUnicodeClass span
  else if negated then object .notText span
  return .set (.negateIf negated s)

/-- An edge of a word. -/
def edge (kind : Place) : Reader Escape := do
  if (← flags).unicode then modify fun c => { c with wordsAsked := true }
  return .place kind

/-- The edges of words with names. -/
def namedEdges : List (String × Place) :=
  [("start", .wordStart), ("end", .wordEnd), ("start-half", .afterNoWord),
    ("end-half", .beforeNoWord)]

/-- An edge of a word, which may have a name in braces. -/
def namedEdge (start : Nat) : Reader Escape := do
  if (← peek?) ≠ some '\x7b' then edge .wordEdge
  else
    let before ← get
    let brace ← column
    if !(← advance) then fail .edgeEnd [← since start]
    let first ← column
    let name ← collect (fun c => c.isAlpha || c = '-') (← turns)
    if name.isEmpty then
      set before
      edge .wordEdge
    else if (← peek?) ≠ some '\x7d' then fail .edgeUnclosed [← since brace]
    else
      let span ← since first
      let _ ← bump
      match namedEdges.lookup (String.ofList name) with
      | some kind => edge kind
      | none => fail .edgeUnknown [span]

/-- The characters with a meaning of their own somewhere in a pattern. -/
def metaChars : List Char := "\\.+*?()|[]\x7b\x7d^$#&-~".toList

/-- Whether a backslash makes a character stand for itself. -/
def isEscapable (c : Char) : Bool :=
  metaChars.contains c || (c.toNat < 128 && !c.isAlphanum && c ≠ '<' && c ≠ '>')

/-- The characters that letters stand for. -/
def letterEscapes : List (Char × Char) :=
  [('a', '\x07'), ('f', '\x0c'), ('t', '\t'), ('n', '\n'), ('r', '\r'), ('v', '\x0b')]

/-- Reads an escape from its backslash on. -/
def escape : Reader Escape := do
  let start ← column
  if !(← bump) then fail .escapeEnd [← since start]
  let c := (← peek?).getD '\\'
  if c.isDigit then fail .backreference [⟨start, (← column) + 1⟩]
  let wide := c = 'x' ∨ c = 'u' ∨ c = 'U' ∨ c = 'p' ∨ c = 'P'
  let _ ← if wide then advance else bump
  match c with
  | 'x' => .char <$> numberEscape start 2
  | 'u' => .char <$> numberEscape start 4
  | 'U' => .char <$> numberEscape start 8
  | 'p' | 'P' => propertyEscape start
  | 'd' => shortClass start .digit false
  | 'D' => shortClass start .digit true
  | 's' => shortClass start .space false
  | 'S' => shortClass start .space true
  | 'w' => shortClass start .word false
  | 'W' => shortClass start .word true
  | 'A' => return .place .textStart
  | 'z' => return .place .textEnd
  | 'b' => namedEdge start
  | 'B' => edge .noWordEdge
  | '<' => edge .wordStart
  | '>' => edge .wordEnd
  | _ =>
    if isEscapable c then return .char c
    match letterEscapes.lookup c with
    | some d => return .char d
    | none => fail .escapeUnknown [← since start]

/-! ## Classes -/

inductive SetOperation where
  | intersection
  | difference
  | exclusive

def SetOperation.apply : SetOperation → CharSet → CharSet → CharSet
  | intersection => .intersection
  | difference => .difference
  | exclusive => .exclusive

/-- How a class begins. -/
structure Opening where
  span : Span
  negated : Bool

/-- Moves over dashes at the beginning of a class, and says whether there are any. -/
def openingDashes (start : Nat) : (bound : Nat) → Reader Bool
  | 0 => return false
  | bound + 1 => do
    if (← peek?) = some '-' then
      if !(← advance) then fail .classUnclosed [⟨start, start⟩]
      let _ ← openingDashes start bound
      return true
    else return false

/-- Reads the beginning of a class and the characters that stand for themselves there. -/
def opening : Reader (Opening × CharSet) := do
  let start ← column
  if !(← advance) then fail .classUnclosed [← since start]
  let negated := (← peek?) = some '^'
  if negated then
    if !(← advance) then fail .classUnclosed [← since start]
  if ← openingDashes start (← turns) then return (⟨← since start, negated⟩, .single '-')
  else if (← peek?) = some ']' then
    if !(← advance) then fail .classUnclosed [← since start]
    return (⟨← since start, negated⟩, .single ']')
  else return (⟨← since start, negated⟩, .none)

/-- The set of a name in brackets and colons, if there is one next. -/
def namedSet? : Reader (Option CharSet) := do
  match ← rest with
  | '[' :: ':' :: cs =>
    let (negated, cs) := match cs with
      | '^' :: cs => (true, cs)
      | cs => (false, cs)
    let name := cs.takeWhile (· ≠ ':')
    match cs.drop name.length, CharSet.named.lookup (String.ofList name) with
    | ':' :: ']' :: behind, some s =>
      modify fun c => { c with rest := behind }
      return some (.negateIf negated s)
    | _, _ => return none
  | _ => return none

/-- Reads what stands for one or more characters of a class. -/
def classItem : Reader Escape := do
  if (← peek?) = some '\\' then escape
  else
    let c := (← peek?).getD ' '
    let _ ← bump
    return .char c

/-- Objects to a character of a class that is not ASCII where it should be. -/
def checkMember (c : Char) (span : Span) : Reader Unit := do
  if !(← flags).unicode ∧ 0x7f < c.toNat then object .notUnicode span

/-- One end of a range. -/
def boundary (e : Escape) (span : Span) : Reader Char :=
  match e with
  | .char c => return c
  | _ => fail .rangeBoundary [span]

/-- Reads an element of a class: a range, a character or a set. -/
def classElement (o : Opening) : Reader CharSet := do
  let start ← column
  let first ← classItem
  let firstSpan ← since start
  skipSpace
  let behind ← secondInSpace?
  if (← rest).isEmpty then fail .classUnclosed [o.span]
  if (← peek?) ≠ some '-' ∨ behind = some ']' ∨ behind = some '-' then
    match first with
    | .char c =>
      checkMember c firstSpan
      return .single c
    | .set s => return s
    | .place _ => fail .classEscape [firstSpan]
  else
    if !(← advance) then fail .classUnclosed [o.span]
    let middle ← column
    let last ← classItem
    let lastSpan ← since middle
    let low ← boundary first firstSpan
    let high ← boundary last lastSpan
    if high < low then fail .rangeDecreasing [⟨start, lastSpan.stop⟩]
    checkMember low firstSpan
    checkMember high lastSpan
    return .range low high

/-- The set of an operand, with all cases where they do not matter. -/
def operand (s : CharSet) : Reader CharSet := return if (← flags).anyCase then .anyCase s else s

/-- Reads the rest of a class. An operation waits for its right side, and `items` is what has been
read of the present side. -/
def classRest (o : Opening) : (bound : Nat) → (waiting : Option (SetOperation × CharSet)) →
    (items : CharSet) → Reader CharSet
  | 0, _, _ => fail .classUnclosed [o.span]
  | bound + 1, waiting, items => do
    skipSpace
    let side : Reader CharSet :=
      match waiting with
      | some (operation, left) => return operation.apply (← operand left) (← operand items)
      | none => return items
    match ← rest with
    | [] => fail .classUnclosed [o.span]
    | ']' :: _ =>
      let _ ← bump
      let set := CharSet.negateIf o.negated (← operand (← side))
      let span ← since o.span.start
      let flags ← flags
      if flags.unicode then
        if flags.anyCase then object .noUnicodeCase span
      else if set.leavesAscii then object .notText span
      return set
    | '[' :: _ =>
      match ← namedSet? with
      | some s => classRest o bound waiting (.union items s)
      | none =>
        let (inner, items') ← opening
        let s ← classRest inner bound none items'
        classRest o bound waiting (.union items s)
    | '&' :: '&' :: _ => operate .intersection bound (← side)
    | '-' :: '-' :: _ => operate .difference bound (← side)
    | '~' :: '~' :: _ => operate .exclusive bound (← side)
    | _ => classRest o bound waiting (.union items (← classElement o))
where
  operate (operation : SetOperation) (bound : Nat) (left : CharSet) : Reader CharSet := do
    let _ ← bump
    let _ ← bump
    classRest o bound (some (operation, left)) .none

/-! ## Groups -/

/-- The letters of flags. -/
def flagLetters : List Char := "imsUuRx".toList

/-- Switches what a letter stands for. Whether repetitions are greedy makes no difference. -/
def Flags.switch (f : Flags) (letter : Char) (on : Bool) : Flags :=
  match letter with
  | 'i' => { f with anyCase := on }
  | 'm' => { f with lines := on }
  | 's' => { f with dotAll := on }
  | 'R' => { f with returns := on }
  | 'u' => { f with unicode := on }
  | 'x' => { f with loose := on }
  | _ => f

/-- Switches flags on, and behind a dash off. -/
def Flags.switchAll (on : Bool) (f : Flags) : List Char → Flags
  | [] => f
  | '-' :: cs => f.switchAll false cs
  | c :: cs => (f.switch c on).switchAll on cs

/-- Reads flags up to what ends them; those read so far stand in reverse with their stretches. -/
def flagSettings : (bound : Nat) → (reversed : List (Char × Span)) → Reader (List Char)
  | 0, _ => fail .flagEnd [⟨0, 0⟩]
  | bound + 1, seen => do
    let c := (← peek?).getD ')'
    let span ← nextChar
    if c = ':' ∨ c = ')' then
      match seen with
      | ('-', dash) :: _ => fail .negationDangling [dash]
      | _ => return (seen.map Prod.fst).reverse
    else
      if c ≠ '-' ∧ !flagLetters.contains c then fail .flagUnknown [span]
      if let some before := seen.lookup c then
        fail (if c = '-' then .negationTwice else .flagTwice) [before, span]
      if !(← bump) then fail .flagEnd [← here]
      flagSettings bound ((c, span) :: seen)

/-- Whether a character can stand in the name of a group. -/
def isNameChar (first : Bool) (c : Char) : Bool :=
  c = '_' || (Text.isAlphanumeric c && !(first && c.isDigit))
    || (!first && (c = '.' || c = '[' || c = ']'))

/-- Collects the characters of the name of a group. -/
def nameChars (first : Bool) : (bound : Nat) → Reader (List Char)
  | 0 => return []
  | bound + 1 => do
    match ← peek? with
    | none => fail .groupNameEnd [← here]
    | some '>' => return []
    | some c =>
      if !isNameChar first c then fail .groupNameChar [← nextChar]
      let _ ← bump
      return c :: (← nameChars false bound)

/-- Reads the name of a group, which no other group may have. -/
def groupName : Reader Unit := do
  let start ← column
  let name ← nameChars true (← turns)
  let span ← since start
  let _ ← bump
  if name.isEmpty then fail .groupNameEmpty [span]
  if let some before := (← get).names.lookup name then fail .groupNameTwice [before, span]
  modify fun c => { c with names := (name, span) :: c.names }

/-- Reads the beginning of a group. For one that only switches flags, nothing follows. -/
def groupOpening : Reader (Option Span) := do
  let span ← nextChar
  let _ ← bump
  skipSpace
  if ← bumpIfAny ["?=", "?!", "?<=", "?<!"] then fail .lookAround [← since span.start]
  let inner ← here
  if ← bumpIfAny ["?P<", "?<"] then
    groupName
    return some span
  else if ← bumpIf "?" then
    if (← rest).isEmpty then fail .groupUnclosed [span]
    let letters ← flagSettings (← turns) []
    let alone := (← peek?) = some ')'
    let _ ← bump
    if alone ∧ letters.isEmpty then fail .repetitionMissing [inner]
    modify fun c => { c with flags := c.flags.switchAll true letters }
    return if alone then none else some span
  else return some span

/-! ## Repetitions -/

/-- Reads a decimal number. A fault is handed out, as there may be a worse one. -/
def decimal : Reader (Except Fault Nat) := do
  modify fun c => { c with rest := c.rest.dropWhile Text.isBlank }
  let start ← column
  let digits ← collect Char.isDigit (← turns)
  let span ← since start
  let _ ← collect Text.isBlank (← turns)
  let n := digits.foldl (fun n c => 10 * n + (c.toNat - '0'.toNat)) 0
  if digits.isEmpty then return .error (.located .countEmpty [span])
  else if 0x100000000 ≤ n then return .error (.located .decimalTooLarge [span])
  else return .ok n

/-- Moves over the sign of a repetition that prefers few rounds. -/
def skipLazy : Reader Unit := do let _ ← bumpIf "?"

/-- Reads the bounds of a repetition in braces. -/
def bounds : Reader (Nat × Option Nat) := do
  let start ← column
  if !(← advance) then fail .countUnclosed [← since start]
  let least ← decimal
  if (← rest).isEmpty then fail .countUnclosed [← since start]
  let (least, most) ←
    if (← peek?) = some ',' then
      if !(← advance) then fail .countUnclosed [← since start]
      if (← peek?) = some '\x7d' then
        pure (← least, none)
      else
        let least ← least
        let most ← decimal
        pure (least, some (← most))
    else
      let n ← least
      pure (n, some n)
  if (← peek?) ≠ some '\x7d' then fail .countUnclosed [← since start]
  let _ ← advance
  skipLazy
  if most.any (· < least) then fail .countDecreasing [← since start]
  return (least, most)

/-- The characters with which the sign of a repetition begins. -/
def repetitionSigns : List Char := ['?', '*', '+', '\x7b']

/-- Reads the sign of a repetition, which begins with the given character, and tells its bounds. -/
def repetition (sign : Char) : Reader (Nat × Option Nat) := do
  if sign = '\x7b' then bounds
  else
    let _ ← bump
    skipLazy
    return (if sign = '+' then 1 else 0, if sign = '?' then some 1 else none)

/-! ## Patterns -/

/-- The pattern of a character, which stands in a stretch. -/
def literal (c : Char) (span : Span) : Reader Pattern := do
  let flags ← flags
  if flags.anyCase then
    if flags.unicode then object .noUnicodeCase span
    return .one (.anyCase (.single c))
  else return .one (.single c)

/-- The pattern of a dot. -/
def dot : Reader Pattern := do
  let flags ← flags
  if !flags.unicode then object .notText (← nextChar)
  let _ ← bump
  let ends : CharSet :=
    if flags.dotAll then .none
    else if flags.returns then .union (.single '\r') (.single '\n')
    else .single '\n'
  return .one (.complement ends)

/-- The pattern of a place, which depends on whether lines have starts and ends of their own. -/
def linePlace (whole line withReturns : Place) : Reader Pattern := do
  let flags ← flags
  let _ ← bump
  return .place (if !flags.lines then whole else if flags.returns then withReturns else line)

/-- Reads a pattern without parts. -/
def primitive : Reader Pattern := do
  let start ← column
  match ← peek? with
  | some '.' => dot
  | some '^' => linePlace .textStart .lineStart .returnStart
  | some '$' => linePlace .textEnd .lineEnd .returnEnd
  | some '[' =>
    let (o, items) ← opening
    return .one (← classRest o (← turns) none items)
  | some '\\' =>
    match ← escape with
    | .char c => literal c (← since start)
    | .set s => return .one s
    | .place kind => return .place kind
  | some c =>
    let _ ← bump
    literal c (← since start)
  | none => return .empty

/-- The pattern of a row of elements in reverse; switches of flags are left out. -/
def ofRow (reversed : List (Option Pattern)) : Pattern :=
  reversed.reverse.foldl (fun p q => match q with
    | some q => .seq p q
    | none => p) .empty

/-- Reads the rest of a pattern, which may be the inside of a group. There are the choices before
it and the elements before it, both in reverse. -/
def patternRest : (bound : Nat) → (group : Option Span) → (choices : List Pattern) →
    (row : List (Option Pattern)) → Reader Pattern
  | 0, _, _, _ => return .empty
  | bound + 1, group, choices, row => do
    skipSpace
    match ← rest with
    | [] =>
      match group with
      | some span => fail .groupUnclosed [span]
      | none => return choices.foldl (fun p q => .choice q p) (ofRow row)
    | ')' :: _ =>
      if group.isNone then fail .groupUnopened [← nextChar]
      let _ ← bump
      return choices.foldl (fun p q => .choice q p) (ofRow row)
    | '|' :: _ =>
      let _ ← bump
      patternRest bound group (ofRow row :: choices) []
    | '(' :: _ =>
      let outer ← flags
      match ← groupOpening with
      | none => patternRest bound group choices (none :: row)
      | some span =>
        let inner ← patternRest bound (some span) [] []
        modify fun c => { c with flags := outer }
        patternRest bound group choices (some inner :: row)
    | c :: _ =>
      if repetitionSigns.contains c then
        match row with
        | some p :: before =>
          let (least, most) ← repetition c
          patternRest bound group choices (some (.times p least most) :: before)
        | _ => fail .repetitionMissing [← here]
      else
        let p ← primitive
        patternRest bound group choices (some p :: row)

/-- Reads a text as a pattern. -/
def read (text : List Char) : Except Fault Pattern := do
  let (p, c) ← patternRest (text.length + 1) none [] [] ⟨text.length, text, {}, [], none, false⟩
  match c.objection with
  | some fault => throw fault
  | none => if c.wordsAsked then throw .unbuildable else return p

end PositionOverlay.Pattern
