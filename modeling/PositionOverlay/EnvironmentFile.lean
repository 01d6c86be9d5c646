import PositionOverlay.Text.Alphanumeric
import PositionOverlay.Text.Blank
import PositionOverlay.Text.Quoted

/-!
# Environment files

A file of assignments `NAME=value`, one a line. Quotes group text, also over several lines; a
backslash guards one character; a dollar sign stands for the value of a name. Names that are set
already keep their values, and the first bad line ends the file, as does a line that is not text.
-/
namespace PositionOverlay.EnvironmentFile

/-- Names with values; of two entries of one name the first counts. -/
abbrev Environment := List (String × String)

/-! ## Lines -/

/-- What a line is in the middle of. -/
inductive Within where
  | nothing
  | blank
  | escape
  | strong
  | strongEscape
  | weak
  | weakEscape
deriving Repr, DecidableEq

/-- What a line is in the middle of behind a character; nothing when a comment begins. -/
def Within.next? (c : Char) : Within → Option Within
  | .blank => if c = '#' then none else some (opened c)
  | .nothing =>
    if Text.isBlank c ∧ c ≠ '\n' ∧ c ≠ '\r' then some .blank else some (opened c)
  | .escape => some .nothing
  | .strong => some (if c = '\\' then .strongEscape else if c = '\'' then .nothing else .strong)
  | .strongEscape => some .strong
  | .weak => some (if c = '\\' then .weakEscape else if c = '"' then .nothing else .weak)
  | .weakEscape => some .weak
where
  opened (c : Char) : Within :=
    if c = '\\' then .escape else if c = '"' then .weak else if c = '\'' then .strong else .nothing

/-- The text without its line end. -/
def withoutEnd (cs : List Char) : List Char :=
  match cs.reverse with
  | '\n' :: '\r' :: rest => rest.reverse
  | '\n' :: rest => rest.reverse
  | _ => cs

/-- Whether a text is a comment from its beginning. -/
def isComment (cs : List Char) : Bool := (Text.trimStart cs).head? == some '#'

/-- Cuts a text into lines; what is quoted stays together and comments are dropped. The last
element is `none` if the text ends within something. -/
def lines : (reversed : List Char) → Within → (skipping : Bool) → List Char →
    List (Option (List Char))
  | [], .nothing, _, [] => []
  | acc, w, skipping, [] =>
    if skipping then []
    else if w = .nothing ∨ isComment acc.reverse then [some acc.reverse]
    else [none]
  | acc, w, skipping, c :: cs =>
    if skipping then
      if c = '\n' then lines [] .nothing false cs else lines acc w true cs
    else
      match w.next? c with
      | none => some acc.reverse :: lines [] .nothing true cs
      | some w =>
        if c = '\n' then
          if isComment acc.reverse then some [] :: lines [] .nothing false cs
          else if w = .nothing then
            some (withoutEnd (c :: acc).reverse) :: lines [] .nothing false cs
          else lines (c :: acc) w false cs
        else lines (c :: acc) w false cs

/-! ## Values -/

/-- The value of a name: from the environment, else from an earlier line, else empty. -/
def valueOf (env earlier : Environment) (name : List Char) : List Char :=
  let name := String.ofList name
  (((env.lookup name).or (earlier.lookup name)).getD "").toList

/-- Where the reading of a value stands. `weak` says that double quotes are open. -/
inductive ValueState where
  | plain (weak : Bool)
  | escaped (weak : Bool)
  | strong
  | name (weak : Bool) (reversed : List Char)
  | braced (weak : Bool) (reversed : List Char)
  | ended

/-- Reads a value; the characters so far are reversed. -/
def readValue (value : List Char → List Char) :
    ValueState → (reversed : List Char) → List Char → Option (List Char)
  | .plain false, acc, [] => some acc.reverse
  | .escaped false, acc, [] => some acc.reverse
  | .ended, acc, [] => some acc.reverse
  | .name false n, acc, [] => some (acc.reverse ++ value n.reverse)
  | _, _, [] => none
  | .ended, acc, c :: cs =>
    if c = ' ' ∨ c = '\t' then readValue value .ended acc cs
    else if c = '#' then some acc.reverse
    else none
  | .escaped weak, acc, c :: cs =>
    if c = '\\' ∨ c = '\'' ∨ c = '"' ∨ c = '$' ∨ c = ' ' then
      readValue value (.plain weak) (c :: acc) cs
    else if c = 'n' then readValue value (.plain weak) ('\n' :: acc) cs
    else none
  | .strong, acc, c :: cs =>
    if c = '\'' then readValue value (.plain false) acc cs
    else readValue value .strong (c :: acc) cs
  | .name weak n, acc, c :: cs =>
    if Text.isAlphanumeric c then readValue value (.name weak (c :: n)) acc cs
    else if c = '\x7b' ∧ n.isEmpty then readValue value (.braced weak []) acc cs
    else
      let acc := (value n.reverse).reverse ++ acc
      if c = '$' then readValue value (.name weak []) acc cs
      else readValue value (.plain weak) (c :: acc) cs
  | .braced weak n, acc, c :: cs =>
    if c = '\x7d' then readValue value (.plain weak) ((value n.reverse).reverse ++ acc) cs
    else readValue value (.braced weak (c :: n)) acc cs
  | .plain weak, acc, c :: cs =>
    if c = '$' then readValue value (.name weak []) acc cs
    else if c = '\\' then readValue value (.escaped weak) acc cs
    else if c = '"' then readValue value (.plain !weak) acc cs
    else if weak then readValue value (.plain weak) (c :: acc) cs
    else if c = '\'' then readValue value .strong acc cs
    else if c = ' ' ∨ c = '\t' then readValue value .ended acc cs
    else readValue value (.plain weak) (c :: acc) cs

/-! ## Assignments -/

def isNameChar (c : Char) : Bool := c.isAlphanum || c = '_' || c = '.'

/-- A name and the rest. -/
def readName? (cs : List Char) : Option (List Char × List Char) :=
  match cs with
  | c :: _ =>
    if c.isAlpha ∨ c = '_' then some (cs.takeWhile isNameChar, cs.dropWhile isNameChar) else none
  | [] => none

/-- The rest behind an equals sign. -/
def afterEquals? : List Char → Option (List Char)
  | '=' :: cs => some cs
  | _ => none

/-- A name and the text behind its equals sign. The word `export` may stand before the name. -/
def readLeft? (cs : List Char) : Option (List Char × List Char) := do
  let (name, cs) ← readName? cs
  let cs := Text.trimStart cs
  match afterEquals? cs with
  | some cs => return (name, cs)
  | none =>
    if name = "export".toList then
      let (name, cs) ← readName? cs
      return (name, ← afterEquals? (Text.trimStart cs))
    else none

/-- The assignment of a line; the outer option is empty for a bad line. -/
def readLine? (env earlier : Environment) (line : List Char) : Option (Option (String × String)) :=
  let cs := Text.trim line
  if cs.isEmpty ∨ cs.head? = some '#' then some none
  else do
    let (name, cs) ← readLeft? cs
    let cs := Text.trimStart cs
    let value ←
      if cs.isEmpty ∨ cs.head? = some '#' then some []
      else readValue (valueOf env earlier) (.plain false) [] cs
    return some (String.ofList name, String.ofList value)

/-- An assignment that cannot be made: a value in an environment has no zero characters. -/
structure Refusal where
  name : String
  value : String
deriving Repr, DecidableEq

def Refusal.message (r : Refusal) : String :=
  let name := Text.quoted r.name
  let value := Text.quoted r.value
  s!"failed to set environment variable `{name}` to `{value}`: " ++
    "file name contained an unexpected NUL byte"

/-- The environment with a value for a name that has none. -/
def assign (env : Environment) (name value : String) : Except Refusal Environment :=
  if (env.lookup name).isSome then .ok env
  else if value.toList.contains '\x00' then .error ⟨name, value⟩
  else .ok (env ++ [(name, value)])

/-- Takes lines in until one is bad. -/
def loadLines (env earlier : Environment) :
    List (Option (List Char)) → Except Refusal Environment
  | [] => .ok env
  | none :: _ => .ok env
  | some line :: rest =>
    match readLine? env earlier line with
    | none => .ok env
    | some none => loadLines env earlier rest
    | some (some (name, value)) => do
      loadLines (← assign env name value) ((name, value) :: earlier) rest

/-! ## Files -/

/-- The text of the lines of a file before the first whose bytes are not text. -/
def readable : List (List UInt8) → List Char
  | [] => []
  | line :: rest =>
    match String.fromUTF8? ⟨line.toArray⟩ with
    | some text => text.toList ++ if rest.isEmpty then [] else '\n' :: readable rest
    | none => []

/-- The environment with the assignments of a file. -/
def load (env : Environment) (bytes : List UInt8) : Except Refusal Environment :=
  let cs := match readable (bytes.splitOn 10) with
    | '\ufeff' :: cs => cs
    | cs => cs
  loadLines env [] (lines [] .nothing false cs)

end PositionOverlay.EnvironmentFile
