/-!
# Sets of characters

What one place of a pattern lets stand there. A set is kept as it is written, so that reading a
class and asking for membership are separate matters.
-/
namespace PositionOverlay

/-- A set of characters, as it is written. -/
inductive CharSet where
  | none
  /-- The characters from `low` to `high`, both included. -/
  | range (low high : Char)
  | union (s t : CharSet)
  | intersection (s t : CharSet)
  | difference (s t : CharSet)
  /-- The characters of exactly one of two sets. -/
  | exclusive (s t : CharSet)
  | complement (s : CharSet)
  /-- The characters of a set and the other cases of its ASCII letters. -/
  | anyCase (s : CharSet)
deriving Repr, DecidableEq, Inhabited

namespace CharSet

def contains : CharSet → Char → Bool
  | none, _ => false
  | range low high, c => low ≤ c && c ≤ high
  | union s t, c => s.contains c || t.contains c
  | intersection s t, c => s.contains c && t.contains c
  | difference s t, c => s.contains c && !t.contains c
  | exclusive s t, c => s.contains c != t.contains c
  | complement s, c => !s.contains c
  | anyCase s, c => s.contains c || s.contains c.toLower || s.contains c.toUpper

def single (c : Char) : CharSet := range c c

/-- The complement of a set if one is asked for. -/
def negateIf (negated : Bool) (s : CharSet) : CharSet := if negated then complement s else s

/-- The union of some ranges. -/
def ofRanges (ranges : List (Char × Char)) : CharSet :=
  ranges.foldr (fun r s => union (range r.1 r.2) s) none

/-- Whether a set has one of the characters of Latin-1 that are not ASCII. What is built from ASCII
has all of them or none. -/
def leavesAscii (s : CharSet) : Bool :=
  (List.range 128).any fun n => s.contains (Char.ofNat (128 + n))

/-! ## Sets with names -/

def digit : CharSet := range '0' '9'

def lower : CharSet := range 'a' 'z'

def upper : CharSet := range 'A' 'Z'

def letter : CharSet := union lower upper

def alphanumeric : CharSet := union letter digit

/-- The characters of words. -/
def word : CharSet := union alphanumeric (single '_')

/-- The blanks of ASCII, with line ends. -/
def space : CharSet := union (single ' ') (range '\t' '\r')

/-- The sets that a class knows by name. -/
def named : List (String × CharSet) :=
  [("alnum", alphanumeric), ("alpha", letter), ("ascii", range '\x00' '\x7f'),
    ("blank", union (single '\t') (single ' ')),
    ("cntrl", union (range '\x00' '\x1f') (single '\x7f')), ("digit", digit),
    ("graph", range '!' '~'), ("lower", lower), ("print", range ' ' '~'),
    ("punct", ofRanges [('!', '/'), (':', '@'), ('[', '\x60'), ('\x7b', '~')]), ("space", space),
    ("upper", upper), ("word", word),
    ("xdigit", ofRanges [('0', '9'), ('A', 'F'), ('a', 'f')])]

end CharSet

end PositionOverlay
