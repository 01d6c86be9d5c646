import PositionOverlay.Pattern.CharSet

/-!
# Patterns

Regular expressions over characters. A pattern leads from places of a text to places of the text;
places are counted from zero, and the last one is the length of the text. All places that can be
reached are followed at once, so no choice of a pattern has to be taken back.
-/
namespace PositionOverlay

/-- What a place of a text can be without anything being consumed. -/
inductive Place where
  | textStart
  | textEnd
  | lineStart
  | lineEnd
  /-- The start of a line, where a carriage return can also end one. -/
  | returnStart
  | returnEnd
  | wordEdge
  | noWordEdge
  | wordStart
  | wordEnd
  /-- There is no word before. -/
  | afterNoWord
  /-- There is no word behind. -/
  | beforeNoWord
deriving Repr, DecidableEq, Inhabited

namespace Place

/-- Whether the character before, and the one behind, is of a word. -/
def words (text : Array Char) (i : Nat) : Bool × Bool :=
  let isWord (c : Option Char) : Bool := c.any CharSet.word.contains
  (0 < i && isWord text[i - 1]?, isWord text[i]?)

/-- Whether a place of a text is of a kind. -/
def holds (text : Array Char) (i : Nat) : Place → Bool
  | textStart => i = 0
  | textEnd => text.size ≤ i
  | lineStart => i = 0 || text[i - 1]? = some '\n'
  | lineEnd => text.size ≤ i || text[i]? = some '\n'
  | returnStart =>
    i = 0 || text[i - 1]? = some '\n' || (text[i - 1]? = some '\r' && text[i]? ≠ some '\n')
  | returnEnd =>
    text.size ≤ i || text[i]? = some '\r'
      || (text[i]? = some '\n' && (i = 0 || text[i - 1]? ≠ some '\r'))
  | wordEdge => (words text i).1 != (words text i).2
  | noWordEdge => (words text i).1 == (words text i).2
  | wordStart => !(words text i).1 && (words text i).2
  | wordEnd => (words text i).1 && !(words text i).2
  | afterNoWord => !(words text i).1
  | beforeNoWord => !(words text i).2

end Place

/-- A regular expression. -/
inductive Pattern where
  /-- Nothing at all, which is everywhere. -/
  | empty
  /-- One character of a set. -/
  | one (set : CharSet)
  | place (kind : Place)
  | seq (p q : Pattern)
  | choice (p q : Pattern)
  /-- As many of a pattern in a row as the bounds say. -/
  | times (p : Pattern) (least : Nat) (most : Option Nat)
deriving Repr, DecidableEq, Inhabited

namespace Pattern

/-- The places after exactly so many steps. -/
def exactly (step : List Nat → List Nat) : Nat → List Nat → List Nat
  | 0, places => places
  | n + 1, places => exactly step n (step places)

/-- The places after at most so many steps; only what was reached last is followed further. -/
def upTo (step : List Nat → List Nat) : Nat → (last reached : List Nat) → List Nat
  | 0, _, reached => reached
  | n + 1, last, reached =>
    let next := (step last).filter fun i => !reached.contains i
    upTo step n next (reached ++ next)

/-- The places that a pattern leads to from some places. Rounds of a repetition that consume nothing
can be left out or added, so there are never more to follow than there are places. -/
def follow (text : Array Char) : Pattern → List Nat → List Nat
  | empty, places => places
  | one set, places => places.filterMap fun i =>
    if (text[i]?).any set.contains then some (i + 1) else none
  | place kind, places => places.filter fun i => kind.holds text i
  | seq p q, places => q.follow text (p.follow text places)
  | choice p q, places => (p.follow text places ++ q.follow text places).eraseDups
  | times p least most, places =>
    let rounds := text.size + 1
    let base := exactly (p.follow text) (min least rounds) places
    match most with
    | some most => upTo (p.follow text) (min (most - least) rounds) base base
    | none => upTo (p.follow text) rounds base base

/-- Whether a pattern fits somewhere in a text. -/
def occursIn (p : Pattern) (text : String) : Bool :=
  let cs := text.toList.toArray
  !(p.follow cs (List.range (cs.size + 1))).isEmpty

end Pattern

end PositionOverlay
