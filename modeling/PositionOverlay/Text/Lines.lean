/-!
# Lines

A line ends at a line feed, and one carriage return right before it belongs to the line end.
What follows the last line feed is a line only if it is not empty. The same rule serves text
and bytes.
-/
namespace PositionOverlay.Text

variable {α : Type} [DecidableEq α]

/-- A line kept in reverse, without the carriage return before its end. -/
def dropReturn (cr : α) : List α → List α
  | c :: cs => if c = cr then cs else c :: cs
  | [] => []

/-- Splits the rest of a text whose current line has the given reversed beginning. -/
def linesFrom (lf cr : α) : (reversed : List α) → List α → List (List α)
  | [], [] => []
  | r :: rs, [] => [(r :: rs).reverse]
  | rs, c :: cs =>
    if c = lf then (dropReturn cr rs).reverse :: linesFrom lf cr [] cs
    else linesFrom lf cr (c :: rs) cs

def linesOf (lf cr : α) (cs : List α) : List (List α) := linesFrom lf cr [] cs

def lines (cs : List Char) : List (List Char) := linesOf '\n' '\r' cs

/-- The lines of a file of bytes. -/
def byteLines (bs : List UInt8) : List (List UInt8) := linesOf 10 13 bs

end PositionOverlay.Text
