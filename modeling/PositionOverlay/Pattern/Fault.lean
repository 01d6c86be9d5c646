/-!
# Faults of patterns

Why a text is no pattern. Most faults have a place in the text, which is shown under it.
-/
namespace PositionOverlay.Pattern

/-- A stretch of a text, from a column up to another. -/
structure Span where
  start : Nat
  stop : Nat
deriving Repr, DecidableEq, Inhabited

/-- What is wrong with a text. -/
inductive Problem where
  | groupUnclosed
  | groupUnopened
  | groupNameEmpty
  | groupNameChar
  | groupNameEnd
  | groupNameTwice
  | lookAround
  | flagUnknown
  | flagTwice
  | flagEnd
  | negationDangling
  | negationTwice
  | repetitionMissing
  | countUnclosed
  | countEmpty
  | countDecreasing
  | decimalTooLarge
  | classUnclosed
  | classEscape
  | rangeBoundary
  | rangeDecreasing
  | escapeEnd
  | escapeUnknown
  | hexEmpty
  | hexDigit
  | hexNoChar
  | backreference
  | propertyEscape
  | edgeUnclosed
  | edgeUnknown
  | edgeEnd
  | notUnicode
  | notText
  | noProperty
  | noUnicodeClass
  | noUnicodeCase
deriving Repr, DecidableEq, Inhabited

def Problem.message : Problem → String
  | groupUnclosed => "unclosed group"
  | groupUnopened => "unopened group"
  | groupNameEmpty => "empty capture group name"
  | groupNameChar => "invalid capture group character"
  | groupNameEnd => "unclosed capture group name"
  | groupNameTwice => "duplicate capture group name"
  | lookAround => "look-around, including look-ahead and look-behind, is not supported"
  | flagUnknown => "unrecognized flag"
  | flagTwice => "duplicate flag"
  | flagEnd => "expected flag but got end of regex"
  | negationDangling => "dangling flag negation operator"
  | negationTwice => "flag negation operator repeated"
  | repetitionMissing => "repetition operator missing expression"
  | countUnclosed => "unclosed counted repetition"
  | countEmpty => "repetition quantifier expects a valid decimal"
  | countDecreasing => "invalid repetition count range, the start must be <= the end"
  | decimalTooLarge => "decimal literal invalid"
  | classUnclosed => "unclosed character class"
  | classEscape => "invalid escape sequence found in character class"
  | rangeBoundary => "invalid range boundary, must be a literal"
  | rangeDecreasing => "invalid character class range, the start must be <= the end"
  | escapeEnd => "incomplete escape sequence, reached end of pattern prematurely"
  | escapeUnknown => "unrecognized escape sequence"
  | hexEmpty => "hexadecimal literal empty"
  | hexDigit => "invalid hexadecimal digit"
  | hexNoChar => "hexadecimal literal is not a Unicode scalar value"
  | backreference => "backreferences are not supported"
  | propertyEscape => "invalid Unicode character class"
  | edgeUnclosed =>
    "special word boundary assertion is either unclosed or contains an invalid character"
  | edgeUnknown => "unrecognized special word boundary assertion, " ++
    "valid choices are: start, end, start-half or end-half"
  | edgeEnd => "found either the beginning of a special word boundary or a bounded repetition " ++
    "on a \\b with an opening brace, but no closing brace"
  | notUnicode => "Unicode not allowed here"
  | notText => "pattern can match invalid UTF-8"
  | noProperty => "Unicode property not found"
  | noUnicodeClass =>
    "Unicode-aware Perl class not found (make sure the unicode-perl feature is enabled)"
  | noUnicodeCase => "Unicode-aware case insensitivity matching is not available " ++
    "(make sure the unicode-case feature is enabled)"

/-- Why a text is no pattern. -/
inductive Fault where
  /-- There is a problem at some stretches of the text, the leftmost first. -/
  | located (problem : Problem) (spans : List Span)
  /-- The pattern asks for the words of all scripts, which are not known. -/
  | unbuildable
deriving Repr, DecidableEq, Inhabited

namespace Fault

/-- The marks under the stretches, from a column on; each has at least one. -/
def marks : (column : Nat) → List Span → List Char
  | _, [] => []
  | column, span :: rest =>
    let width := max 1 (span.stop - span.start)
    List.replicate (span.start - column) ' ' ++ List.replicate width '^'
      ++ marks (max column span.start + width) rest

/-- What is told of a fault of a text. -/
def report (text : List Char) : Fault → String
  | located problem spans =>
    let text := String.ofList text
    let marks := String.ofList (marks 0 spans)
    let message := problem.message
    s!"regex parse error:\n    {text}\n    {marks}\nerror: {message}"
  | unbuildable => "error building NFA"

end Fault

end PositionOverlay.Pattern
