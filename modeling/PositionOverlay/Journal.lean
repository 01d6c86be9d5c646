/-!
# The journal

What happens to an overlay is noted in sentences of five degrees of severity, each by one of a few
sources.
-/
namespace PositionOverlay

/-- The most severe degree comes first. -/
inductive Severity where
  | error
  | warning
  | info
  | debug
  | trace
deriving Repr, DecidableEq, Inhabited

namespace Severity

def rank : Severity → Nat
  | error => 1
  | warning => 2
  | info => 3
  | debug => 4
  | trace => 5

def tag : Severity → String
  | error => "ERROR"
  | warning => "WARN"
  | info => "INFO"
  | debug => "DEBUG"
  | trace => "TRACE"

/-- The degree that a configuration word names. -/
def ofWord? (word : String) : Option Severity :=
  [error, warning, info, debug, trace].find? fun s => s.tag == word.toUpper

end Severity

/-- What a sentence comes from. -/
inductive Source where
  | program
  | replay
  | tracker
  | marker
  | chart
deriving Repr, DecidableEq, Inhabited

/-- The name under which filters know a source. -/
def Source.name : Source → String
  | program => "pp_replay"
  | replay => "pp_overlay::runner"
  | tracker => "pp_overlay::overlay::tracker"
  | marker => "pp_overlay::overlay::marker"
  | chart => "pp_overlay::host::mock"

/-- One sentence of a journal. -/
structure Note where
  source : Source
  severity : Severity
  text : String
deriving Repr, Inhabited

/-- Notes in the order of events. -/
abbrev Journal := Array Note

namespace Note

def render (n : Note) : String := n.severity.tag ++ " " ++ n.text

end Note

/-- The notes that are at least as severe as the given degree. -/
def Journal.upTo (j : Journal) (least : Severity) : List Note :=
  j.toList.filter fun n => n.severity.rank ≤ least.rank

end PositionOverlay
