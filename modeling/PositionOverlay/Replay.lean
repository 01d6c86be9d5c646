import PositionOverlay.Session
import PositionOverlay.Text.Blank
import PositionOverlay.Text.Lines

/-!
# Replays

A replay takes the events of a file, one a line, into a session and keeps a snapshot after each.
Each line is judged alone; the first line that is at fault ends the replay.
-/
namespace PositionOverlay.Replay

/-- What is wrong with a line. -/
inductive Cause where
  /-- The bytes are not text. -/
  | notText
  | json (fault : Json.Fault)
  | emptyRange (yMin yMax : Float)
deriving Repr

/-- What a line means for the position of one symbol. -/
inductive Verdict where
  /-- A blank line or a comment. -/
  | skipped
  /-- A report on another symbol. -/
  | foreign (symbol : String)
  | faulty (cause : Cause)
  | event (event : Event)
deriving Repr

/-- Why a replay ended early. -/
inductive Failure where
  | line (number : Nat) (cause : Cause)
  | fault (fault : Fault)
  /-- There is a directory where the events should be. -/
  | unreadable
deriving Repr

/-- What is known of a cause, apart from where it is met. -/
def Cause.detail : Cause → Option String
  | notText => none
  | json (.mismatch m _) => some m.message
  | json _ => none
  | emptyRange yMin yMax =>
    let low := Decimal.Layout.plain.write yMin
    let high := Decimal.Layout.plain.write yMax
    some s!"empty view range [{low}, {high}]"

namespace Failure

def message : Failure → String
  | line _ .notText => "I/O error: stream did not contain valid UTF-8"
  | line n cause =>
    match cause.detail with
    | some detail => s!"Invalid event on line {n}: {detail}"
    | none => s!"Invalid event on line {n}"
  | fault f => f.message
  | unreadable => "I/O error: Is a directory (os error 21)"

/-- The message, without the detail of what has a place in the text. -/
def summary : Failure → String
  | line n (.json (.mismatch _ .reading)) => s!"Invalid event on line {n}"
  | f => f.message

end Failure

/-- Judges an event. -/
def Verdict.ofEvent (symbol : String) : Event → Verdict
  | .position u =>
    match u.symbol with
    | some other => if other = symbol then .event (.position u) else .foreign other
    | none => .event (.position u)
  | .view yMin yMax =>
    if yMax ≤ yMin then .faulty (.emptyRange yMin yMax) else .event (.view yMin yMax)
  | e => .event e

/-- Judges a line of text without blanks at its ends. -/
def Verdict.ofText (symbol : String) (line : List Char) : Verdict :=
  match line with
  | [] => .skipped
  | '#' :: _ => .skipped
  | _ =>
    match Event.parse (String.ofList line) with
    | .ok e => .ofEvent symbol e
    | .error f => .faulty (.json f)

/-- Judges a line. -/
def Verdict.ofLine (symbol : String) (bytes : List UInt8) : Verdict :=
  match String.fromUTF8? ⟨bytes.toArray⟩ with
  | some text => .ofText symbol (Text.trim text.toList)
  | none => .faulty .notText

/-- A replay in progress. -/
structure Progress where
  session : Session
  snapshots : Array Snapshot

namespace Progress

/-- Takes an event in and keeps a snapshot. -/
def advance (p : Progress) (e : Event) : Except Fault Progress := do
  let session ← p.session.apply e
  return { session, snapshots := p.snapshots.push session.tracker.snapshot }

/-- Takes the lines in, of which the first has the given number. -/
def run (symbol : String) : (number : Nat) → List (List UInt8) → Progress →
    Option Failure × Progress
  | _, [], p => (none, p)
  | n, line :: lines, p =>
    match Verdict.ofLine symbol line with
    | .skipped => run symbol (n + 1) lines p
    | .foreign other =>
      let session := p.session.note .warning s!"line {n}: skipping position for {other}"
      run symbol (n + 1) lines { p with session }
    | .faulty cause => (some (.line n cause), p)
    | .event e =>
      match p.advance e with
      | .ok p => run symbol (n + 1) lines p
      | .error f => (some (.fault f), p)

end Progress

/-- What a replay yields. -/
structure Outcome where
  journal : Journal
  result : Except Failure (List Snapshot)

/-- Replays the events of a file, if it can be read. -/
def run (settings : Settings) (symbol : String) (events : Option (List UInt8)) : Outcome :=
  match Session.start settings.view settings.overlay symbol with
  | .error f => ⟨#[], .error (.fault f)⟩
  | .ok session =>
    let session := session.note .info s!"Replaying events for {symbol}..."
    let (failure, p) := match events with
      | some bytes => Progress.run symbol 1 (Text.byteLines bytes) ⟨session, #[]⟩
      | none => (some .unreadable, ⟨session, #[]⟩)
    match failure with
    | some failure => ⟨p.session.chart.journal, .error failure⟩
    | none =>
      let n := p.snapshots.size
      let session := p.session.note .info s!"Replay finished: {n} snapshots"
      ⟨session.chart.journal, .ok p.snapshots.toList⟩

end PositionOverlay.Replay
