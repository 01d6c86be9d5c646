import PositionOverlay.Journal
import PositionOverlay.Pattern.Reader
import PositionOverlay.Text.Blank

/-!
# Journal filters

A filter says which notes are printed. It is a list of directives: a word for a severity, the
beginning of the name of a source, or both with an equals sign. The directive with the longest
fitting beginning decides. Behind a slash there may be a pattern that must occur in a note.
-/
namespace PositionOverlay.Journal

/-- Notes of sources whose names begin with `name` are printed up to a rank; without a name, those
of all sources. -/
structure Directive where
  name : Option (List Char)
  most : Nat
deriving Repr, DecidableEq

/-- What is printed of a journal. -/
structure Filter where
  /-- Those with longer names come first. -/
  directives : List Directive
  pattern : Option Pattern
  /-- What is wrong with the specification. -/
  complaints : List String
deriving Repr

namespace Directive

/-- The bytes of the name. -/
def size (d : Directive) : Nat := (d.name.getD []).foldl (fun n c => n + c.utf8Size) 0

/-- Whether a directive says something about a source. -/
def fits (d : Directive) (source : List Char) : Bool := d.name.all fun n => n.isPrefixOf source

/-- Adds a directive in place of one with the same name. -/
def addTo (d : Directive) : List Directive → List Directive
  | [] => [d]
  | e :: rest => if e.name = d.name then d :: rest else e :: d.addTo rest

/-- Puts a directive before those that are not longer. -/
def insert (d : Directive) : List Directive → List Directive
  | [] => [d]
  | e :: rest => if e.size ≤ d.size then d :: e :: rest else e :: d.insert rest

end Directive

namespace Filter

/-- The rank that a word names; with rank zero nothing is printed. -/
def rankOf? (word : List Char) : Option Nat :=
  if (String.ofList word).toUpper = "OFF" then some 0
  else (Severity.ofWord? (String.ofList word)).map Severity.rank

/-- The rank of the least severe notes. -/
def everything : Nat := Severity.rank .trace

/-- The complaint about a part of a specification. -/
def complaintAbout (part : List Char) : String :=
  let shown := String.ofList part
  s!"invalid logging spec '{shown}'"

/-- A directive, or a complaint about it. -/
def directiveOf (part : List Char) : Except String Directive :=
  match part.splitOn '=' with
  | [word] =>
    match rankOf? word with
    | some most => .ok ⟨none, most⟩
    | none => .ok ⟨some word, everything⟩
  | [name, word] =>
    let word := Text.trim word
    if word.isEmpty then .ok ⟨some name, everything⟩
    else
      match rankOf? word with
      | some most => .ok ⟨some name, most⟩
      | none => .error (complaintAbout word)
  | _ => .error (complaintAbout part)

/-- Takes one part of a specification in. -/
def take (f : Filter) (part : List Char) : Filter :=
  if part.isEmpty then f
  else
    match directiveOf part with
    | .ok d => { f with directives := d.addTo f.directives }
    | .error complaint => { f with complaints := f.complaints ++ [complaint] }

/-- Takes a pattern in, if it is one. -/
def takePattern (f : Filter) (text : List Char) : Filter :=
  match Pattern.read text with
  | .ok pattern => { f with pattern }
  | .error fault =>
    let complaint := "invalid regex filter - " ++ fault.report text
    { f with complaints := f.complaints ++ [complaint] }

/-- What a specification says, with the directives as they are written. -/
def read (spec : List Char) : Filter :=
  let blank : Filter := ⟨[], none, []⟩
  let directives (cs : List Char) : Filter := ((cs.splitOn ',').map Text.trim).foldl take blank
  match spec.splitOn '/' with
  | [cs] => directives cs
  | [cs, pattern] => (directives cs).takePattern pattern
  | _ => { blank with complaints := [complaintAbout spec ++ " (too many '/'s)"] }

/-- The filter of a specification; without directives, errors are printed. -/
def ofSpec (spec : String) : Filter :=
  let f := read spec.toList
  let directives :=
    if f.directives.isEmpty then [⟨none, Severity.rank .error⟩]
    else f.directives.foldl (fun sorted d => d.insert sorted) []
  { f with directives }

/-- The rank up to which notes of a source are printed. -/
def mostFor (f : Filter) (source : List Char) : Nat :=
  ((f.directives.find? fun d => d.fits source).map Directive.most).getD 0

/-- Whether a note is printed. -/
def admits (f : Filter) (n : Note) : Bool :=
  n.severity.rank ≤ f.mostFor n.source.name.toList && f.pattern.all fun p => p.occursIn n.text

end Filter

end PositionOverlay.Journal
