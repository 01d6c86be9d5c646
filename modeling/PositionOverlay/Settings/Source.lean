import PositionOverlay.Settings.Load
import PositionOverlay.Text.Lossy

/-!
# Files of settings

A file of settings has one of several formats, which its extension tells. It may be named without
the extension; then the formats are tried in turn.
-/
namespace PositionOverlay.Settings

/-- A format: the extensions of its files, and the layer that a text stands for. -/
structure Format where
  extensions : List String
  layer : String → Except LoadFault Layers.Layer

def Format.toml : Format := ⟨["toml"], fileLayer⟩

/-! ## Names of files -/

/-- The characters behind the last dot of a file name that does not begin with it. -/
def extensionOf (path : String) : String :=
  let name := (path.toList.reverse.takeWhile (· ≠ '/')).reverse
  let ending := (name.reverse.takeWhile (· ≠ '.')).reverse
  if ending.length + 1 < name.length then String.ofList ending else ""

/-- A reversed path without the slashes and the single dots that it ends in. -/
def dropSlashes : List Char → List Char
  | '/' :: rest => dropSlashes rest
  | '.' :: '/' :: rest => dropSlashes rest
  | rest => rest

/-- The path that extensions are added to. The working directory, whose name is the first of the
given ones, goes by its own name in the directory around it; what only leads upward has no name. -/
def stemOf? (directory : List String) (path : String) : Option String :=
  match dropSlashes path.toList.reverse with
  | [] => none
  | ['.'] => directory.head?.map fun name => "../" ++ name
  | '.' :: '.' :: rest =>
    if rest.head?.all (· = '/') then none
    else some (String.ofList ('.' :: '.' :: rest).reverse)
  | stem => some (String.ofList stem.reverse)

/-- The paths that go on with an extension of a format, in the order in which they are tried. -/
def extended (formats : List Format) (stem : String) : List (String × Format) :=
  formats.flatMap fun format => format.extensions.map fun e => (stem ++ "." ++ e, format)

/-- The file that is meant by a path, with its format. A file that has this very path is taken by
its extension; otherwise one is looked for that has an extension more. -/
def locate? (isFile : String → Bool) (directory : List String) (formats : List Format)
    (path : String) : Option (String × Format) :=
  if isFile path then
    (formats.find? fun format => format.extensions.contains (extensionOf path)).map ((path, ·))
  else do
    (extended formats (← stemOf? directory path)).find? fun found => isFile found.1

/-! ## Contents -/

/-- Bytes without the mark that tells their order. -/
def withoutMark : List UInt8 → List UInt8
  | 0xEF :: 0xBB :: 0xBF :: bytes => bytes
  | bytes => bytes

/-- The settings of a file, if it can be read, and an environment. -/
def loadAs (format : Format) (file : Option (List UInt8)) (env : List (String × String)) :
    Except LoadFault Settings := do
  match file with
  | none => throw .noFile
  | some bytes =>
    let layer ← format.layer (Text.decodeLossy (withoutMark bytes))
    ofLayers [layer, environmentLayer env]

end PositionOverlay.Settings
