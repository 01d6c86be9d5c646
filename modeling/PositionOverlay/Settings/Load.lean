import PositionOverlay.Schema.Coerce
import PositionOverlay.Settings
import PositionOverlay.Settings.Layers
import PositionOverlay.Text.Lowercase
import PositionOverlay.Toml.Reader

/-!
# Loading settings

Settings come from a file and from environment variables, which win. The variable
`PP__SECTION__KEY` stands for the key of a section.
-/
namespace PositionOverlay.Settings

/-- Why settings cannot be loaded. -/
inductive LoadFault where
  | noFile
  | notToml
  | misplaced (cause : Misplaced)
deriving Repr

/-- What the names of variables begin with, in lower case. -/
def variableMark : List Char := "pp__".toList

/-- A name with dots in place of double underscores. -/
def dotted : List Char → List Char
  | '_' :: '_' :: rest => '.' :: dotted rest
  | c :: rest => c :: dotted rest
  | [] => []

/-- The key that a variable stands for. -/
def keyOf? (name : String) : Option String :=
  let name := (Text.lower name).toList
  if variableMark.isPrefixOf name then
    some (String.ofList (dotted (name.drop variableMark.length)))
  else none

/-- The layer of the environment; all its values are text. -/
def environmentLayer (env : List (String × String)) : Layers.Layer :=
  env.filterMap fun (name, value) => (keyOf? name).map fun key => (key, .str value)

/-- The layer of a file. -/
def fileLayer (text : String) : Except LoadFault Layers.Layer :=
  match Toml.parse? text with
  | some members => .ok (Toml.membersToData members)
  | none => .error .notToml

/-- The settings that some layers describe. -/
def ofLayers (layers : List Layers.Layer) : Except LoadFault Settings :=
  (schema.coerce (Layers.combine layers)).mapError .misplaced

/-- The settings of a text. -/
def ofToml (text : String) : Except LoadFault Settings := do
  ofLayers [← fileLayer text]

/-- The settings of a file, if it exists, and an environment. -/
def load (file : Option String) (env : List (String × String)) : Except LoadFault Settings := do
  match file with
  | none => throw .noFile
  | some text => ofLayers [← fileLayer text, environmentLayer env]

end PositionOverlay.Settings
