import PositionOverlay.EnvironmentFile
import PositionOverlay.Journal.Filter
import PositionOverlay.Json.Printer
import PositionOverlay.Replay
import PositionOverlay.Settings.Source

/-!
# The command line

The program replays a file of events with the settings of another file. It prints all snapshots
if the whole replay succeeds and none otherwise. Notes and complaints go to the second output.
-/
namespace PositionOverlay.CommandLine

/-- What stands at a path. -/
inductive File where
  | absent
  | directory
  /-- A file that may not be read. -/
  | locked
  | content (bytes : List UInt8)

/-- What the program finds when it starts. -/
structure Surroundings where
  arguments : List String
  environment : EnvironmentFile.Environment
  file : String → File

/-- How the program is set up. -/
structure Setup where
  /-- The names of the directories that lead to the working directory, its own first. -/
  directory : List String := []
  /-- The formats of settings, in the order in which they are tried. -/
  formats : List Settings.Format := [.toml]

/-- What a run of the program yields. -/
structure Report where
  code : Nat
  output : List String
  errors : List String
deriving Repr, DecidableEq

def usage : String := "Usage: pp_replay <config.toml> <events.jsonl> [SYMBOL]"

def defaultConfig : String := "config.toml"

def defaultSymbol : String := "pp"

/-- The variable that says which notes are printed. -/
def logVariable : String := "RUST_LOG"

/-- What is printed about a file of events that may not be read. -/
def lockedMessage : String :=
  "Error: Os \x7b code: 13, kind: PermissionDenied, message: \"Permission denied\" \x7d"

/-- The exit code of a run that faults. -/
def faultCode : Nat := 101

def File.exists : File → Bool
  | absent => false
  | _ => true

def File.isFile : File → Bool
  | locked => true
  | content _ => true
  | _ => false

/-- The bytes of a file, if it is one that can be read. -/
def File.bytes? : File → Option (List UInt8)
  | content bytes => some bytes
  | _ => none

/-- The path of the file that holds assignments, some directories up. -/
def environmentPath (up : Nat) : String := String.join (List.replicate up "../") ++ ".env"

/-- These paths for the working directory and those around it. -/
def environmentPaths (setup : Setup) : List String :=
  (List.range (setup.directory.length + 1)).map environmentPath

/-- The environment with the assignments of the nearest file of them, if it can be read. -/
def fullEnvironment (s : Surroundings) (setup : Setup) :
    Except EnvironmentFile.Refusal EnvironmentFile.Environment :=
  match (((environmentPaths setup).map s.file).find? File.isFile).bind File.bytes? with
  | some bytes => EnvironmentFile.load s.environment bytes
  | none => .ok s.environment

/-- The settings that a path and an environment stand for. -/
def settingsOf (s : Surroundings) (setup : Setup) (env : EnvironmentFile.Environment)
    (path : String) : Except Settings.LoadFault Settings :=
  match Settings.locate? (fun p => (s.file p).isFile) setup.directory setup.formats path with
  | some (path, format) => Settings.loadAs format (s.file path).bytes? env
  | none => .error .noFile

/-- A text whose further lines are set in. -/
def setIn (text : String) : String :=
  String.ofList (text.toList.flatMap fun c => if c = '\n' then "\n    ".toList else [c])

/-- The notes that a filter lets through, as they are printed. -/
def printed (filter : Journal.Filter) (notes : List Note) : List String :=
  (notes.filter filter.admits).map fun n => setIn n.render

/-- The replay with loaded settings. -/
def replay (s : Surroundings) (env : EnvironmentFile.Environment) (settings : Settings)
    (configPath eventsPath : String) : Report :=
  let spec := (env.lookup logVariable).getD settings.log.level
  let filter := Journal.Filter.ofSpec spec
  let complaints := filter.complaints.map fun c => s!"warning: {c}, ignoring it"
  let loaded : Note := ⟨.program, .info, "Loaded config from " ++ configPath⟩
  let symbol := (s.arguments[2]?).getD defaultSymbol
  match s.file eventsPath with
  | .locked => ⟨1, [], complaints ++ printed filter [loaded] ++ [lockedMessage]⟩
  | file =>
    let outcome := Replay.run settings symbol file.bytes?
    let errors := complaints ++ printed filter (loaded :: outcome.journal.toList)
    match outcome.result with
    | .ok snapshots => ⟨0, snapshots.map fun snapshot => snapshot.toJson.render, errors⟩
    | .error (.fault f) => ⟨faultCode, [], errors ++ [f.message]⟩
    | .error failure => ⟨1, [], errors ++ ["Replay error: " ++ failure.summary]⟩

/-- Runs the program with the environment that it has set up. -/
def runWith (s : Surroundings) (setup : Setup) (env : EnvironmentFile.Environment) : Report :=
  let configPath := (s.arguments[0]?).getD defaultConfig
  match s.arguments[1]? with
  | none => ⟨1, [], [usage]⟩
  | some eventsPath =>
    match [configPath, eventsPath].find? fun path => !(s.file path).exists with
    | some path => ⟨1, [], [s!"File '{path}' not found."]⟩
    | none =>
      match settingsOf s setup env configPath with
      | .error _ => ⟨1, [], ["Error: Config"]⟩
      | .ok settings => replay s env settings configPath eventsPath

/-- Runs the program. -/
def run (s : Surroundings) (setup : Setup := {}) : Report :=
  match fullEnvironment s setup with
  | .error refusal => ⟨faultCode, [], [refusal.message]⟩
  | .ok env => runWith s setup env

end PositionOverlay.CommandLine
