import PositionOverlay.CommandLine

/-!
# The program

Reads the environment and the files that the arguments name, runs the command line and prints
its report.
-/
namespace PositionOverlay.Main

open CommandLine

/-- The variables of a process, which are separated by zero bytes. -/
def environmentOf (bytes : List UInt8) : EnvironmentFile.Environment :=
  (bytes.splitOn 0).filterMap fun entry => do
    let text ← String.fromUTF8? ⟨entry.toArray⟩
    let cs := text.toList
    let name := cs.takeWhile (· ≠ '=')
    if name.length < cs.length then
      some (String.ofList name, String.ofList (cs.drop (name.length + 1)))
    else none

/-- What stands at a path. -/
def look (path : String) : IO File := do
  try
    let bytes ← IO.FS.readBinFile path
    return .content bytes.toList
  catch
    | .noFileOrDirectory .. => return .absent
    | .permissionDenied .. => return .locked
    | _ => return .directory

/-- The paths that a run may look at. -/
def pathsOf (arguments : List String) (setup : Setup) : List String :=
  let named := CommandLine.defaultConfig :: arguments.take 2
  let stems := named.filterMap (Settings.stemOf? setup.directory)
  CommandLine.environmentPaths setup ++ named ++
    stems.flatMap fun stem => (Settings.extended setup.formats stem).map Prod.fst

end PositionOverlay.Main

open PositionOverlay PositionOverlay.Main in
def main (arguments : List String) : IO UInt32 := do
  let environment ← do
    try
      let bytes ← IO.FS.readBinFile "/proc/self/environ"
      pure (environmentOf bytes.toList)
    catch _ => pure []
  let here := toString (← IO.currentDir)
  let setup : CommandLine.Setup := { directory := (here.splitOn "/").reverse.filter (· ≠ "") }
  let files ← (pathsOf arguments setup).mapM fun path => do return (path, ← look path)
  let file (path : String) : CommandLine.File := (files.lookup path).getD .absent
  let report := CommandLine.run { arguments, environment, file } setup
  for line in report.output do IO.println line
  for line in report.errors do IO.eprintln line
  return report.code.toUInt32
