-- The program itself. It takes the variables and the settings file that a command depends on
-- from the system, runs the command on them, and writes what came of it. No tool is started
-- from here, so a command ends at the first tool that it needs.
import CrossBuild.CommandLine.Command

namespace CrossBuild.CommandLine

/-- The variables that a command can depend on. -/
def variableNames : List String := [
  "CARGO_CFG_TARGET_ARCH", "CARGO_CFG_TARGET_OS", "CARGO_CFG_TARGET_ENV", "HOST", "TARGET",
  "DEBUG", "OPT_LEVEL", "OUT_DIR", "CARGO_MANIFEST_DIR", "ANDROID_NDK_HOME",
  "BORING_BSSL_PATH", "BORING_BSSL_INCLUDE_PATH", "BORING_BUILD_LOG"] ++
    Feature.all.map fun f => FeatureSet.variableOf f.name

def readEnvironment : IO Environment := do
  let values ← variableNames.mapM fun name => do
    return (← IO.getEnv name).map fun value => (name, value)
  return values.filterMap id

/-- The settings file of a command line that makes sense. -/
def settingsOfArguments (cwd : Path) (env : Environment) : List String → Option Path
  | [] => none
  | name :: rest => do
    let c ← Command.ofName? name
    let p ← (c.grammar.read rest).toOption
    let t ← (targetOf cwd env p).toOption
    return Layout.settingsPath t.projectDir (p.path? cwd "--config")

/-- A disk with the one file in it, if the system can read it. -/
def readDisk (cwd : Path) (file : Option Path) : IO Disk := do
  let some path := file | return .empty
  try
    let path := cwd / path
    let content ← IO.FS.readBinFile path.text
    let (d, _) := Disk.empty.ensureFolders [] cwd
    let (d, _) := d.ensureFolders [] path.parent
    return (d.write [] path content).toOption.getD d
  catch _ => return .empty

/-- What a failure that is no problem of the user's is reported as. -/
def failureText : Failure → String
  | .problem p => p.text
  | .system e => e.text
  | .nulInPath p => "a NUL character in the path " ++ Text.quoted p.text
  | .nulInCall call => "a NUL character in a call of " ++ Text.quoted call.program
  | .outputNotText call => "what " ++ call.program ++ " has printed is not text"
  | .noFileName p => "no file name in the path " ++ Text.quoted p.text
  | .notText p => p.text ++ " is not text in UTF-8"
  | .badScalar _ => "a value in the settings file does not exist"
  | .keyNotText => "a key in the settings file is not text"
  | .numberTooLong => "a number in the settings file is too long"
  | .valueLeftOut option => "the value of the option " ++ option ++ " has been left out"

end CrossBuild.CommandLine

open CrossBuild CrossBuild.CommandLine in
/-- Runs the command that the arguments name. -/
def main (arguments : List String) : IO UInt32 := do
  let cwd := Path.ofString (← IO.currentDir).toString
  let env ← readEnvironment
  let disk ← readDisk cwd (settingsOfArguments cwd env arguments)
  let host : Host := { cwd, tools := .scripted [] }
  match (run host env disk arguments).1 with
  | .ok response =>
    IO.print response.stdout
    IO.eprint (response.stderr (threshold (env.lookup "BORING_BUILD_LOG")))
    return UInt32.ofNat response.exitCode
  | .error failure =>
    IO.eprintln ("boring-build: " ++ failureText failure)
    return 1
