-- Configuring and building with CMake. Both steps run in the folder `build` of the output
-- folder, and the first step that fails ends the run.
import CrossBuild.CMake.Config
import CrossBuild.Job

namespace CrossBuild.CMake

/-- The folder that CMake runs in. -/
def buildDir (outDir : Path) : Path := outDir / "build"

/-- Runs one step of a build. -/
def runStep (call : Call) (folder : Path) (step : String) : Job Unit := do
  Job.log .debug .cmake ("Running " ++ " ".intercalate call.words ++ " (cwd=" ++ folder.text ++ ")")
  match ← Job.start call with
  | .error e => Job.fail (.cmakeNotStarted call.program step e)
  | .ok exit =>
    if exit.code ≠ 0 then
      Job.fail (.cmakeFailed call.program step exit.code (exit.stdout ++ exit.stderr))
    if exit.stdout ≠ "" then Job.log .debug .cmake (Text.trimEnd exit.stdout)

/-- Configures a source tree and builds one target of it. -/
def build (c : Config) (target : String) (outDir : Path) (profile program : String) :
    Job Unit := do
  let folder := buildDir outDir
  Job.ensureFolders folder
  Job.log .info .cmake
    ("Building " ++ target ++ " (" ++ profile ++ ") from " ++ c.sourceDir.text)
  runStep ⟨program, c.configureArguments outDir profile, some folder⟩ folder "configure"
  runStep ⟨program, buildArguments target profile, some folder⟩ folder ("build --target " ++ target)

end CrossBuild.CMake
