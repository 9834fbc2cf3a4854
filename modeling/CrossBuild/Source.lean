-- The source tree of the library, which git fetches when it is missing.
import CrossBuild.Job

namespace CrossBuild.Source

/-- Whether a source tree is there. -/
def isPresent (sourceDir : Path) : Job Bool := Job.isPresent (sourceDir / "CMakeLists.txt")

/-- The arguments that make git fetch a submodule. -/
def fetchArguments (source : String) : List String :=
  ["submodule", "update", "--init", "--recursive", source]

/-- Fetches the source tree in a project unless it is there; tells whether it did. -/
def ensure (projectDir : Path) (source git : String) : Job Bool := do
  if ← isPresent (projectDir / source) then return false
  Job.emit (.warning "fetching boringssl git submodule")
  match ← Job.start ⟨git, fetchArguments source, some projectDir⟩ with
  | .error e => Job.fail (.fetchNotStarted source e)
  | .ok exit =>
    if exit.code ≠ 0 then Job.fail (.fetchFailed source exit.code exit.stderr)
    Job.log .info .fetch ("Fetched " ++ source)
    return true

end CrossBuild.Source
