-- Linking the libraries that have been built: where the linker finds them and which ones it
-- takes.
import CrossBuild.Job
import CrossBuild.Target

namespace CrossBuild.Link

/-- The libraries that are built, in the order in which their folders are searched. -/
def libraries : List String := ["crypto", "ssl"]

/-- The folder under a library's build folder that holds its files: compilers of the MSVC
family put them into a folder named for the profile. -/
def outputSubdir (t : Target) : Except Problem String :=
  if t.environment = "msvc" then Profile.name <$> t.profile else .ok ""

/-- Where built libraries are. -/
structure Artifacts where
  searchRoots : List Path
  outputSubdir : String
  deriving DecidableEq

/-- Where the libraries of a target are under the root of a build. -/
def artifacts (root : Path) (t : Target) : Except Problem Artifacts := do
  let subdir ← outputSubdir t
  return ⟨libraries.map fun library => root / "build" / library / subdir, subdir⟩

/-- The directives that link the libraries. On a Mac, dynamic libraries may have symbols
that are not defined yet. -/
def directives (a : Artifacts) (t : Target) : List Directive :=
  a.searchRoots.map (fun folder => .linkSearch folder.text) ++
    [.linkStatic "crypto"] ++
    (if t.enables .ssl then [.linkStatic "ssl"] else []) ++
    (if t.platform = .macos then [.cdylibLinkArg "-Wl,-undefined,dynamic_lookup"] else [])

/-- Emits the directives that link the libraries under the root of a build. -/
def emit (root : Path) (t : Target) : Job Artifacts := do
  let a ← Job.get (artifacts root t)
  (directives a t).forM Job.emit
  return a

end CrossBuild.Link
