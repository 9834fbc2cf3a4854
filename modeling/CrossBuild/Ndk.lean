-- The prebuilt toolchains in an Android NDK, one folder for each kind of host.
import CrossBuild.Job

namespace CrossBuild.Ndk

/-- The names of toolchains that are preferred, in this order. -/
def knownHosts : List String := ["linux-x86_64", "darwin-x86_64", "windows-x86_64"]

/-- Where the prebuilt toolchains of an NDK are. -/
def prebuiltDir (home : Path) : Path := home / "toolchains" / "llvm" / "prebuilt"

/-- The toolchain among the entries of a folder: a known one, else the first folder. -/
def choose? (entries : List (String × Entry)) : Option String :=
  match knownHosts.find? fun host => entries.any fun e => e.1 = host with
  | some host => some host
  | none => (entries.find? fun e => e.2.isFolder).map (·.1)

/-- The name of the toolchain to use among those in a folder. -/
def locate (root : Path) : Job String := do
  match ← Job.ask root fun d cwd => d.list cwd root with
  | .error code => Job.fail (.unlistableToolchains root ⟨code, root.text⟩)
  | .ok entries =>
    match choose? entries with
    | some name => return name
    | none => Job.fail (.noToolchainFolder root)

end CrossBuild.Ndk
