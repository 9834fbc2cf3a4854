-- Directives, the lines by which a build script tells its caller what to do with the results.

namespace CrossBuild

/-- A directive. -/
structure Directive where
  key : String
  value : String
  deriving DecidableEq, Repr

namespace Directive

/-- The line that is written for a directive. -/
def line (d : Directive) : String := "cargo:" ++ d.key ++ "=" ++ d.value

/-- Run the build again when an environment variable has changed. -/
def rerunIfEnvChanged (name : String) : Directive := ⟨"rerun-if-env-changed", name⟩

def warning (message : String) : Directive := ⟨"warning", message⟩

/-- Look for native libraries in a folder. -/
def linkSearch (folder : String) : Directive := ⟨"rustc-link-search", "native=" ++ folder⟩

/-- Link a static library. -/
def linkStatic (library : String) : Directive := ⟨"rustc-link-lib", "static=" ++ library⟩

/-- Pass an argument to the linker of dynamic libraries. -/
def cdylibLinkArg (argument : String) : Directive := ⟨"rustc-cdylib-link-arg", argument⟩

end Directive

end CrossBuild
