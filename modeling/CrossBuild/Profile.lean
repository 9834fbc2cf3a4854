-- Build profiles. The profile names the configuration that CMake builds and, for some
-- compilers, the folder that it puts libraries into.
import CrossBuild.Problem

namespace CrossBuild

/-- A configuration that CMake knows. -/
inductive Profile where
  | debug
  | release
  | releaseWithDebugInfo
  | minimalSize
  deriving DecidableEq, Repr

namespace Profile

def name : Profile → String
  | debug => "Debug"
  | release => "Release"
  | releaseWithDebugInfo => "RelWithDebInfo"
  | minimalSize => "MinSizeRel"

/-- The profile for debug information and an optimization level. -/
def ofSettings (debugInfo : Bool) (optLevel : String) : Except Problem Profile :=
  if optLevel = "0" then .ok debug
  else if ["1", "2", "3"].contains optLevel then
    .ok (if debugInfo then releaseWithDebugInfo else release)
  else if ["s", "z"].contains optLevel then .ok minimalSize
  else .error (.unknownOptLevel optLevel)

end Profile

end CrossBuild
