-- The target of a run: what is built, on which host, from where and to where. It is read once,
-- from the variables of a build environment or from a triple with options, and everything else
-- takes it from here.
import CrossBuild.Feature
import CrossBuild.Platform
import CrossBuild.Profile
import CrossBuild.Triple

namespace CrossBuild

/-- Everything that a run knows about what it builds. -/
structure Target where
  architecture : String
  system : String
  /-- The triple of the machine that builds. -/
  host : String
  /-- The triple of the machine that is built for. -/
  triple : String
  features : FeatureSet
  environment : String
  debugInfo : Bool
  optLevel : String
  outDir : Path
  /-- The folder of the project, which relative paths of the layout start from. -/
  projectDir : Path
  ndkHome : Option Path
  /-- Where the library has been built already. -/
  prebuilt : Option Path
  /-- Where the headers are, if not in the source tree. -/
  headers : Option Path
  deriving DecidableEq

namespace Target

/-- Whether the host builds for another machine. -/
def isCross (t : Target) : Bool := t.host ≠ t.triple

def enables (t : Target) (f : Feature) : Bool := t.features.contains f

def platform (t : Target) : Platform := .ofSystem t.system

def profile (t : Target) : Except Problem Profile := Profile.ofSettings t.debugInfo t.optLevel

/-- The folder of the Android NDK, which a build for Android has to be given. -/
def requireNdkHome (t : Target) : Except Problem Path :=
  match t.ndkHome with
  | some home => .ok home
  | none => .error .ndkHomeUnset

/-! ## From a triple -/

/-- What can be said about a target besides its triple. -/
structure Settings where
  outDir : Path
  host : Option String := none
  features : List String := []
  debugInfo : Bool := false
  optLevel : String := "0"
  projectDir : Option Path := none
  ndkHome : Option Path := none
  prebuilt : Option Path := none
  headers : Option Path := none

/-- The target of a triple. The host is the target itself unless another one is given. -/
def ofTriple (cwd : Path) (triple : String) (s : Settings) : Except Problem Target := do
  let parsed ← Triple.parse triple
  return {
    architecture := parsed.architecture
    system := parsed.system
    host := (s.host.filter (· ≠ "")).getD triple
    triple
    features := .ofList s.features
    environment := parsed.environment
    debugInfo := s.debugInfo
    optLevel := s.optLevel
    outDir := s.outDir
    projectDir := s.projectDir.getD cwd
    ndkHome := s.ndkHome
    prebuilt := s.prebuilt
    headers := s.headers }

end Target

/-! ## From an environment -/

/-- The variables of an environment with their values. -/
abbrev Environment := List (String × String)

namespace Environment

/-- The value of a variable that has to be there and must not be empty. -/
def require (env : Environment) (name : String) : Except Problem String :=
  match env.lookup name with
  | none => .error (.undefinedVariable name)
  | some value => if value = "" then .error (.undefinedVariable name) else .ok value

/-- The value of a variable unless it is empty. -/
def nonempty? (env : Environment) (name : String) : Option String :=
  (env.lookup name).filter (· ≠ "")

/-- The path that a variable holds unless it is empty. -/
def path? (env : Environment) (name : String) : Option Path :=
  (env.nonempty? name).map Path.ofString

end Environment

namespace Target

/-- Whether debug information is wanted. -/
def parseDebug (value : String) : Except Problem Bool :=
  if value = "true" then .ok true
  else if value = "false" then .ok false
  else .error (.unknownDebug value)

/-- The target that the variables of a build environment describe. -/
def ofEnvironment (cwd : Path) (env : Environment) : Except Problem Target := do
  let architecture ← env.require "CARGO_CFG_TARGET_ARCH"
  let system ← env.require "CARGO_CFG_TARGET_OS"
  let host ← env.require "HOST"
  let triple ← env.require "TARGET"
  let debugInfo ← parseDebug (← env.require "DEBUG")
  let optLevel ← env.require "OPT_LEVEL"
  let outDir ← env.require "OUT_DIR"
  let environment :=
    match env.lookup "CARGO_CFG_TARGET_ENV" with
    | some environment => environment
    | none => Triple.environmentOf ((triple.toList.splitOn '-').map String.ofList)
  return {
    architecture
    system
    host
    triple
    features := .ofVariables (env.map (·.1))
    environment
    debugInfo
    optLevel
    outDir := .ofString outDir
    projectDir := (env.path? "CARGO_MANIFEST_DIR").getD cwd
    ndkHome := env.path? "ANDROID_NDK_HOME"
    prebuilt := env.path? "BORING_BSSL_PATH"
    headers := env.path? "BORING_BSSL_INCLUDE_PATH" }

end Target

end CrossBuild
