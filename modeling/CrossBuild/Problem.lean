-- The problems that end a run, each as its cause with the facts that are reported, and the
-- report that the user reads.
import CrossBuild.Path
import CrossBuild.SystemError
import CrossBuild.Text.Blank

namespace CrossBuild

/-- What the user reads about a problem. -/
structure Report where
  message : String
  /-- What the user can do about it. -/
  hint : Option String := none
  /-- Named facts, in the order in which they are shown. -/
  context : List (String × String) := []
  /-- What a failing tool has written. -/
  diagnostic : String := ""
  deriving DecidableEq, Repr

namespace Report

/-- The context with a fact set: a fact that is there keeps its place. -/
def setFact (name value : String) : List (String × String) → List (String × String)
  | [] => [(name, value)]
  | (other, old) :: rest =>
    if other = name then (name, value) :: rest else (other, old) :: setFact name value rest

/-- The context with the facts set one after the other. -/
def contextOf (facts : List (String × String)) : List (String × String) :=
  facts.foldl (fun context fact => setFact fact.1 fact.2 context) []

/-- The lines of a report before the words of the tool. Empty hints and empty facts are not
shown. -/
def lines (r : Report) : List String :=
  [r.message] ++
    (r.hint.toList.filter (· ≠ "")).map (fun hint => "Hint: " ++ hint) ++
    (r.context.filter (·.2 ≠ "")).map (fun fact => "  " ++ fact.1 ++ ": " ++ fact.2)

/-- The text of a report: its lines, and the words of the tool without blanks at their
end. -/
def text (r : Report) : String :=
  let head := "\n".intercalate r.lines
  if r.diagnostic = "" then head else head ++ "\n" ++ Text.trimEnd r.diagnostic

end Report

/-- The sort of a problem. -/
inductive ProblemKind where
  | configuration
  | toolchainMismatch
  | unsupportedToolchain
  | toolchainNotFound
  | fileSystem
  | sourceFetch
  | externalTool
  deriving DecidableEq, Repr

/-- A problem that ends a run. -/
inductive Problem where
  | malformedTriple (triple : String)
  | unknownDebug (value : String)
  | undefinedVariable (name : String)
  | ndkHomeUnset
  | unknownOptLevel (value : String)
  | unknownSdk (triple : String)
  | configMissing (path : Path)
  | malformedConfig (path : Path)
  | configNotMapping (path : Path) (found : String)
  /-- The C compiler has the required version and its C++ partner has not. -/
  | compilerMismatch (cCompiler cxxCompiler required found : String)
  /-- No compiler has the required version; `found` is what the last one reports. -/
  | unsupportedCompiler (required found : String)
  | noToolchainFolder (root : Path)
  | unlistableToolchains (root : Path) (e : SystemError)
  | fetchNotStarted (source : String) (e : SystemError)
  | fetchFailed (source : String) (code : Int) (stderr : String)
  | probeFailed (tool : String) (code : Int) (stderr : String)
  | cmakeNotStarted (program step : String) (e : SystemError)
  | cmakeFailed (program step : String) (code : Int) (output : String)
  | bindgenNotStarted (program : String) (e : SystemError)
  | bindgenFailed (program : String) (code : Int) (output : String)
  /-- The binding generator has ended well and left no file. -/
  | bindingsMissing (program : String) (stderr : String)
  deriving DecidableEq

namespace Problem

def kind : Problem → ProblemKind
  | malformedTriple _ | unknownDebug _ | undefinedVariable _ | ndkHomeUnset | unknownOptLevel _
  | unknownSdk _ | configMissing _ | malformedConfig _ | configNotMapping _ _ => .configuration
  | compilerMismatch _ _ _ _ => .toolchainMismatch
  | unsupportedCompiler _ _ => .unsupportedToolchain
  | noToolchainFolder _ => .toolchainNotFound
  | unlistableToolchains _ _ => .fileSystem
  | fetchNotStarted _ _ | fetchFailed _ _ _ => .sourceFetch
  | probeFailed _ _ _ | cmakeNotStarted _ _ _ | cmakeFailed _ _ _ _ | bindgenNotStarted _ _
  | bindgenFailed _ _ _ | bindingsMissing _ _ => .externalTool

/-- The setting that is to blame for a configuration problem. -/
def setting? : Problem → Option String
  | malformedTriple _ => some "TARGET"
  | unknownDebug _ => some "DEBUG"
  | undefinedVariable name => some name
  | ndkHomeUnset => some "ANDROID_NDK_HOME"
  | unknownOptLevel _ => some "OPT_LEVEL"
  | unknownSdk _ => some "TARGET"
  | configMissing _ => some "--config"
  | malformedConfig path => some path.text
  | configNotMapping path _ => some path.text
  | _ => none

/-- The tool that failed, and its exit code if it was started and ended badly. -/
def tool? : Problem → Option (String × Option Int)
  | probeFailed tool code _ => some (tool, some code)
  | cmakeNotStarted program _ _ => some (program, none)
  | cmakeFailed program _ code _ => some (program, some code)
  | bindgenNotStarted program _ => some (program, none)
  | bindgenFailed program code _ => some (program, some code)
  | bindingsMissing program _ => some (program, none)
  | _ => none

/-- The command that fetches a source tree by hand. -/
def fetchHint (source : String) : String :=
  "consider running `git submodule update --init --recursive " ++ source ++ "` yourself"

/-- What the user reads about a problem. -/
def report : Problem → Report
  | malformedTriple triple => { message := "malformed target triple " ++ Text.quoted triple }
  | unknownDebug value => { message := "Unknown DEBUG=" ++ value ++ " env var." }
  | undefinedVariable name =>
    { message := name ++ " variable not defined in env"
      hint := some "Run through cargo (build.rs) or export the variable explicitly." }
  | ndkHomeUnset => { message := "Please set ANDROID_NDK_HOME for Android build" }
  | unknownOptLevel value => { message := "Unknown OPT_LEVEL=" ++ value ++ " env var." }
  | unknownSdk triple => { message := "cannot find SDK for " ++ triple ++ " in CMAKE_PARAMS_APPLE" }
  | configMissing path => { message := "config file not found: " ++ path.text }
  | malformedConfig path => { message := "invalid YAML in " ++ path.text }
  | configNotMapping path found =>
    { message := path.text ++ " must contain a mapping, got " ++ found }
  | compilerMismatch c cxx required found =>
    { message := "mismatched versions of " ++ c ++ " and " ++ cxx ++ ": FIPS requires clang " ++
        required ++ ", " ++ cxx ++ " reports " ++ Text.quoted found
      context := [("required", required), ("found", found)] }
  | unsupportedCompiler required found =>
    { message := "unsupported clang version \"" ++ found ++ "\": FIPS requires clang " ++ required
      context := [("required", required), ("found", found)] }
  | noToolchainFolder root =>
    { message := "no subdirectories at " ++ root.text
      hint := some "Check that ANDROID_NDK_HOME points at an NDK r19 or newer."
      context := [("path", root.text)] }
  | unlistableToolchains root e =>
    { message := "cannot list NDK toolchains at " ++ root.text ++ ": " ++ e.text
      context := [("path", root.text)] }
  | fetchNotStarted source e =>
    { message := "failed to fetch submodule: " ++ e.text
      hint := some (fetchHint source)
      context := [("path", source)] }
  | fetchFailed source code stderr =>
    { message := "failed to fetch submodule (git exited with " ++ toString code ++ ")"
      hint := some (fetchHint source)
      context := [("path", source), ("stderr", Text.trim stderr)] }
  | probeFailed tool code stderr =>
    { message := tool ++ " --version exited with status " ++ toString code
      diagnostic := stderr }
  | cmakeNotStarted program step e =>
    { message := "failed to run " ++ program ++ " (" ++ step ++ "): " ++ e.text }
  | cmakeFailed _ step code output =>
    { message := "cmake " ++ step ++ " failed with exit code " ++ toString code
      diagnostic := output }
  | bindgenNotStarted program e =>
    { message := "Unable to generate bindings: failed to run " ++ program ++ ": " ++ e.text }
  | bindgenFailed _ _ output => { message := "Unable to generate bindings", diagnostic := output }
  | bindingsMissing program stderr =>
    { message := "Couldn't write bindings: " ++ program ++ " produced no output"
      diagnostic := stderr }

/-- The text of a problem. -/
def text (p : Problem) : String := p.report.text

end Problem

end CrossBuild
