-- The commands of the program, and what its user sees of a run: the exit code, the directives
-- and results on standard output, and the messages beside it.
import CrossBuild.CommandLine.Grammar
import CrossBuild.Layout.File
import CrossBuild.Pipeline

namespace CrossBuild.CommandLine

/-! ## Commands -/

/-- The commands of the program. -/
inductive Command where
  | build
  | link
  | bindings
  | params
  | verifyToolchain
  | ndkToolchain
  deriving DecidableEq, Repr

namespace Command

def all : List Command := [build, link, bindings, params, verifyToolchain, ndkToolchain]

def name : Command → String
  | build => "build"
  | link => "link"
  | bindings => "bindings"
  | params => "params"
  | verifyToolchain => "verify-toolchain"
  | ndkToolchain => "ndk-toolchain"

def summary : Command → String
  | build => "Fetch/build BoringSSL, emit link directives, generate bindings"
  | link => "Emit link directives for an existing artifact root"
  | bindings => "Generate bindings only"
  | params => "Show resolved CMake definitions for the target"
  | verifyToolchain => "Find a FIPS-compliant clang pair"
  | ndkToolchain => "Pick the prebuilt toolchain in an Android NDK"

def ofName? (name : String) : Option Command := all.find? fun c => c.name = name

/-! ### Options -/

/-- The options of the commands that work on a target. -/
def targetOptions : List OptionSpec := [
  .help,
  ⟨["--project-root"], .path, "project folder (default: CARGO_MANIFEST_DIR or here)"⟩,
  ⟨["--config"], .path, "settings file (default: boring-build.yaml in the project folder)"⟩,
  ⟨["--target"], .text, "target triple, in place of the build environment"⟩,
  ⟨["--host"], .text, "host triple with --target (default: HOST or the target)"⟩,
  ⟨["--out-dir"], .path,
    "output folder with --target (default: OUT_DIR or target/boring-build)"⟩,
  ⟨["--feature"], .text, "enable a feature with --target; can be given more than once"⟩,
  ⟨["--debug"], .flag, "debug information with --target"⟩,
  ⟨["--opt-level"], .text, "optimization level with --target (default: 0)"⟩]

/-- The grammar of a command's arguments. -/
def grammar : Command → Grammar
  | build | bindings | params => { options := targetOptions }
  | link =>
    { options := targetOptions ++
        [⟨["--artifact-root"], .text, "root of the build (default: BORING_BSSL_PATH or OUT_DIR)"⟩] }
  | verifyToolchain => { options := [.help] }
  | ndkToolchain =>
    { options := [.help, ⟨["--prebuilt"], .flag, "the operand is the folder of toolchains"⟩]
      operand := some "root" }

/-- The lines that explain a command and its options. -/
def helpLines (c : Command) : List String :=
  let operand := (c.grammar.operand.map fun name => " " ++ name).getD ""
  ["usage: boring-build " ++ c.name ++ " [options]" ++ operand, "", c.summary, "", "options:"] ++
    c.grammar.options.map fun o => "  " ++ ", ".intercalate o.names ++ "  " ++ o.summary

end Command

namespace Parsed

/-- An option as it is given last, with its value if it has one. -/
def last? (p : Parsed) (name : String) : Option (Option String) :=
  p.given.reverse.lookup name

/-- Whether an option is given. -/
def isGiven (p : Parsed) (name : String) : Bool := (p.last? name).isSome

/-- The last value of an option, unless it has been left out. -/
def value? (p : Parsed) (name : String) : Option String := (p.last? name).join

/-- Whether the last value of an option that has values has been left out. -/
def isLeftOut (p : Parsed) (name : String) : Bool := p.last? name = some none

/-- The values of an option, in order. -/
def values (p : Parsed) (name : String) : List (Option String) :=
  (p.given.filter fun g => g.1 = name).map (·.2)

/-- The path that an option gives, made absolute. -/
def path? (p : Parsed) (cwd : Path) (name : String) : Option Path :=
  (p.value? name).map fun value => Path.resolve cwd (.ofString value)

end Parsed

/-! ## Targets -/

/-- The output folder when none is given. -/
def usualOutDir (cwd : Path) : Path := cwd / "target" / "boring-build"

/-- The optimization level when none is given. -/
def usualOptLevel : String := "0"

/-- The optimization level that the options give. One whose value has been left out is no
level, and it is shown as an empty list. -/
def optLevelOf (p : Parsed) : String :=
  match p.last? "--opt-level" with
  | none => usualOptLevel
  | some value => value.getD "[]"

/-- What the options and the environment say about a target besides its triple. -/
def settingsOf (cwd : Path) (env : Environment) (p : Parsed) : Target.Settings where
  outDir := ((p.path? cwd "--out-dir").or (env.path? "OUT_DIR")).getD (usualOutDir cwd)
  host := ((p.value? "--host").filter (· ≠ "")).or (env.lookup "HOST")
  features := (p.values "--feature").filterMap id
  debugInfo := p.isGiven "--debug"
  optLevel := optLevelOf p
  projectDir := p.path? cwd "--project-root"
  ndkHome := env.path? "ANDROID_NDK_HOME"
  prebuilt := env.path? "BORING_BSSL_PATH"
  headers := env.path? "BORING_BSSL_INCLUDE_PATH"

/-- The triple that the options name a target by. -/
def tripleOf (p : Parsed) : Option String := (p.value? "--target").filter (· ≠ "")

/-- The target that the options name, or else the one of the build environment. -/
def targetOf (cwd : Path) (env : Environment) (p : Parsed) : Except Problem Target :=
  match tripleOf p with
  | some triple => Target.ofTriple cwd triple (settingsOf cwd env p)
  | none => do
    let t ← Target.ofEnvironment cwd env
    return { t with projectDir := (p.path? cwd "--project-root").getD t.projectDir }

/-- The target of a command. Every feature of a target that the options name needs its
name. -/
def target (cwd : Path) (env : Environment) (p : Parsed) : Job Target := do
  let t ← Job.get (targetOf cwd env p)
  if (tripleOf p).isSome ∧ none ∈ p.values "--feature" then throw (.valueLeftOut "--feature")
  return t

/-- Whether the folder of the project is one whose name has been left out. It is needed
only where something in it is. -/
def lacksProject (p : Parsed) : Bool := (tripleOf p).isNone && p.isLeftOut "--project-root"

/-- The layout of a target's project. -/
def layoutOf (cwd : Path) (p : Parsed) (t : Target) : Job Layout := do
  if p.isLeftOut "--config" then throw (.valueLeftOut "--config")
  if lacksProject p ∧ !p.isGiven "--config" then throw (.valueLeftOut "--project-root")
  Layout.load Yaml.load t.projectDir (p.path? cwd "--config")

/-! ## Running commands -/

/-- Tells where the bindings are. -/
def noteBindings (path : Path) : Job Unit := Job.note ("✅ Bindings written to " ++ path.text)

/-- The lines that show a configuration: the sources, the definitions, and the C flags. -/
def configLines (c : CMake.Config) : List String :=
  ["source_dir=" ++ c.sourceDir.text] ++
    c.definitions.map (fun d => CMake.Config.defineArgument d.1 d.2) ++
    c.cFlags.map fun flag => "cflag " ++ flag

/-- Fails if the folder of the project is needed and its name has been left out. -/
def needProject (p : Parsed) : Job Unit := do
  if lacksProject p then throw (.valueLeftOut "--project-root")

/-- A build that lacks the folder of its project. It gets as far as it can without it. -/
def buildWithoutProject (t : Target) (l : Layout) : Job Unit := do
  Pipeline.prepare t l
  if t.prebuilt.isSome then Pipeline.link t l
  throw (.valueLeftOut "--project-root")

/-- What a command does with the arguments that it has been given. -/
def perform (env : Environment) (p : Parsed) : Command → Job Unit
  | .build => do
    let cwd := (← read).cwd
    let t ← target cwd env p
    let l ← layoutOf cwd p t
    if lacksProject p then buildWithoutProject t l
    noteBindings (← Pipeline.run t l)
  | .link => do
    let t ← target (← read).cwd env p
    let root := (((p.value? "--artifact-root").map Path.ofString).or t.prebuilt).getD t.outDir
    let _ ← Link.emit root t
  | .bindings => do
    let cwd := (← read).cwd
    let t ← target cwd env p
    let l ← layoutOf cwd p t
    needProject p
    noteBindings (← Bindings.generate t l (Bindings.headerRoot t (Native.sourceDir t l)))
  | .params => do
    let cwd := (← read).cwd
    let t ← target cwd env p
    let l ← layoutOf cwd p t
    needProject p
    (configLines (← Native.config t l)).forM Job.print
  | .verifyToolchain => do
    let compilers ← Compilers.select Compilers.requiredVersion Compilers.candidates
    Job.print (compilers.c ++ " " ++ compilers.cxx)
  | .ndkToolchain => do
    let root := Path.ofString (p.operand.getD "")
    Job.print (← Ndk.locate (if p.isGiven "--prebuilt" then root else Ndk.prebuiltDir root))

/-! ## What the user sees -/

/-- What comes of a command line. -/
inductive Response where
  /-- No command, or an unknown one. -/
  | usage (unknown : Option String)
  | help (command : Command)
  | rejected (e : OptionError)
  /-- A run with its events, and the problem that ended it if there was one. -/
  | ran (log : List Event) (problem : Option Problem)

/-- The least weight of the messages that are shown, by the name of a level in letters of
either case. -/
def threshold (name : Option String) : Nat :=
  let levels := [("DEBUG", 10), ("INFO", 20), ("WARN", 30), ("WARNING", 30), ("ERROR", 40),
    ("CRITICAL", 50), ("FATAL", 50), ("NOTSET", 0)]
  let capitals := (name.getD "INFO").toList.map Text.capital
  (levels.lookup (String.ofList capitals)).getD 20

/-- The lines that list the commands. -/
def usageLines : List String :=
  let width := 18
  ["Usage: boring-build <command> [args...]", "Commands:"] ++
    Command.all.map fun c =>
      "  " ++ c.name ++ String.ofList (List.replicate (width - c.name.toList.length) ' ') ++
        "- " ++ c.summary

/-- Lines as a text, each with a line feed at its end. -/
def textOf (lines : List String) : String := String.join (lines.map (· ++ "\n"))

/-- The lines of an event on standard output. -/
def outputLines : Event → List String
  | .emitted d => [d.line]
  | .printed line => [line]
  | _ => []

/-- The lines of an event beside standard output. A warning has an empty line after it. -/
def messageLines (least : Nat) : Event → List String
  | .logged level origin message =>
    if least ≤ level.rank then [level.name ++ " " ++ origin.name ++ ": " ++ message] else []
  | .warned kind message =>
    if least ≤ Level.warning.rank then ["WARNING py.warnings: " ++ kind.name ++ ": " ++ message, ""]
    else []
  | .noted line => [line]
  | _ => []

namespace Response

def exitCode : Response → Nat
  | usage _ => 1
  | help _ => 0
  | rejected _ => 2
  | ran _ problem => if problem.isSome then 1 else 0

def stdout : Response → String
  | help c => textOf c.helpLines
  | ran log _ => textOf (log.flatMap outputLines)
  | _ => ""

/-- What is written beside standard output, when messages from a least weight on are
shown. -/
def stderr (least : Nat) : Response → String
  | usage unknown =>
    textOf ((unknown.map fun name => "Error: Unknown command: " ++ name).toList ++ usageLines)
  | help _ => ""
  | rejected e => textOf ["boring-build: error: " ++ e.text]
  | ran log problem =>
    textOf (log.flatMap (messageLines least) ++
      (problem.map fun p => "❌ " ++ p.text).toList)

end Response

/-- Runs a command on a host. Failures that are no problems of the user's stay failures. -/
def runCommand (host : Host) (env : Environment) (disk : Disk) (c : Command) (p : Parsed) :
    Except Failure Response × Session :=
  match ((perform env p c).run host).run { disk } with
  | .ok _ s => (.ok (.ran s.log none), s)
  | .error (.problem problem) s => (.ok (.ran s.log (some problem)), s)
  | .error failure s => (.error failure, s)

/-- What comes of the arguments of the program on a host with a disk. -/
def run (host : Host) (env : Environment) (disk : Disk) (arguments : List String) :
    Except Failure Response × Session :=
  match arguments with
  | [] => (.ok (.usage none), { disk })
  | name :: rest =>
    match Command.ofName? name with
    | none => (.ok (.usage (some name)), { disk })
    | some c =>
      match c.grammar.read rest with
      | .error .help => (.ok (.help c), { disk })
      | .error (.error e) => (.ok (.rejected e), { disk })
      | .ok p => runCommand host env disk c p

end CrossBuild.CommandLine
