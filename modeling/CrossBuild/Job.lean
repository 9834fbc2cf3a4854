-- Jobs: computations that start tools, change the disk, and write directives and messages. A
-- job is a function of its host and of the session so far, so that a whole run, failures
-- included, is a value: the log of a session holds every event in order.
import CrossBuild.Directive
import CrossBuild.Disk
import CrossBuild.Problem
import CrossBuild.Yaml.Fault

namespace CrossBuild

/-! ## Tools -/

/-- A start of a tool. -/
structure Call where
  program : String
  arguments : List String
  /-- The folder that the tool is started in, if it is not the current one. -/
  folder : Option Path := none
  deriving DecidableEq

namespace Call

/-- The program and its arguments. -/
def words (c : Call) : List String := c.program :: c.arguments

/-- Whether a NUL character is in a word of the call or in its folder. -/
def hasNul (c : Call) : Bool :=
  c.words.any Text.hasNul || c.folder.any Path.hasNul

end Call

/-- What a tool that has ended leaves. -/
structure Exit where
  /-- The exit code; a negative one is the number of the signal that ended the tool. -/
  code : Int := 0
  stdout : String := ""
  stderr : String := ""
  /-- The files that the tool has written, relative to the folder that it ran in. -/
  written : List (Path × String) := []

/-- What comes of a start of a tool. -/
inductive Reply where
  /-- The tool can not be started. -/
  | refused (code : ErrorCode)
  | ended (exit : Exit)
  /-- The tool has ended, and what it has printed is not text. -/
  | garbled (written : List (Path × String))

namespace Reply

/-- The files that the tool has written, relative to the folder that it ran in. -/
def written : Reply → List (Path × String)
  | refused _ => []
  | ended exit => exit.written
  | garbled written => written

end Reply

/-- The tools of a host: what comes of a call after the earlier calls of the run. -/
abbrev Toolbox := List Call → Call → Reply

/-- The machine that a run takes place on. -/
structure Host where
  /-- The current folder, as an absolute path. -/
  cwd : Path
  tools : Toolbox

/-! ## Events -/

/-- The weight of a message. -/
inductive Level where
  | debug
  | info
  | warning
  deriving DecidableEq, Repr

namespace Level

def name : Level → String
  | debug => "DEBUG"
  | info => "INFO"
  | warning => "WARNING"

/-- The number by which levels are compared. -/
def rank : Level → Nat
  | debug => 10
  | info => 20
  | warning => 30

end Level

/-- The part of the program that a message comes from. -/
inductive Origin where
  | layout
  | fetch
  | cmake
  | native
  | compiler
  | bindings
  | pipeline
  deriving DecidableEq, Repr

namespace Origin

/-- The name of an origin in messages. -/
def name : Origin → String
  | layout => "boring_build.config"
  | fetch => "boring_build.build.fetch"
  | cmake => "boring_build.build.cmake"
  | native => "boring_build.build.native"
  | compiler => "boring_build.toolchain.verify"
  | bindings => "boring_build.bindgen.generate"
  | pipeline => "boring_build.pipeline"

end Origin

/-- The sort of a warning. -/
inductive WarningKind where
  | unsupportedTarget
  | sdkLookup
  deriving DecidableEq, Repr

namespace WarningKind

def name : WarningKind → String
  | unsupportedTarget => "UnsupportedTargetWarning"
  | sdkLookup => "SdkLookupWarning"

end WarningKind

/-- Something that a run does to the world around it. -/
inductive Event where
  /-- A call of a tool, whatever comes of it. -/
  | started (call : Call)
  | emitted (directive : Directive)
  /-- A line on standard output. -/
  | printed (line : String)
  /-- A line for the user, beside standard output. -/
  | noted (line : String)
  | logged (level : Level) (origin : Origin) (message : String)
  | warned (kind : WarningKind) (message : String)
  deriving DecidableEq

/-- The calls of tools among events, in order. -/
def callsOf (log : List Event) : List Call :=
  log.filterMap fun
    | .started call => some call
    | _ => none

/-- The directives among events, in order. -/
def directivesOf (log : List Event) : List Directive :=
  log.filterMap fun
    | .emitted d => some d
    | _ => none

/-! ## Jobs -/

/-- The disk and the events of a run so far. -/
structure Session where
  disk : Disk
  log : List Event := []

/-- Why a run ends early. -/
inductive Failure where
  | problem (p : Problem)
  /-- A refusal of the operating system that the run is not prepared for. -/
  | system (e : SystemError)
  /-- A path with a NUL character in it. -/
  | nulInPath (p : Path)
  /-- A call with a NUL character in it. -/
  | nulInCall (call : Call)
  /-- A tool that has printed something that is not text. -/
  | outputNotText (call : Call)
  /-- A path that should name a file and has no name. -/
  | noFileName (p : Path)
  /-- A settings file that is not text in UTF-8. -/
  | notText (p : Path)
  /-- A settings file with a scalar that stands for no value. -/
  | badScalar (fault : Yaml.Fault)
  /-- A settings file with unknown keys of which one is not a text. -/
  | keyNotText
  /-- A setting with a number that is too long to be written out. -/
  | numberTooLong
  /-- An option that is needed and whose value has been left out. -/
  | valueLeftOut (option : String)

/-- A computation on a host that reads and changes a session and may fail. What has happened
up to a failure stays. -/
abbrev Job := ReaderT Host (EStateM Failure Session)

namespace Job

def fail {α : Type} (p : Problem) : Job α := throw (.problem p)

/-- The value, or a failure by the problem. -/
def get {α : Type} : Except Problem α → Job α
  | .ok a => return a
  | .error p => fail p

/-! ### Events -/

def record (e : Event) : Job Unit := modify fun s => { s with log := s.log ++ [e] }

def emit (d : Directive) : Job Unit := record (.emitted d)

def print (line : String) : Job Unit := record (.printed line)

def note (line : String) : Job Unit := record (.noted line)

def log (level : Level) (origin : Origin) (message : String) : Job Unit :=
  record (.logged level origin message)

def warn (kind : WarningKind) (message : String) : Job Unit := record (.warned kind message)

/-! ### Files -/

/-- The answer of the disk about a path. No file can have a NUL character in its path, and
the operating system is not even asked about one. -/
def ask {α : Type} (p : Path) (question : Disk → Location → Except ErrorCode α) :
    Job (Except ErrorCode α) := do
  if p.hasNul then throw (.nulInPath p)
  return question (← getThe Session).disk (← read).cwd.parts

/-- The answer of the disk about a path, which it must not refuse. -/
def require {α : Type} (p : Path) (question : Disk → Location → Except ErrorCode α) : Job α := do
  match ← ask p question with
  | .ok a => return a
  | .error code => throw (.system ⟨code, p.text⟩)

def setDisk (d : Disk) : Job Unit := modify fun s => { s with disk := d }

/-- Whether something that a path leads to satisfies a test. Nothing is there under a path
with a NUL character. -/
def test (p : Path) (question : Disk → Location → Except ErrorCode Bool) : Job Bool :=
  if p.hasNul then return false else require p question

def isFile (p : Path) : Job Bool := test p fun d cwd => d.isFile cwd p

def isPresent (p : Path) : Job Bool := test p fun d cwd => d.isPresent cwd p

def ensureFolders (p : Path) : Job Unit := do
  let (d, outcome) ← require p fun d cwd => .ok (d.ensureFolders cwd p)
  setDisk d
  if let .error code := outcome then throw (.system ⟨code, p.text⟩)

/-- Removes a file if it is there. -/
def removeFile (p : Path) : Job Unit := do
  match ← ask p fun d cwd => d.unlink cwd p with
  | .ok d => setDisk d
  | .error code => if code ≠ .noEntry then throw (.system ⟨code, p.text⟩)

def rename (p q : Path) : Job Unit := do
  setDisk (← require p fun d cwd => d.rename cwd p q)

/-! ### Tools -/

/-- The disk with the files written that a tool writes, the folders for them included, up to
the first one that can not be written. -/
def writeAll (cwd : Location) (base : Path) :
    List (Path × String) → Disk → Disk × Except SystemError Unit
  | [], d => (d, .ok ())
  | (p, text) :: rest, d =>
    let target := base / p
    match d.ensureFolders cwd target.parent with
    | (d, .error code) => (d, .error ⟨code, target.parent.text⟩)
    | (d, .ok ()) =>
      match d.write cwd target text.toUTF8 with
      | .error code => (d, .error ⟨code, target.text⟩)
      | .ok d => writeAll cwd base rest d

/-- What the caller of a tool is given: its end, why it can not be started, or a failure if what
it has printed can not be read. No tool can have written a file in a place where there can be none,
so an end that says so counts as a refusal. -/
def answerOf (call : Call) (outcome : Except SystemError Unit) :
    Reply → Except Failure (Except SystemError Exit)
  | .refused code => .ok (.error ⟨code, call.program⟩)
  | .ended exit => .ok (outcome.map fun _ => exit)
  | .garbled _ => .error (.outputNotText call)

/-- Starts a tool and waits for its end. The operating system is not even asked for a call with a
NUL character in it. -/
def start (call : Call) : Job (Except SystemError Exit) := do
  let host ← read
  let earlier := callsOf (← getThe Session).log
  record (.started call)
  if call.hasNul then throw (.nulInCall call)
  let reply := host.tools earlier call
  let base := host.cwd / call.folder.getD .here
  let (d, outcome) := writeAll host.cwd.parts base reply.written (← getThe Session).disk
  setDisk d
  MonadExcept.ofExcept (answerOf call outcome reply)

end Job

/-! ## Scripted tools -/

/-- A reply that is fixed before the run. -/
structure ScriptedReply where
  reply : Reply
  /-- The text that the tool writes to the file named after `--output`. -/
  output : Option String := none

namespace Call

/-- The path after the argument `--output`. -/
def outputPath? (c : Call) : Option Path :=
  match c.arguments.dropWhile (· ≠ "--output") with
  | _ :: path :: _ => some (.ofString path)
  | _ => none

end Call

namespace ScriptedReply

/-- The reply to a call, with the file named after `--output` among those written. -/
def toReply (r : ScriptedReply) (call : Call) : Reply :=
  match r.reply, r.output, call.outputPath? with
  | .ended exit, some text, some path =>
    .ended { exit with written := exit.written ++ [(path, text)] }
  | reply, _, _ => reply

end ScriptedReply

namespace Toolbox

/-- Tools whose replies are listed by program. Each call of a program takes the next reply,
and the last one is repeated. A program without replies can not be started. -/
def scripted (script : List (String × List ScriptedReply)) : Toolbox := fun earlier call =>
  let replies := (script.lookup call.program).getD []
  let turn := (earlier.filter fun c => c.program = call.program).length
  match replies[turn]?, replies.getLast? with
  | some r, _ => r.toReply call
  | none, some r => r.toReply call
  | none, none => .refused .noEntry

end Toolbox

end CrossBuild
