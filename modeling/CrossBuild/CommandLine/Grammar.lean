-- The grammar of command lines. A command takes options, of which some have a value, and
-- perhaps one operand. Long options may be cut short as long as one option fits, a value may
-- follow an equals sign, and after two hyphens everything is an operand.
import CrossBuild.Path
import CrossBuild.Text.Digit
import CrossBuild.Text.Quoted

namespace CrossBuild.CommandLine

/-- What an option takes. -/
inductive OptionKind where
  /-- Shows the help instead of running. -/
  | help
  /-- Takes nothing. -/
  | flag
  /-- Takes any text. -/
  | text
  /-- Takes a path. -/
  | path
  deriving DecidableEq, Repr

/-- An option with its names. -/
structure OptionSpec where
  names : List String
  kind : OptionKind
  summary : String
  deriving DecidableEq, Repr

namespace OptionSpec

/-- The option that every command has. -/
def help : OptionSpec := ⟨["-h", "--help"], .help, "show this help"⟩

/-- The names of an option in a message. -/
def shown (o : OptionSpec) : String := "/".intercalate o.names

/-- The name by which a command asks for an option. -/
def name (o : OptionSpec) : String := o.names.getLast?.getD ""

end OptionSpec

/-- The options of a command and the name of its operand, if it has one. -/
structure Grammar where
  options : List OptionSpec
  operand : Option String := none

/-- What is wrong with a command line. -/
inductive OptionError where
  | ambiguous (argument : String) (fits : List String)
  | expectedArgument (option : OptionSpec)
  | ignoredArgument (option : OptionSpec) (value : String)
  | invalidPath (option : OptionSpec) (value : String)
  | missingOperand (name : String)
  | unrecognized (arguments : List String)
  deriving DecidableEq, Repr

namespace OptionError

/-- The wording of an error. -/
def text : OptionError → String
  | ambiguous argument fits =>
    "ambiguous option: " ++ argument ++ " could match " ++ ", ".intercalate fits
  | expectedArgument option => "argument " ++ option.shown ++ ": expected one argument"
  | ignoredArgument option value =>
    "argument " ++ option.shown ++ ": ignored explicit argument " ++ Text.quoted value
  | invalidPath option value =>
    "argument " ++ option.shown ++ ": invalid path_resolver value: " ++ Text.quoted value
  | missingOperand name => "the following arguments are required: " ++ name
  | unrecognized arguments => "unrecognized arguments: " ++ " ".intercalate arguments

end OptionError

/-- Why the reading of a command line ends early. -/
inductive Stop where
  | help
  | error (e : OptionError)
  deriving DecidableEq, Repr

/-! ## Words -/

/-- What an argument is by its form. -/
inductive Word where
  | operand
  /-- An option under one of its names, with what stands in the same argument: after an
  equals sign, or right behind a short name. -/
  | option (spec : OptionSpec) (name : String) (attached : Option String)
  | unknownOption
  /-- The two hyphens after which all arguments are operands. -/
  | separator
  deriving DecidableEq, Repr

namespace Grammar

/-- All names of options, each with its option. -/
def names (g : Grammar) : List (String × OptionSpec) :=
  g.options.flatMap fun o => o.names.map fun name => (name, o)

/-- The characters before the first equals sign, and those after it if there is one. -/
def cutAtEquals (cs : List Char) : String × Option String :=
  let before := cs.takeWhile (· ≠ '=')
  match cs.dropWhile (· ≠ '=') with
  | _ :: after => (String.ofList before, some (String.ofList after))
  | [] => (String.ofList before, none)

/-- The options that an argument with hyphens may mean: a long option cut short, or a short
option with something right behind it. -/
def fitting (g : Grammar) (cs : List Char) : List (String × OptionSpec × Option String) :=
  match cs with
  | '-' :: '-' :: _ =>
    let (start, attached) := cutAtEquals cs
    (g.names.filter fun (name, _) => start.toList.isPrefixOf name.toList).map
      fun (name, o) => (name, o, attached)
  | '-' :: c :: rest =>
    (g.names.filter fun (name, _) => name = String.ofList ['-', c]).map
      fun (name, o) => (name, o, some (String.ofList rest))
  | _ => []

/-- Whether an argument looks like a negative number. One line feed at its end does not
count. -/
def isNegativeNumber (cs : List Char) : Bool :=
  let isDigit (c : Char) : Bool := (Text.digitValue? c).isSome
  let cs := if cs.getLast? = some '\n' then cs.dropLast else cs
  match cs with
  | '-' :: cs =>
    let (before, rest) := cs.span isDigit
    match rest with
    | [] => !before.isEmpty
    | '.' :: after => !after.isEmpty && after.all isDigit
    | _ => false
  | _ => false

/-- What an argument before the two hyphens is. -/
def wordOf (g : Grammar) (argument : String) : Except OptionError Word :=
  let cs := argument.toList
  if cs.head? ≠ some '-' ∨ cs.length = 1 then .ok .operand
  else
    match g.names.lookup argument with
    | some o => .ok (.option o argument none)
    | none =>
      let (start, attached) := cutAtEquals cs
      match attached.bind fun text => (g.names.lookup start).map fun o => (o, text) with
      | some (o, text) => .ok (.option o start (some text))
      | none =>
        match g.fitting cs with
        | [(name, o, attached)] => .ok (.option o name attached)
        | fit :: fits => .error (.ambiguous argument ((fit :: fits).map (·.1)))
        | [] =>
          if isNegativeNumber cs ∨ cs.contains ' ' then .ok .operand else .ok .unknownOption

/-- The arguments with what each of them is. -/
def words (g : Grammar) : List String → Except OptionError (List (String × Word))
  | [] => .ok []
  | "--" :: rest => .ok (("--", .separator) :: rest.map fun argument => (argument, .operand))
  | argument :: rest => do
    let word ← g.wordOf argument
    return (argument, word) :: (← g.words rest)

end Grammar

/-! ## Reading -/

/-- What a command line says. -/
structure Parsed where
  /-- The options that are given, in order, each with its value. An option that takes
  nothing has none, and neither has one whose value is two hyphens behind an equals sign:
  they count as the separator, which is left out. -/
  given : List (String × Option String) := []
  operand : Option String := none
  /-- The arguments that have no meaning. -/
  extra : List String := []
  deriving DecidableEq, Repr

/-- What an option that takes nothing makes of characters right behind its short name: each
is a short name too, and the only short name is that of the help. -/
def shortTail (o : OptionSpec) : List Char → Stop
  | [] => .error (.ignoredArgument o "")
  | ['h'] => .help
  | 'h' :: cs => shortTail o cs
  | cs => .error (.ignoredArgument o (String.ofList cs))

/-- An option that takes nothing, under a name and with what is attached to it. -/
def takeFlag (o : OptionSpec) (name : String) (attached : Option String) : Except Stop Unit :=
  match attached with
  | none => if o.kind = .help then .error .help else .ok ()
  | some text =>
    if name.toList.length = 2 then .error (shortTail o text.toList)
    else .error (.error (.ignoredArgument o text))

/-- The value of an option, if it can be one. -/
def takeValue (o : OptionSpec) (value : String) : Except Stop String :=
  if o.kind = .path ∧ (Path.ofString value).hasNul then .error (.error (.invalidPath o value))
  else .ok value

/-- The value that is attached to an option, unless it is the separator. -/
def takeAttached (o : OptionSpec) (text : String) : Except Stop (Option String) :=
  if text = "--" then .ok none else some <$> takeValue o text

/-- The words without the two hyphens, if they come first. -/
def dropSeparator : List (String × Word) → List (String × Word)
  | (_, .separator) :: rest => rest
  | words => words

theorem length_dropSeparator_le (words : List (String × Word)) :
    (dropSeparator words).length ≤ words.length := by
  unfold dropSeparator
  split <;> simp

/-- Reads the arguments in order. An operand is taken where it first stands, together with the
two hyphens around it; arguments that have no meaning are collected. -/
def readWords (wantsOperand : Bool) (p : Parsed) : List (String × Word) → Except Stop Parsed
  | [] => .ok p
  | (argument, .unknownOption) :: rest =>
    readWords wantsOperand { p with extra := p.extra ++ [argument] } rest
  | (argument, .operand) :: rest =>
    if wantsOperand ∧ p.operand.isNone then
      readWords wantsOperand { p with operand := some argument } (dropSeparator rest)
    else readWords wantsOperand { p with extra := p.extra ++ [argument] } rest
  | (_, .separator) :: (argument, word) :: rest =>
    if wantsOperand ∧ p.operand.isNone then
      readWords wantsOperand { p with operand := some argument } rest
    else readWords wantsOperand { p with extra := p.extra ++ ["--"] } ((argument, word) :: rest)
  | [(_, .separator)] => .ok { p with extra := p.extra ++ ["--"] }
  | (_, .option o name attached) :: rest =>
    if o.kind = .help ∨ o.kind = .flag then do
      takeFlag o name attached
      readWords wantsOperand { p with given := p.given ++ [(o.name, none)] } rest
    else
      match attached, rest with
      | some text, rest => do
        let value ← takeAttached o text
        readWords wantsOperand { p with given := p.given ++ [(o.name, value)] } rest
      | none, (argument, .operand) :: rest => do
        let value ← takeValue o argument
        readWords wantsOperand { p with given := p.given ++ [(o.name, some value)] } rest
      | none, _ => .error (.error (.expectedArgument o))
termination_by words => words.length
decreasing_by
  all_goals simp only [List.length_cons]
  all_goals first
    | omega
    | exact Nat.lt_succ_of_le (length_dropSeparator_le _)

/-- What the arguments say, if they follow the grammar. -/
def Grammar.read (g : Grammar) (arguments : List String) : Except Stop Parsed := do
  let words ← (g.words arguments).mapError .error
  let p ← readWords g.operand.isSome {} words
  match g.operand, p.operand with
  | some name, none => throw (.error (.missingOperand name))
  | _, _ => if p.extra.isEmpty then return p else throw (.error (.unrecognized p.extra))

end CrossBuild.CommandLine
