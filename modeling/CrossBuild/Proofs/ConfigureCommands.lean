-- What a configure command says of the definitions and flags that a configuration has
-- been given one after the other. All of its arguments behind the sources can be read
-- back, and of several definitions of a name the last one counts.
import CrossBuild.Proofs.BuildSteps

namespace CrossBuild.CMake

/-! ## Configurations step by step -/

/-- A thing that is added to a configuration. -/
inductive Step where
  | define (name value : String)
  | cFlag (flag : String)
  | cxxFlag (flag : String)

namespace Step

def definition? : Step → Option (String × String)
  | define name value => some (name, value)
  | _ => none

def cFlag? : Step → Option String
  | cFlag flag => some flag
  | _ => none

def cxxFlag? : Step → Option String
  | cxxFlag flag => some flag
  | _ => none

end Step

/-- No step defines the name. -/
def Undefined (steps : List Step) (name : String) : Prop := ∀ value, .define name value ∉ steps

/-- The last step that defines the name gives it the value. -/
def DefinesLast (steps : List Step) (name value : String) : Prop :=
  ∃ before after, steps = before ++ .define name value :: after ∧ Undefined after name

namespace Config

def add (c : Config) : Step → Config
  | .define name value => c.define name value
  | .cFlag flag => c.addCFlag flag
  | .cxxFlag flag => c.addCxxFlag flag

/-- The configuration of a source tree after some steps. -/
def ofSteps (sourceDir : Path) (steps : List Step) : Config := steps.foldl add { sourceDir }

/-- A step adds to one of the lists, at its end. -/
theorem add_eq (c : Config) (step : Step) :
    c.add step =
      { c with
        definitions := c.definitions ++ step.definition?.toList
        cFlags := c.cFlags ++ step.cFlag?.toList
        cxxFlags := c.cxxFlags ++ step.cxxFlag?.toList } := by
  cases step <;>
    simp [add, define, addCFlag, addCxxFlag, Step.definition?, Step.cFlag?, Step.cxxFlag?]

theorem filterMap_cons_eq {α β : Type} (f : α → Option β) (a : α) (l : List α) :
    (a :: l).filterMap f = (f a).toList ++ l.filterMap f := by
  rw [List.filterMap_cons]
  cases f a <;> rfl

theorem foldl_add (c : Config) (steps : List Step) :
    steps.foldl add c =
      { c with
        definitions := c.definitions ++ steps.filterMap Step.definition?
        cFlags := c.cFlags ++ steps.filterMap Step.cFlag?
        cxxFlags := c.cxxFlags ++ steps.filterMap Step.cxxFlag? } := by
  induction steps generalizing c with
  | nil => simp
  | cons step rest ih =>
    rw [List.foldl_cons, ih, add_eq]
    simp only [filterMap_cons_eq, List.append_assoc]

/-- Definitions and flags are kept in the order of the steps, repeated ones included. -/
theorem ofSteps_eq (sourceDir : Path) (steps : List Step) :
    ofSteps sourceDir steps =
      { sourceDir
        definitions := steps.filterMap Step.definition?
        cFlags := steps.filterMap Step.cFlag?
        cxxFlags := steps.filterMap Step.cxxFlag? } := by
  rw [ofSteps, foldl_add]
  rfl

end Config

/-! ## The definitions of steps -/

variable {steps : List Step} {name value : String}

theorem mem_definitions {d : String × String} :
    d ∈ steps.filterMap Step.definition? ↔ .define d.1 d.2 ∈ steps := by
  rw [List.mem_filterMap]
  constructor
  · rintro ⟨step, hstep, hd⟩
    cases step with
    | define name value => cases hd; exact hstep
    | _ => cases hd
  · exact fun h => ⟨_, h, rfl⟩

theorem lastValue?_eq_none_iff_undefined :
    lastValue? name (steps.filterMap Step.definition?) = none ↔ Undefined steps name := by
  rw [lastValue?_eq_none]
  constructor
  · exact fun h value hmem => h (name, value) (mem_definitions.2 hmem) rfl
  · rintro h ⟨other, value⟩ hmem rfl
    exact h value (mem_definitions.1 hmem)

theorem DefinesLast.lastValue? (h : DefinesLast steps name value) :
    lastValue? name (steps.filterMap Step.definition?) = some value := by
  obtain ⟨before, after, rfl, hafter⟩ := h
  rw [List.filterMap_append, Config.filterMap_cons_eq, lastValue?_append, lastValue?_append,
    lastValue?_eq_none_iff_undefined.2 hafter]
  simp [Step.definition?, lastValue?_singleton]

/-! ## The configure command -/

/-- The value of a variable that holds flags: they are written one after the other, and without
flags there is no value. -/
def joined? (flags : List String) : Option String :=
  if flags = [] then none else some (" ".intercalate flags)

/-- Arguments say what has been configured. The place to install to is the first thing that they
define, all that has been defined follows in order, and then at most the flags of both compilers
and the profile, each where nothing else has been defined. -/
structure Says (arguments : List String) (outDir : Path) (profile : String) (steps : List Step) :
    Prop where
  read : ∃ collected : List (String × String),
    arguments.map definition? =
        ((("CMAKE_INSTALL_PREFIX", outDir.text) :: steps.filterMap Step.definition?) ++
          collected).map some ∧
      (collected.map (·.1)).Sublist reservedNames.tail ∧
      ∀ d ∈ collected, Undefined steps d.1
  defined : ∀ name value, DefinesLast steps name value →
    lastValue? name (definitionsOf arguments) = some value
  cFlags : Undefined steps "CMAKE_C_FLAGS" →
    lastValue? "CMAKE_C_FLAGS" (definitionsOf arguments) = joined? (steps.filterMap Step.cFlag?)
  cxxFlags : Undefined steps "CMAKE_CXX_FLAGS" →
    lastValue? "CMAKE_CXX_FLAGS" (definitionsOf arguments) =
      joined? (steps.filterMap Step.cxxFlag?)
  buildType : Undefined steps "CMAKE_BUILD_TYPE" →
    lastValue? "CMAKE_BUILD_TYPE" (definitionsOf arguments) = some profile
  installPrefix : Undefined steps "CMAKE_INSTALL_PREFIX" →
    lastValue? "CMAKE_INSTALL_PREFIX" (definitionsOf arguments) = some outDir.text
  others : ∀ name, Undefined steps name →
    name ∉ reservedNames → lastValue? name (definitionsOf arguments) = none

/-- What a name stands for that has not been defined. -/
def defaultValue? (outDir : Path) (profile : String) (steps : List Step) (name : String) :
    Option String :=
  if name = "CMAKE_BUILD_TYPE" then some profile
  else if name = "CMAKE_C_FLAGS" then joined? (steps.filterMap Step.cFlag?)
  else if name = "CMAKE_CXX_FLAGS" then joined? (steps.filterMap Step.cxxFlag?)
  else if name = "CMAKE_INSTALL_PREFIX" then some outDir.text
  else none

/-- The value of a name comes from the last step that defines it, or else it is a default. -/
theorem lastValue?_ofSteps {sourceDir outDir : Path} {profile : String}
    (hnames : ∀ name value, .define name value ∈ steps → '=' ∉ name.toList) (name : String) :
    lastValue? name (definitionsOf
        ((Config.ofSteps sourceDir steps).configureArguments outDir profile).tail) =
      (lastValue? name (steps.filterMap Step.definition?)).or
        (defaultValue? outDir profile steps name) := by
  have hdefinitions : ∀ d ∈ (Config.ofSteps sourceDir steps).definitions, '=' ∉ d.1.toList := by
    rw [Config.ofSteps_eq]
    exact fun d hd => hnames d.1 d.2 (mem_definitions.1 hd)
  rw [Config.lastValue?_configureArguments _ hdefinitions, Config.ofSteps_eq]
  unfold defaultValue? joined?
  congr 1
  by_cases hc : name = "CMAKE_C_FLAGS"
  · by_cases hnone : steps.filterMap Step.cFlag? = [] <;> simp [hc, hnone]
  · by_cases hcxx : name = "CMAKE_CXX_FLAGS"
    · by_cases hnone : steps.filterMap Step.cxxFlag? = [] <;> simp [hcxx, hnone]
    · simp [hc, hcxx]

/-- Whatever definitions and flags a configuration has been given, its configure command passes the
sources first and then says them, as long as no name has an equals sign in it. -/
theorem a_configure_command_says_what_is_configured (program : String) (sourceDir outDir : Path)
    (profile : String) (steps : List Step)
    (hnames : ∀ name value, .define name value ∈ steps → '=' ∉ name.toList) :
    let words := (configureCall (.ofSteps sourceDir steps) outDir profile program).words
    words.take 2 = [program, sourceDir.text] ∧ Says (words.drop 2) outDir profile steps := by
  have hsource : (Config.ofSteps sourceDir steps).sourceDir = sourceDir := by
    rw [Config.ofSteps_eq]
  have hdefinitions :
      (Config.ofSteps sourceDir steps).definitions = steps.filterMap Step.definition? := by
    rw [Config.ofSteps_eq]
  obtain ⟨hcollected, hfree⟩ := (Config.ofSteps sourceDir steps).names_collected profile
  have hundefined : ∀ d ∈ (Config.ofSteps sourceDir steps).collected profile,
      Undefined steps d.1 := by
    intro d hd
    have hd' := hfree d hd
    rw [Config.isDefined_eq, hdefinitions, Option.isSome_eq_false_iff, Option.isNone_iff_eq_none]
      at hd'
    exact lastValue?_eq_none_iff_undefined.1 hd'
  have hvalue {name : String} (h : Undefined steps name) :
      lastValue? name (definitionsOf
          ((Config.ofSteps sourceDir steps).configureArguments outDir profile).tail) =
        defaultValue? outDir profile steps name := by
    rw [lastValue?_ofSteps hnames, lastValue?_eq_none_iff_undefined.2 h, Option.none_or]
  refine ⟨congrArg (fun p => [program, Path.text p]) hsource, ?_⟩
  change Says ((Config.ofSteps sourceDir steps).configureArguments outDir profile).tail _ _ _
  constructor
  · refine ⟨(Config.ofSteps sourceDir steps).collected profile, ?_, hcollected, hundefined⟩
    rw [Config.tail_configureArguments, map_definition?_defineArgument, hdefinitions]
    refine Config.noEqualsSign_arguments _ ?_ outDir profile
    exact fun d hd => hnames d.1 d.2 (mem_definitions.1 (hdefinitions ▸ hd))
  · intro name value h
    rw [lastValue?_ofSteps hnames, h.lastValue?, Option.some_or]
  · exact hvalue
  · exact hvalue
  · exact hvalue
  · exact hvalue
  · intro name h hname
    rw [hvalue h]
    simp only [reservedNames, List.mem_cons, List.not_mem_nil, or_false, not_or] at hname
    simp [defaultValue?, hname]

/-- A name that is defined twice has the later value, with its equals sign, and flags that have been
defined are not collected. -/
theorem a_later_definition_is_said :
    let steps : List Step :=
      [.define "SDK" "old", .cFlag "-O1", .define "SDK" "a=b c", .cxxFlag "-g",
        .define "CMAKE_C_FLAGS" "", .cxxFlag "-Wall -Wextra"]
    let words := (configureCall (.ofSteps (.ofString "/src") steps) (.ofString "/out") "Debug"
      "cmake").words
    lastValue? "SDK" (definitionsOf (words.drop 2)) = some "a=b c" ∧
      lastValue? "CMAKE_CXX_FLAGS" (definitionsOf (words.drop 2)) = some "-g -Wall -Wextra" := by
  intro steps words
  have hnames : ∀ name value, .define name value ∈ steps → '=' ∉ name.toList := by
    intro name value h
    simp only [steps, List.mem_cons, List.not_mem_nil, Step.define.injEq, reduceCtorEq, or_false,
      false_or] at h
    rcases h with ⟨rfl, -⟩ | ⟨rfl, -⟩ | ⟨rfl, -⟩ <;> decide
  have hsays := (a_configure_command_says_what_is_configured "cmake" (.ofString "/src")
    (.ofString "/out") "Debug" steps hnames).2
  constructor
  · refine hsays.defined "SDK" "a=b c" ⟨[.define "SDK" "old", .cFlag "-O1"], _, rfl, ?_⟩
    simp [Undefined]
  · refine hsays.cxxFlags ?_
    simp [Undefined, steps]

end CrossBuild.CMake
