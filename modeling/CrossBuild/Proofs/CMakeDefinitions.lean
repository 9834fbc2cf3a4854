-- What the arguments of a configure command define. An argument is read up to its
-- first equals sign, and of several definitions of a name the last one counts, so
-- that a configuration reaches CMake as it has been put together.
import CrossBuild.CMake.Config
import CrossBuild.Proofs.Texts

namespace CrossBuild.CMake

/-! ## Definitions among arguments -/

/-- The name and the value that an argument defines. -/
def definition? (argument : String) : Option (String × String) :=
  match argument.toList with
  | '-' :: 'D' :: rest =>
    match rest.dropWhile (· ≠ '=') with
    | [] => none
    | _ :: value => some (String.ofList (rest.takeWhile (· ≠ '=')), String.ofList value)
  | _ => none

/-- The definitions among arguments, in order. -/
def definitionsOf (arguments : List String) : List (String × String) :=
  arguments.filterMap definition?

/-- The value of a name: that of its last definition. -/
def lastValue? (name : String) (definitions : List (String × String)) : Option String :=
  definitions.reverse.lookup name

theorem definition?_defineArgument {name : String} (h : '=' ∉ name.toList) (value : String) :
    definition? (Config.defineArgument name value) = some (name, value) := by
  have hlist : (Config.defineArgument name value).toList =
      '-' :: 'D' :: (name.toList ++ '=' :: value.toList) := by
    simp [Config.defineArgument]
  unfold definition?
  rw [hlist]
  simp only
  rw [Text.dropWhile_ne_append h, Text.takeWhile_ne_append h]
  simp

/-- Definitions that are written out are read back if no name has an equals sign in it. -/
theorem map_definition?_defineArgument {definitions : List (String × String)}
    (h : ∀ d ∈ definitions, '=' ∉ d.1.toList) :
    (definitions.map fun d => Config.defineArgument d.1 d.2).map definition? =
      definitions.map some := by
  rw [List.map_map]
  exact List.map_congr_left fun d hd => definition?_defineArgument (h d hd) d.2

theorem definitionsOf_map_defineArgument {definitions : List (String × String)}
    (h : ∀ d ∈ definitions, '=' ∉ d.1.toList) :
    definitionsOf (definitions.map fun d => Config.defineArgument d.1 d.2) = definitions := by
  have hread := congrArg (List.filterMap id) (map_definition?_defineArgument h)
  rw [List.filterMap_map, Function.id_comp] at hread
  exact hread.trans (by simp)

/-! ## The last value of a name -/

@[simp]
theorem lastValue?_nil (name : String) : lastValue? name [] = none := rfl

theorem lastValue?_append (name : String) (l l' : List (String × String)) :
    lastValue? name (l ++ l') = (lastValue? name l').or (lastValue? name l) := by
  unfold lastValue?
  rw [List.reverse_append, List.lookup_append]

theorem lastValue?_singleton (name : String) (d : String × String) :
    lastValue? name [d] = if d.1 = name then some d.2 else none := by
  obtain ⟨other, value⟩ := d
  by_cases h : other = name
  · simp [lastValue?, h]
  · simp [lastValue?, h, Ne.symm h]

/-- A name has a value exactly if it is defined. -/
theorem lastValue?_eq_none {name : String} {definitions : List (String × String)} :
    lastValue? name definitions = none ↔ ∀ d ∈ definitions, d.1 ≠ name := by
  induction definitions with
  | nil => simp
  | cons d rest ih =>
    rw [← List.singleton_append, lastValue?_append, lastValue?_singleton, Option.or_eq_none_iff, ih]
    by_cases h : d.1 = name <;> simp [h]

theorem Config.isDefined_eq (c : Config) (name : String) :
    c.isDefined name = (lastValue? name c.definitions).isSome := by
  cases h : lastValue? name c.definitions with
  | none =>
    rw [lastValue?_eq_none] at h
    simpa [isDefined] using h
  | some value =>
    have hdefined : ¬∀ d ∈ c.definitions, d.1 ≠ name := by
      rw [← lastValue?_eq_none, h]
      simp
    simpa [isDefined] using hdefined

/-! ## The configure command -/

/-- The names that a configure command may define of its own accord. -/
def reservedNames : List String :=
  ["CMAKE_INSTALL_PREFIX", "CMAKE_C_FLAGS", "CMAKE_CXX_FLAGS", "CMAKE_BUILD_TYPE"]

theorem no_equals_sign : ∀ name ∈ reservedNames, '=' ∉ name.toList := by decide

namespace Config

variable (c : Config)

/-- What collected flags define. -/
def flagsDefinition (name : String) (flags : List String) : List (String × String) :=
  if flags.isEmpty || c.isDefined name then [] else [(name, " ".intercalate flags)]

/-- What the profile defines. -/
def profileDefinition (profile : String) : List (String × String) :=
  if c.isDefined "CMAKE_BUILD_TYPE" then [] else [("CMAKE_BUILD_TYPE", profile)]

/-- What a configure command defines besides the place to install to and what has been defined. -/
def collected (profile : String) : List (String × String) :=
  c.flagsDefinition "CMAKE_C_FLAGS" c.cFlags ++ c.flagsDefinition "CMAKE_CXX_FLAGS" c.cxxFlags ++
    c.profileDefinition profile

theorem map_flagsDefinition (name : String) (flags : List String) :
    (c.flagsDefinition name flags).map (fun d => defineArgument d.1 d.2) =
      c.flagsArgument name flags := by
  unfold flagsDefinition flagsArgument
  split <;> rfl

theorem map_profileDefinition (profile : String) :
    (c.profileDefinition profile).map (fun d => defineArgument d.1 d.2) =
      c.profileArgument profile := by
  unfold profileDefinition profileArgument
  split <;> rfl

/-- Behind the sources a configure command has definitions and nothing else. -/
theorem tail_configureArguments (outDir : Path) (profile : String) :
    (c.configureArguments outDir profile).tail =
      ((("CMAKE_INSTALL_PREFIX", outDir.text) :: c.definitions) ++ c.collected profile).map
        fun d => defineArgument d.1 d.2 := by
  unfold collected
  simp only [List.map_append, map_flagsDefinition, map_profileDefinition, ← List.append_assoc]
  rfl

/-- A name that is defined is not defined a second time by what has been collected. -/
theorem names_flagsDefinition (name : String) (flags : List String) :
    ((c.flagsDefinition name flags).map (·.1)).Sublist [name] ∧
      ∀ d ∈ c.flagsDefinition name flags, d.1 = name ∧ c.isDefined name = false := by
  unfold flagsDefinition
  split
  · simp
  · rename_i h
    rw [Bool.or_eq_true, not_or] at h
    simpa using h.2

theorem names_profileDefinition (profile : String) :
    ((c.profileDefinition profile).map (·.1)).Sublist ["CMAKE_BUILD_TYPE"] ∧
      ∀ d ∈ c.profileDefinition profile,
        d.1 = "CMAKE_BUILD_TYPE" ∧ c.isDefined "CMAKE_BUILD_TYPE" = false := by
  unfold profileDefinition
  split
  · simp
  · rename_i h
    simpa using h

theorem names_collected (profile : String) :
    ((c.collected profile).map (·.1)).Sublist reservedNames.tail ∧
      ∀ d ∈ c.collected profile, c.isDefined d.1 = false := by
  have hc := c.names_flagsDefinition "CMAKE_C_FLAGS" c.cFlags
  have hcxx := c.names_flagsDefinition "CMAKE_CXX_FLAGS" c.cxxFlags
  have hprofile := c.names_profileDefinition profile
  constructor
  · unfold collected
    rw [List.map_append, List.map_append]
    exact (hc.1.append hcxx.1).append hprofile.1
  · intro d hd
    rcases List.mem_append.1 hd with hd | hd
    · rcases List.mem_append.1 hd with hd | hd
      · obtain ⟨hname, hdefined⟩ := hc.2 d hd
        rw [hname, hdefined]
      · obtain ⟨hname, hdefined⟩ := hcxx.2 d hd
        rw [hname, hdefined]
    · obtain ⟨hname, hdefined⟩ := hprofile.2 d hd
      rw [hname, hdefined]

/-- No name in a configure command has an equals sign in it if no defined one has. -/
theorem noEqualsSign_arguments (hnames : ∀ d ∈ c.definitions, '=' ∉ d.1.toList) (outDir : Path)
    (profile : String) :
    ∀ d ∈ (("CMAKE_INSTALL_PREFIX", outDir.text) :: c.definitions) ++ c.collected profile,
      '=' ∉ d.1.toList := by
  intro d hd
  rcases List.mem_append.1 hd with hd | hd
  · rcases List.mem_cons.1 hd with rfl | hd
    · exact no_equals_sign _ List.mem_cons_self
    · exact hnames d hd
  · have hname := (c.names_collected profile).1.mem (List.mem_map_of_mem hd)
    exact no_equals_sign _ (List.mem_cons_of_mem _ hname)

/-- A configure command says what is configured: after the folder of the sources come the
folder of the results, the definitions in order, the collected flags and the profile. -/
theorem definitionsOf_configureArguments (hnames : ∀ d ∈ c.definitions, '=' ∉ d.1.toList)
    (outDir : Path) (profile : String) :
    definitionsOf (c.configureArguments outDir profile).tail =
      [("CMAKE_INSTALL_PREFIX", outDir.text)] ++ c.definitions ++
        c.flagsDefinition "CMAKE_C_FLAGS" c.cFlags ++
        c.flagsDefinition "CMAKE_CXX_FLAGS" c.cxxFlags ++ c.profileDefinition profile := by
  rw [c.tail_configureArguments,
    definitionsOf_map_defineArgument (c.noEqualsSign_arguments hnames outDir profile)]
  simp only [collected, List.append_assoc, List.cons_append, List.nil_append]

theorem lastValue?_flagsDefinition (name other : String) (flags : List String) :
    lastValue? name (c.flagsDefinition other flags) =
      if other = name ∧ flags ≠ [] ∧ lastValue? name c.definitions = none then
        some (" ".intercalate flags)
      else none := by
  unfold flagsDefinition
  rw [isDefined_eq]
  by_cases hname : other = name
  · subst hname
    cases flags <;> cases lastValue? other c.definitions <;> simp [lastValue?_singleton]
  · cases flags <;> cases lastValue? other c.definitions <;> simp [lastValue?_singleton, hname]

theorem lastValue?_profileDefinition (name profile : String) :
    lastValue? name (c.profileDefinition profile) =
      if name = "CMAKE_BUILD_TYPE" ∧ lastValue? name c.definitions = none then some profile
      else none := by
  unfold profileDefinition
  rw [isDefined_eq]
  by_cases hname : name = "CMAKE_BUILD_TYPE"
  · subst hname
    cases lastValue? "CMAKE_BUILD_TYPE" c.definitions <;> simp [lastValue?_singleton]
  · cases lastValue? "CMAKE_BUILD_TYPE" c.definitions <;>
      simp [lastValue?_singleton, hname, Ne.symm hname]

/-- The value that a name has for CMake: a definition counts more than what is collected. -/
theorem lastValue?_configureArguments (hnames : ∀ d ∈ c.definitions, '=' ∉ d.1.toList)
    (outDir : Path) (profile name : String) :
    lastValue? name (definitionsOf (c.configureArguments outDir profile).tail) =
      (lastValue? name c.definitions).or
        (if name = "CMAKE_BUILD_TYPE" then some profile
        else if name = "CMAKE_C_FLAGS" ∧ c.cFlags ≠ [] then some (" ".intercalate c.cFlags)
        else if name = "CMAKE_CXX_FLAGS" ∧ c.cxxFlags ≠ [] then some (" ".intercalate c.cxxFlags)
        else if name = "CMAKE_INSTALL_PREFIX" then some outDir.text
        else none) := by
  rw [definitionsOf_configureArguments c hnames]
  simp only [lastValue?_append, lastValue?_flagsDefinition, lastValue?_profileDefinition,
    lastValue?_singleton]
  cases lastValue? name c.definitions with
  | some value => simp
  | none =>
    by_cases htype : name = "CMAKE_BUILD_TYPE"
    · simp [htype]
    · by_cases hc : name = "CMAKE_C_FLAGS"
      · by_cases hempty : c.cFlags = [] <;> simp [hc, hempty]
      · by_cases hcxx : name = "CMAKE_CXX_FLAGS"
        · by_cases hempty : c.cxxFlags = [] <;> simp [hcxx, hempty]
        · simp [htype, hc, hcxx, Ne.symm hc, Ne.symm hcxx, @eq_comm _ "CMAKE_INSTALL_PREFIX"]

end Config

end CrossBuild.CMake
