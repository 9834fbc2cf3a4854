-- The variables that a target is read from. The reading goes through the required ones in order
-- and blames the first that is missing, empty or no word for a truth value. Besides them a few
-- optional variables count, and the names of the variables that enable features.
import CrossBuild.Proofs.TargetDescriptions

namespace CrossBuild

variable {cwd : Path} {env other : Environment} {name : String} {p : Problem}

/-! ## One required variable -/

namespace Environment

/-- The variables that every target needs, in the order in which they are read. -/
def required : List String := [
  "CARGO_CFG_TARGET_ARCH", "CARGO_CFG_TARGET_OS", "HOST", "TARGET", "DEBUG", "OPT_LEVEL", "OUT_DIR"]

/-- The environment has a value for a required variable: a nonempty one and, for `DEBUG`, a word
for a truth value. -/
def Supplies (env : Environment) (name : String) : Prop :=
  ∃ value ∈ env.lookup name, value ≠ "" ∧ (name = "DEBUG" → value = "true" ∨ value = "false")

instance (env : Environment) (name : String) : Decidable (env.Supplies name) :=
  inferInstanceAs (Decidable (∃ value ∈ env.lookup name, _))

/-- What is wrong with a required variable. -/
def fault? (env : Environment) (name : String) : Option Problem :=
  match env.lookup name with
  | none => some (.undefinedVariable name)
  | some value =>
    if value = "" then some (.undefinedVariable name)
    else if name = "DEBUG" ∧ ¬(value = "true" ∨ value = "false") then some (.unknownDebug value)
    else none

theorem fault?_eq_none_iff : env.fault? name = none ↔ env.Supplies name := by
  unfold fault? Supplies
  cases env.lookup name with
  | none => simp
  | some value =>
    by_cases hvalue : value = ""
    · simp [hvalue]
    · by_cases hdebug : name = "DEBUG" <;> simp [hvalue, hdebug, Decidable.or_iff_not_imp_left]

/-- A fault is one of the configuration, and it blames the variable that it was found in. -/
theorem blames_of_fault? (h : env.fault? name = some p) :
    p.kind = .configuration ∧ p.setting? = some name := by
  unfold fault? at h
  split at h
  · cases h
    exact ⟨rfl, rfl⟩
  · split at h
    · cases h
      exact ⟨rfl, rfl⟩
    · split at h
      · rename_i hdebug
        cases h
        exact ⟨rfl, congrArg some hdebug.1.symm⟩
      · cases h

/-! ## One reading after the other -/

/-- The value of a variable; nothing if it is not there. -/
def value (env : Environment) (name : String) : String := (env.lookup name).getD ""

/-- A reading ends with the fault of the first of the variables that has one, and with the result
if none of them has. -/
def Reads {α : Type} (env : Environment) (names : List String) (reading : Except Problem α)
    (result : α) : Prop :=
  reading =
    match names.findSome? env.fault? with
    | some problem => .error problem
    | none => .ok result

section

variable {α β : Type} {names : List String} {reading : Except Problem α} {result : α}

theorem reads_pure (result : α) : env.Reads [] (pure result) result := rfl

theorem Reads.bind {next : α → Except Problem β} {result' : β}
    (h : env.Reads [name] reading result) (hnext : env.Reads names (next result) result') :
    env.Reads (name :: names) (reading >>= next) result' := by
  unfold Reads at *
  rw [h, List.findSome?_cons, List.findSome?_cons]
  cases env.fault? name with
  | none => exact hnext
  | some problem => rfl

theorem reads_require (h : name ≠ "DEBUG") :
    env.Reads [name] (env.require name) (env.value name) := by
  unfold Reads require fault? value
  rw [List.findSome?_cons]
  cases env.lookup name with
  | none => rfl
  | some value => by_cases hvalue : value = "" <;> simp [hvalue, h]

/-- The word for a truth value is looked at before the next variable is. -/
theorem reads_debug :
    env.Reads ["DEBUG"] (env.require "DEBUG" >>= Target.parseDebug)
      (env.value "DEBUG" == "true") := by
  unfold Reads require fault? value
  rw [List.findSome?_cons]
  cases env.lookup "DEBUG" with
  | none => rfl
  | some value =>
    by_cases hempty : value = ""
    · subst hempty
      rfl
    · by_cases htrue : value = "true"
      · subst htrue
        rfl
      · by_cases hfalse : value = "false"
        · subst hfalse
          rfl
        · simp [hempty, htrue, hfalse, Target.parseDebug, bind, Except.bind]

end

/-- The target that the variables describe. -/
def target (cwd : Path) (env : Environment) : Target where
  architecture := env.value "CARGO_CFG_TARGET_ARCH"
  system := env.value "CARGO_CFG_TARGET_OS"
  host := env.value "HOST"
  triple := env.value "TARGET"
  features := .ofVariables (env.map (·.1))
  environment :=
    match env.lookup "CARGO_CFG_TARGET_ENV" with
    | some environment => environment
    | none => Triple.environmentOf (Triple.written (env.value "TARGET"))
  debugInfo := env.value "DEBUG" == "true"
  optLevel := env.value "OPT_LEVEL"
  outDir := .ofString (env.value "OUT_DIR")
  projectDir := (env.path? "CARGO_MANIFEST_DIR").getD cwd
  ndkHome := env.path? "ANDROID_NDK_HOME"
  prebuilt := env.path? "BORING_BSSL_PATH"
  headers := env.path? "BORING_BSSL_INCLUDE_PATH"

end Environment

open Environment

namespace Target

/-- The required variables are read in order, and if none of them has a fault, the target is the
one that the variables describe. -/
theorem reads_ofEnvironment (cwd : Path) (env : Environment) :
    env.Reads required (ofEnvironment cwd env) (env.target cwd) := by
  unfold ofEnvironment required
  refine (reads_require (by decide)).bind ?_
  refine (reads_require (by decide)).bind ?_
  refine (reads_require (by decide)).bind ?_
  refine (reads_require (by decide)).bind ?_
  rw [← bind_assoc]
  refine reads_debug.bind ?_
  refine (reads_require (by decide)).bind ?_
  refine (reads_require (by decide)).bind ?_
  exact reads_pure _

theorem ofEnvironment_eq_match (cwd : Path) (env : Environment) :
    ofEnvironment cwd env =
      match required.findSome? env.fault? with
      | some problem => .error problem
      | none => .ok (env.target cwd) :=
  reads_ofEnvironment cwd env

/-- A target comes from variables exactly if each required one is supplied, and it is the one that
they describe. -/
theorem ofEnvironment_eq_ok_iff {t : Target} :
    ofEnvironment cwd env = .ok t ↔
      (∀ name ∈ required, env.Supplies name) ∧ env.target cwd = t := by
  simp only [← fault?_eq_none_iff, ← List.findSome?_eq_none_iff]
  rw [ofEnvironment_eq_match]
  cases required.findSome? env.fault? <;> simp

/-- The first required variable that is not supplied is blamed for a failure. -/
theorem blames_of_ofEnvironment (h : ofEnvironment cwd env = .error p) :
    p.kind = .configuration ∧
      ∃ name, required.find? (fun name => ¬env.Supplies name) = some name ∧
        p.setting? = some name := by
  rw [ofEnvironment_eq_match] at h
  split at h
  · rename_i problem hfault
    cases h
    obtain ⟨before, name, after, hrequired, hname, hbefore⟩ := List.findSome?_eq_some_iff.1 hfault
    have hsupplied : ∀ earlier ∈ before, env.Supplies earlier :=
      fun earlier hmem => fault?_eq_none_iff.1 (hbefore earlier hmem)
    have hmissing : ¬env.Supplies name := by
      rw [← fault?_eq_none_iff, hname]
      exact Option.some_ne_none _
    refine ⟨(blames_of_fault? hname).1, name, ?_, (blames_of_fault? hname).2⟩
    rw [List.find?_eq_some_iff_append]
    refine ⟨decide_eq_true hmissing, before, after, hrequired, fun earlier hmem => ?_⟩
    simpa using hsupplied earlier hmem
  · cases h

end Target

/-! ## Other variables -/

namespace FeatureSet

/-- A variable that enables a feature: its name begins like those of features and goes on. -/
def IsVariable (key : String) : Prop :=
  Text.startsWith key variableStart = true ∧ key ≠ variableStart

instance (key : String) : Decidable (IsVariable key) := inferInstanceAs (Decidable (_ ∧ _))

theorem isVariable_of_ofVariable? {key : String} (h : ofVariable? key = some name) :
    IsVariable key := by
  unfold ofVariable? at h
  split at h
  · assumption
  · cases h

end FeatureSet

namespace Environment

/-- The variables that say more about a target, or nothing if they are not there. -/
def optional : List String := [
  "CARGO_CFG_TARGET_ENV", "CARGO_MANIFEST_DIR", "ANDROID_NDK_HOME", "BORING_BSSL_PATH",
  "BORING_BSSL_INCLUDE_PATH"]

/-- Two environments have the same values for every variable that a target is read from, and the
same variables that begin like those of features, whatever their values are. -/
structure AgreesWith (env other : Environment) : Prop where
  lookup : ∀ name ∈ required ++ optional, env.lookup name = other.lookup name
  features : ∀ key, Text.startsWith key FeatureSet.variableStart = true →
    (key ∈ env.map (·.1) ↔ key ∈ other.map (·.1))

/-- A variable that is not read makes no difference. -/
theorem agreesWith_cons {value : String} (hname : name ∉ required ++ optional)
    (hstart : Text.startsWith name FeatureSet.variableStart = false) (env : Environment) :
    env.AgreesWith ((name, value) :: env) where
  lookup other hother := by
    have hne : other ≠ name := fun heq => hname (heq ▸ hother)
    rw [List.lookup_cons, beq_eq_false_iff_ne.2 hne]
  features key hkey := by
    have hne : key ≠ name := fun heq => by simp [← heq, hkey] at hstart
    simp [hne]

theorem findSome?_fault?_congr {names : List String}
    (h : ∀ name ∈ names, env.lookup name = other.lookup name) :
    names.findSome? env.fault? = names.findSome? other.fault? := by
  induction names with
  | nil => rfl
  | cons name names ih =>
    rw [List.forall_mem_cons] at h
    have hfault : env.fault? name = other.fault? name := by
      unfold fault?
      rw [h.1]
    rw [List.findSome?_cons, List.findSome?_cons, hfault, ih h.2]

theorem AgreesWith.ofVariables_eq (h : env.AgreesWith other) :
    FeatureSet.ofVariables (env.map (·.1)) = .ofVariables (other.map (·.1)) := by
  unfold FeatureSet.ofVariables
  rw [FeatureSet.ofList_eq_iff]
  intro name
  simp only [List.mem_filterMap]
  constructor
  · rintro ⟨key, hmem, hkey⟩
    exact ⟨key, (h.features key (FeatureSet.isVariable_of_ofVariable? hkey).1).1 hmem, hkey⟩
  · rintro ⟨key, hmem, hkey⟩
    exact ⟨key, (h.features key (FeatureSet.isVariable_of_ofVariable? hkey).1).2 hmem, hkey⟩

theorem AgreesWith.target_eq (h : env.AgreesWith other) : env.target cwd = other.target cwd := by
  have hlookup := h.lookup
  simp only [required, optional, List.cons_append, List.nil_append, List.forall_mem_cons] at hlookup
  simp only [target, value, path?, nonempty?, hlookup, h.ofVariables_eq]

theorem AgreesWith.ofEnvironment_eq (h : env.AgreesWith other) :
    Target.ofEnvironment cwd env = Target.ofEnvironment cwd other := by
  rw [Target.ofEnvironment_eq_match, Target.ofEnvironment_eq_match, h.target_eq,
    findSome?_fault?_congr fun name hname => h.lookup name (List.mem_append_left _ hname)]

end Environment

namespace Target

/-- A target is read from variables exactly if each required one is there, nonempty and valid.
Otherwise the first one that is not is blamed. No other variable makes a difference, but for the
optional ones and the names of those that enable features. -/
theorem a_target_is_read_iff (cwd : Path) (env : Environment) :
    ((∃ t, ofEnvironment cwd env = .ok t) ↔ ∀ name ∈ required, env.Supplies name) ∧
      (∀ p, ofEnvironment cwd env = .error p →
        p.kind = .configuration ∧
          ∃ name, required.find? (fun name => ¬env.Supplies name) = some name ∧
            p.setting? = some name) ∧
      ∀ other, env.AgreesWith other → ofEnvironment cwd env = ofEnvironment cwd other := by
  refine ⟨?_, fun p h => blames_of_ofEnvironment h, fun other h => h.ofEnvironment_eq⟩
  simp only [ofEnvironment_eq_ok_iff, exists_and_left, exists_eq', and_true]

/-- The variables of a build with a word for no truth value, without an optimization level and
with nothing for the folder to write to. -/
def faultyVariables : Environment := [
  ("OUT_DIR", ""), ("DEBUG", "yes"), ("TARGET", "x86_64-unknown-linux-gnu"),
  ("HOST", "x86_64-unknown-linux-gnu"), ("CARGO_CFG_TARGET_OS", "linux"),
  ("CARGO_CFG_TARGET_ARCH", "x86_64")]

/-- Of three faults the first one in the order of the reading is blamed, whatever else there is
among the variables. -/
theorem the_first_fault_is_blamed :
    faultyVariables.AgreesWith (("PATH", "/usr/bin") :: faultyVariables) ∧
      ∃ p, ofEnvironment (.ofString "/") faultyVariables = .error p ∧
        ofEnvironment (.ofString "/") (("PATH", "/usr/bin") :: faultyVariables) = .error p ∧
        p.setting? = some "DEBUG" := by
  have hagrees : faultyVariables.AgreesWith (("PATH", "/usr/bin") :: faultyVariables) :=
    agreesWith_cons (by decide) (by decide) _
  obtain ⟨hread, hblame, hsame⟩ := a_target_is_read_iff (.ofString "/") faultyVariables
  have hmissing : ¬∀ name ∈ required, faultyVariables.Supplies name := by decide
  refine ⟨hagrees, ?_⟩
  rw [← hsame _ hagrees]
  cases hresult : ofEnvironment (.ofString "/") faultyVariables with
  | ok t => exact absurd (hread.1 ⟨t, hresult⟩) hmissing
  | error p =>
    obtain ⟨-, name, hfirst, hname⟩ := hblame p hresult
    have hdebug : required.find? (fun name => ¬faultyVariables.Supplies name) = some "DEBUG" := by
      decide
    exact ⟨p, rfl, rfl, hname.trans (hfirst.symm.trans hdebug)⟩

end Target

end CrossBuild
