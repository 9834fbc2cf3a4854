-- Where a target that the options name takes its parts from: an option, or else a
-- variable, or else what is usual. The folder of the project is the exception, as
-- its variable is passed over.
import CrossBuild.CommandLine.Command
import CrossBuild.Proofs.JobRuns
import CrossBuild.Proofs.TargetDescriptions

namespace CrossBuild

/-- The two environments have the same values of the variables. An empty value counts as none. -/
def Environment.Agrees (names : List String) (env env' : Environment) : Prop :=
  ∀ name ∈ names, env.nonempty? name = env'.nonempty? name

namespace CommandLine

open Job

variable {host : Host} {env env' : Environment} {p : Parsed} {s : Session} {cwd : Path}
  {triple : String} {parsed : Triple}

/-- The variables that count for a target that the options name. -/
def countedVariables : List String :=
  ["CARGO_MANIFEST_DIR", "OUT_DIR", "HOST", "ANDROID_NDK_HOME", "BORING_BSSL_PATH",
    "BORING_BSSL_INCLUDE_PATH"]

/-- The parts of a target as the help of the options tells them. -/
structure FollowsHelp (cwd : Path) (env : Environment) (p : Parsed) (triple : String)
    (t : Target) : Prop where
  projectDir : t.projectDir =
    ((p.path? cwd "--project-root").or (env.path? "CARGO_MANIFEST_DIR")).getD cwd
  outDir : t.outDir = ((p.path? cwd "--out-dir").or (env.path? "OUT_DIR")).getD (usualOutDir cwd)
  host : t.host = (((p.value? "--host").filter (· ≠ "")).or (env.nonempty? "HOST")).getD triple

/-! ## The target that the options name -/

/-- The target of a triple that the options name. -/
def namedTarget (cwd : Path) (env : Environment) (p : Parsed) (triple : String)
    (parsed : Triple) : Target :=
  Target.described cwd triple parsed (settingsOf cwd env p)

theorem result_target_of_named (htriple : tripleOf p = some triple)
    (hparse : Triple.parse triple = .ok parsed) :
    (target cwd env p).result host s =
      if none ∈ p.values "--feature" then .error (.valueLeftOut "--feature")
      else .ok (namedTarget cwd env p triple parsed) := by
  have hnamed : targetOf cwd env p = .ok (namedTarget cwd env p triple parsed) := by
    unfold targetOf
    rw [htriple]
    exact Target.ofTriple_eq hparse
  have hget : (Job.get (targetOf cwd env p)).result host s =
      .ok (namedTarget cwd env p triple parsed) := by
    rw [hnamed]
    rfl
  unfold target
  rw [result_bind_of_ok hget, htriple]
  dsimp only [Option.isSome_some]
  by_cases hfeature : none ∈ p.values "--feature"
  · rw [if_pos hfeature, if_pos ⟨rfl, hfeature⟩]
    rfl
  · rw [if_neg hfeature, if_neg fun h => hfeature h.2]
    rfl

/-- An empty host counts as none, whether an option gives it or a variable. -/
theorem namedTarget_host : (namedTarget cwd env p triple parsed).host =
    (((p.value? "--host").filter (· ≠ "")).or (env.nonempty? "HOST")).getD triple := by
  change ((((p.value? "--host").filter (· ≠ "")).or (env.lookup "HOST")).filter (· ≠ "")).getD
    triple = _
  unfold Environment.nonempty?
  cases p.value? "--host" with
  | none => rfl
  | some name => by_cases hname : name = "" <;> simp [Option.filter_some, hname]

/-- The variable of the project's folder makes no difference. -/
theorem namedTarget_projectDir : (namedTarget cwd env p triple parsed).projectDir =
    (p.path? cwd "--project-root").getD cwd := rfl

/-- The parts are as the help says, unless it is the variable that gives the folder of the project
and this is not the current folder. -/
theorem followsHelp_namedTarget_iff :
    FollowsHelp cwd env p triple (namedTarget cwd env p triple parsed) ↔
      (p.path? cwd "--project-root" = none →
        ∀ folder ∈ env.path? "CARGO_MANIFEST_DIR", folder = cwd) := by
  constructor
  · intro h hroot folder hfolder
    have hproject := h.projectDir
    rw [namedTarget_projectDir, hroot, Option.none_or, Option.getD_none, hfolder] at hproject
    exact hproject.symm
  · intro h
    refine ⟨?_, rfl, namedTarget_host⟩
    rw [namedTarget_projectDir]
    cases hroot : p.path? cwd "--project-root" with
    | some folder => rfl
    | none =>
      cases hfolder : env.path? "CARGO_MANIFEST_DIR" with
      | none => rfl
      | some folder => exact (h hroot folder hfolder).symm

/-- Variables that do not count make no difference. -/
theorem namedTarget_congr (h : env.Agrees countedVariables env') :
    namedTarget cwd env' p triple parsed = namedTarget cwd env p triple parsed := by
  have hpath (name : String) (hname : name ∈ countedVariables) :
      env'.path? name = env.path? name := by
    unfold Environment.path?
    rw [h name hname]
  have hhost : (namedTarget cwd env' p triple parsed).host =
      (namedTarget cwd env p triple parsed).host := by
    rw [namedTarget_host, namedTarget_host, h "HOST" (by decide)]
  unfold namedTarget Target.described at hhost ⊢
  dsimp only at hhost
  rw [hhost]
  unfold settingsOf
  rw [hpath "OUT_DIR" (by decide), hpath "ANDROID_NDK_HOME" (by decide),
    hpath "BORING_BSSL_PATH" (by decide), hpath "BORING_BSSL_INCLUDE_PATH" (by decide)]

/-- A target that the options name is as their help says, and depends on nothing else in the
environment, exactly if every feature has its name, and if the folder of the project is given, or
its variable names no other folder than the current one. -/
theorem the_help_of_the_options_is_followed_iff (host : Host) (env : Environment) (p : Parsed)
    (s : Session) (htriple : tripleOf p = some triple)
    (hparse : Triple.parse triple = .ok parsed) :
    (∃ t, (target host.cwd env p).result host s = .ok t ∧
      FollowsHelp host.cwd env p triple t ∧
      ∀ env', env.Agrees countedVariables env' →
        (target host.cwd env' p).result host s = .ok t) ↔
    none ∉ p.values "--feature" ∧
      (p.path? host.cwd "--project-root" = none →
        ∀ folder ∈ env.path? "CARGO_MANIFEST_DIR", folder = host.cwd) := by
  constructor
  · rintro ⟨t, ht, hhelp, -⟩
    rw [result_target_of_named htriple hparse] at ht
    split at ht
    · cases ht
    · cases ht
      exact ⟨‹_›, followsHelp_namedTarget_iff.1 hhelp⟩
  · rintro ⟨hfeatures, hproject⟩
    refine ⟨namedTarget host.cwd env p triple parsed, ?_, followsHelp_namedTarget_iff.2 hproject,
      fun env' hagrees => ?_⟩
    · rw [result_target_of_named htriple hparse, if_neg hfeatures]
    · rw [result_target_of_named htriple hparse, if_neg hfeatures, namedTarget_congr hagrees]

/-- The options of a build for Linux, with a feature. -/
def linuxOptions : Parsed :=
  { given := [("--target", some "x86_64-unknown-linux-gnu"), ("--feature", some "ssl")] }

/-- The variables of a build in the folder of a project. -/
def projectVariables : Environment := [
  ("CARGO_MANIFEST_DIR", "/crate"), ("OUT_DIR", ""), ("HOST", "aarch64-unknown-linux-gnu")]

/-- A machine without tools, at work in the folder `/here`. -/
def elsewhere : Host := ⟨.ofString "/here", fun _ _ => .refused .noEntry⟩

/-- A folder that is given counts before that of the variable. -/
theorem a_given_project_comes_first :
    let p : Parsed := { given := linuxOptions.given ++ [("--project-root", some "project")] }
    tripleOf p = some "x86_64-unknown-linux-gnu" ∧
    Triple.parse "x86_64-unknown-linux-gnu" = .ok ⟨"x86_64", "linux", "gnu"⟩ ∧
    ∃ t, (target elsewhere.cwd projectVariables p).result elsewhere { disk := .empty } = .ok t ∧
      t.projectDir = .ofString "/here/project" ∧
      t.outDir = .ofString "/here/target/boring-build" ∧
      t.host = "aarch64-unknown-linux-gnu" := by
  intro p
  have htriple : tripleOf p = some "x86_64-unknown-linux-gnu" := by decide +kernel
  have hparse : Triple.parse "x86_64-unknown-linux-gnu" = .ok ⟨"x86_64", "linux", "gnu"⟩ := rfl
  obtain ⟨t, ht, hhelp, -⟩ := (the_help_of_the_options_is_followed_iff elsewhere projectVariables p
    { disk := .empty } htriple hparse).2 ⟨by decide +kernel, fun h => absurd h (by decide +kernel)⟩
  refine ⟨htriple, hparse, t, ht, ?_, ?_, ?_⟩
  · rw [hhelp.projectDir]
    decide +kernel
  · rw [hhelp.outDir]
    decide +kernel
  · rw [hhelp.host]
    decide +kernel

/-- Without it the folder of the variable is passed over, and the current one taken. -/
theorem the_variable_of_the_project_is_passed_over :
    tripleOf linuxOptions = some "x86_64-unknown-linux-gnu" ∧
    Triple.parse "x86_64-unknown-linux-gnu" = .ok ⟨"x86_64", "linux", "gnu"⟩ ∧
    ¬∃ t, (target elsewhere.cwd projectVariables linuxOptions).result elsewhere
        { disk := .empty } = .ok t ∧
      FollowsHelp elsewhere.cwd projectVariables linuxOptions "x86_64-unknown-linux-gnu" t ∧
      ∀ env', projectVariables.Agrees countedVariables env' →
        (target elsewhere.cwd env' linuxOptions).result elsewhere { disk := .empty } = .ok t := by
  refine ⟨by decide +kernel, rfl, fun ⟨t, ht, hhelp, _⟩ => ?_⟩
  have htaken : ((target elsewhere.cwd projectVariables linuxOptions).result elsewhere
      { disk := .empty }).toOption.map Target.projectDir = some (.ofString "/here") := by
    decide +kernel
  rw [ht] at htaken
  have htold : t.projectDir = .ofString "/crate" := hhelp.projectDir.trans (by decide +kernel)
  have hother : Path.ofString "/crate" ≠ .ofString "/here" := by decide +kernel
  exact hother (htold.symm.trans (Option.some.inj htaken))

end CommandLine

end CrossBuild
