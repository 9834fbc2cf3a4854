-- What each step of a run does, and in which order: the sources, the compilers, the
-- libraries, the directives that link them, and the bindings. Most of a script is
-- known before the step is taken; the rest, such as the compilers that are probed,
-- depends on what the tools answer.
import CrossBuild.Proofs.BuildSteps
import CrossBuild.Proofs.Scripts

namespace CrossBuild

open Job

variable {host : Host} {s : Session} {necessary : Call → Prop} {t : Target} {l : Layout}

/-- What a computation gives if it gives something, known ahead of it. -/
theorem exists_of_ok {ε α β : Type} (e : Except ε α) (f : α → β) (b : β) :
    ∃ x, ∀ a, e = .ok a → x = f a := by
  cases e with
  | error _ => exact ⟨b, nofun⟩
  | ok a => exact ⟨f a, fun a' h => by rw [Except.ok.inj h]⟩

/-! ## The sources -/

namespace Source

/-- Sources that are missing are announced and fetched. -/
def fetchScript (projectDir : Path) (source git : String) : List Event :=
  [.emitted (.warning "fetching boringssl git submodule"),
    .started (fetchCall projectDir source git)]

theorem follows_ensure {projectDir : Path} {source git : String} {fetches : Bool}
    (hfetches : fetches = true ↔
      (isPresent (projectDir / source)).result host s = .ok false) :
    Follows necessary (if fetches then fetchScript projectDir source git else [])
      (ensure projectDir source git) host s := by
  unfold ensure
  refine Follows.after_quiet (within_isPresent _) fun present hpresent => ?_
  cases present with
  | true =>
    have hnone : fetches = false := by
      rw [Bool.eq_false_iff, Ne, hfetches, hpresent]
      simp
    rw [hnone]
    exact follows_pure _
  | false =>
    rw [hfetches.2 hpresent]
    refine (follows_emit _).first fun _ _ => ?_
    refine Follows.after_start (fun e s' => ⟨within_fail _, _, result_fail _⟩) ?_ ?_
    · intro exit s' hcode
      dsimp only
      rw [if_pos hcode, fail_bind]
      exact ⟨within_fail _, _, result_fail _⟩
    · intro exit s' hcode
      dsimp only
      rw [if_neg (not_not_intro hcode)]
      exact Follows.after_quiet (within_log _ _ _) fun _ _ => follows_pure _

end Source

/-! ## The compilers -/

namespace Compilers

/-- The probes of a search through candidates: the C compilers from the first one on, and the
partner of the last one of them at most. -/
inductive Probes : List Compilers → List Call → Prop
  | nil : Probes [] []
  | last (c : Compilers) (rest : List Compilers) : Probes (c :: rest) [probe c.c]
  | pair (c : Compilers) (rest : List Compilers) : Probes (c :: rest) [probe c.c, probe c.cxx]
  | next {rest : List Compilers} {probes : List Call} (c : Compilers) (h : Probes rest probes) :
      Probes (c :: rest) (probe c.c :: probes)

theorem follows_version {tool : String} (h : ¬necessary (probe tool)) :
    Follows necessary [.started (probe tool)] (version tool) host s := by
  unfold version
  refine (follows_start h).bind fun answer _ => ?_
  cases answer with
  | error e => exact Follows.after_quiet (within_log _ _ _) fun _ _ => follows_pure _
  | ok exit =>
    dsimp only
    split
    · rw [fail_bind]
      exact follows_fail _
    · exact follows_pure _

/-- A search follows the probes of its first candidate, and then ends or goes on as a search among
the others. -/
theorem follows_select {required : String} (h : ∀ tool, ¬necessary (probe tool))
    (candidates : List Compilers) (s : Session) :
    ∃ probes, Probes candidates probes ∧
      Follows necessary (probes.map .started) (select required candidates) host s := by
  induction candidates generalizing s with
  | nil => exact ⟨[], .nil, follows_fail _⟩
  | cons c rest ih =>
    have hfirst : Follows necessary [.started (probe c.c)] (version c.c) host s :=
      follows_version (h c.c)
    rw [select]
    cases hfound : (version c.c).result host s with
    | error f =>
      refine ⟨[probe c.c], .last c rest, hfirst.first fun found h => ?_⟩
      rw [hfound] at h
      cases h
    | ok found =>
      by_cases hholds : Text.contains found required = true
      · refine ⟨[probe c.c, probe c.cxx], .pair c rest,
          hfirst.first fun found' h' => ?_⟩
        cases hfound.symm.trans h'
        rw [if_pos hholds]
        refine (follows_version (h c.cxx)).first fun partner _ => ?_
        dsimp only
        split
        · rw [fail_bind]
          exact follows_fail _
        · exact Follows.after_quiet (within_log _ _ _) fun _ _ => follows_pure _
      · cases hrest : rest.isEmpty with
        | true =>
          refine ⟨[probe c.c], .last c rest, hfirst.first fun found' h' => ?_⟩
          cases hfound.symm.trans h'
          rw [if_neg hholds, if_pos rfl]
          exact follows_fail _
        | false =>
          obtain ⟨probes, hprobes, hfollows⟩ :=
            ih (passed required found ((version c.c).left host s))
          refine ⟨probe c.c :: probes, .next c hprobes,
            hfirst.first fun found' h' => ?_⟩
          cases hfound.symm.trans h'
          rw [if_neg hholds, if_neg Bool.false_ne_true]
          dsimp only
          unfold passed at hfollows
          split
          · rename_i hne
            rw [if_pos hne] at hfollows
            exact Follows.after_quiet (within_log _ _ _) fun _ _ => hfollows
          · rename_i hne
            rw [if_neg hne] at hfollows
            exact hfollows

end Compilers

/-! ## CMake -/

namespace CMake

theorem follows_runStep {call : Call} {folder : Path} {step : String} :
    Follows necessary [.started call] (runStep call folder step) host s := by
  unfold runStep
  refine Follows.after_quiet (within_log _ _ _) fun _ _ => ?_
  refine Follows.after_start (fun e s' => ⟨within_fail _, _, result_fail _⟩) ?_ ?_
  · intro exit s' hcode
    dsimp only
    rw [if_pos hcode, fail_bind]
    exact ⟨within_fail _, _, result_fail _⟩
  · intro exit s' hcode
    dsimp only
    rw [if_neg (not_not_intro hcode)]
    split
    · exact follows_of_quiet (within_log _ _ _)
    · exact follows_pure _

/-- The calls that build a library: its tree is configured, then it is built. -/
def libraryCalls (c : Config) (library : String) (outDir : Path) (profile program : String) :
    List Call :=
  [configureCall c outDir profile program, buildCall library outDir profile program]

theorem follows_build {c : Config} {library profile program : String} {outDir : Path} :
    Follows necessary ((libraryCalls c library outDir profile program).map .started)
      (build c library outDir profile program) host s := by
  unfold build
  refine Follows.after_quiet (within_ensureFolders rfl) fun _ _ => ?_
  refine Follows.after_quiet (within_log _ _ _) fun _ _ => ?_
  exact follows_runStep.bind fun _ _ => follows_runStep

end CMake

/-! ## The native library -/

namespace Native

theorem follows_chooseCompilers (h : ∀ tool, ¬necessary (Compilers.probe tool))
    (c : CMake.Config) (s : Session) :
    ∃ probes, (if t.enables .fips then Compilers.Probes Compilers.candidates probes
        else probes = []) ∧
      Follows necessary (probes.map .started) (chooseCompilers t c) host s := by
  unfold chooseCompilers
  cases t.enables .fips with
  | true =>
    obtain ⟨probes, hprobes, hfollows⟩ :=
      Compilers.follows_select h Compilers.candidates s
    refine ⟨probes, hprobes, ?_⟩
    rw [← List.append_nil (probes.map _)]
    exact hfollows.bind fun _ _ => follows_pure _
  | false => exact ⟨[], rfl, follows_pure _⟩

/-- The calls that build the libraries of a target with a complete configuration. -/
def libraryCalls (t : Target) (l : Layout) (c : CMake.Config) (profile : String) : List Call :=
  (if t.enables .ssl then CMake.libraryCalls c "ssl" t.outDir profile l.cmake else []) ++
    CMake.libraryCalls c "crypto" t.outDir profile l.cmake

theorem follows_buildWith {c : CMake.Config} {profile : String}
    (hprofile : ∀ p, t.profile = .ok p → profile = p.name) :
    Follows necessary ((libraryCalls t l c profile).map .started) (buildWith t l c) host s := by
  unfold buildWith libraryCalls
  cases hp : t.profile with
  | error p => exact follows_fail p
  | ok p =>
    rw [hprofile p hp]
    refine Follows.after_quiet (within_get _) fun p' hp' => ?_
    cases hp'
    dsimp only
    have hcrypto (s : Session) : Follows necessary
        ((CMake.libraryCalls c "crypto" t.outDir p.name l.cmake).map .started)
        (CMake.build c "crypto" t.outDir p.name l.cmake >>= fun _ => pure t.outDir) host s := by
      rw [← List.append_nil (List.map _ _)]
      exact CMake.follows_build.bind fun _ _ => follows_pure _
    rw [List.map_append]
    split
    · exact CMake.follows_build.bind fun _ _ => hcrypto _
    · exact hcrypto s

/-- The root of a build is the output folder of its target. -/
theorem eq_outDir_of_build {root : Path} (h : (build t l).result host s = .ok root) :
    root = t.outDir := by
  have hwith {c : CMake.Config} {s' : Session} (h : (buildWith t l c).result host s' = .ok root) :
      root = t.outDir := by
    unfold buildWith at h
    obtain ⟨p, -, h⟩ := result_bind_eq_ok.1 h
    dsimp only at h
    split at h
    · obtain ⟨_, -, h⟩ := result_bind_eq_ok.1 h
      obtain ⟨_, -, h⟩ := result_bind_eq_ok.1 h
      exact (Except.ok.inj h).symm
    · obtain ⟨_, -, h⟩ := result_bind_eq_ok.1 h
      exact (Except.ok.inj h).symm
  rw [build_eq] at h
  obtain ⟨_, -, h⟩ := result_bind_eq_ok.1 h
  obtain ⟨_, -, h⟩ := result_bind_eq_ok.1 h
  obtain ⟨_, -, h⟩ := result_bind_eq_ok.1 h
  exact hwith h

/-- The script of a build: the sources, the compilers and the libraries. -/
def script (t : Target) (l : Layout) (fetches : Bool) (probes : List Call) (c : CMake.Config)
    (profile : String) : List Event :=
  (if fetches then Source.fetchScript t.projectDir (l.sourceName (t.enables .fips)) l.git
    else []) ++
    (probes ++ libraryCalls t l c profile).map .started

theorem follows_build {fetches : Bool} {profile : String}
    (hfetches : fetches = true ↔
      (Source.isPresent (sourceDir t l)).result host s = .ok false)
    (hprofile : ∀ p, t.profile = .ok p → profile = p.name)
    (hprobe : ∀ tool, ¬necessary (Compilers.probe tool)) :
    ∃ probes c, (if t.enables .fips then Compilers.Probes Compilers.candidates probes
        else probes = []) ∧ IsComplete t l c ∧
      Follows necessary (script t l fetches probes c profile) (build t l) host s := by
  let s' := (config t l).left host
    ((Source.ensure t.projectDir (l.sourceName (t.enables .fips)) l.git).left host s)
  have hexists : ∃ probes, (if t.enables .fips then
        Compilers.Probes Compilers.candidates probes else probes = []) ∧
      Follows necessary (probes.map .started)
        (chooseCompilers t (withFuzzing t (configFor t l))) host s' :=
    follows_chooseCompilers hprobe _ s'
  obtain ⟨probes, hprobes, hchoice⟩ := hexists
  obtain ⟨c, hcomplete, hc⟩ : ∃ c, IsComplete t l c ∧
      ∀ c', (chooseCompilers t (withFuzzing t (configFor t l))).result host s' = .ok c' →
        c' = c := by
    cases hresult : (chooseCompilers t (withFuzzing t (configFor t l))).result host s' with
    | error f => exact ⟨_, Or.inl rfl, nofun⟩
    | ok c => exact ⟨c, isComplete_of_chooseCompilers hresult, fun c' h => (Except.ok.inj h).symm⟩
  refine ⟨probes, c, hprobes, hcomplete, ?_⟩
  rw [build_eq, script, List.map_append]
  refine (Source.follows_ensure hfetches).bind fun _ _ => ?_
  refine Follows.after_quiet (within_config _ t l) fun c₀ hc₀ => ?_
  rw [eq_configFor hc₀]
  refine hchoice.bind fun c' hc' => ?_
  rw [hc c' hc']
  exact follows_buildWith hprofile

end Native

/-! ## Linking -/

namespace Link

/-- The directives by which the folders of the libraries under a root are searched. -/
def searchDirectives (root : Path) (subdir : String) : List Directive :=
  libraries.map fun library => .linkSearch (root / "build" / library / subdir).text

/-- The directives that link the libraries under a root, with files in the given folder. -/
def linkDirectives (root : Path) (subdir : String) (t : Target) : List Directive :=
  searchDirectives root subdir ++ [.linkStatic "crypto"] ++
  (if t.enables .ssl then [.linkStatic "ssl"] else []) ++
  (if t.platform = .macos then [.cdylibLinkArg "-Wl,-undefined,dynamic_lookup"] else [])

theorem follows_emit {root : Path} {subdir : String}
    (hsubdir : ∀ d, outputSubdir t = .ok d → subdir = d) :
    Follows necessary ((linkDirectives root subdir t).map .emitted) (emit root t) host s := by
  unfold emit
  cases hd : outputSubdir t with
  | error p =>
    have hartifacts : artifacts root t = .error p := by
      unfold artifacts
      rw [hd]
      rfl
    rw [hartifacts]
    exact follows_fail p
  | ok d =>
    have hartifacts : artifacts root t =
        .ok ⟨libraries.map fun library => root / "build" / library / d, d⟩ := by
      unfold artifacts
      rw [hd]
      rfl
    rw [hartifacts, hsubdir d hd, ← List.append_nil (List.map _ _)]
    refine Follows.after_quiet (within_get _) fun a ha => ?_
    cases ha
    exact (follows_forM_emit _).bind fun _ _ => follows_pure _

end Link

/-! ## The bindings -/

namespace Bindings

/-- The search for the SDK of an Apple target. -/
def sdkCalls (t : Target) (l : Layout) (sdk : String) : List Call :=
  if t.platform = .ios ∨ t.platform = .macos then [sdkCall sdk l.xcrun] else []

theorem follows_sysrootArguments {sdk : String}
    (hsdk : ∀ name, appleSdk t.triple = .ok name → sdk = name)
    (h : ¬necessary (sdkCall sdk l.xcrun)) :
    Follows necessary ((sdkCalls t l sdk).map .started) (sysrootArguments t l) host s := by
  unfold sysrootArguments sdkCalls
  cases t.platform with
  | ios | macos =>
    cases hname : appleSdk t.triple with
    | error p => exact follows_fail p
    | ok name =>
      rw [← hsdk name hname]
      refine Follows.after_quiet (within_get _) fun name' hname' => ?_
      cases hname'
      rw [appleSysroot_eq, bind_assoc]
      refine (follows_start h).first fun answer _ => follows_of_quiet ?_
      refine Within.bind (within_sysrootOf _ answer) fun sysroot _ => ?_
      cases sysroot <;> exact within_pure _
  | android =>
    refine follows_of_quiet (Within.bind (within_get _) fun home _ => ?_)
    exact Within.bind (within_locate _ _) fun toolchain _ => within_pure _
  | wasi | windows | linux | other => exact follows_pure _

theorem follows_getReady {root : Path} {script : List Event}
    (h : Follows necessary script (sysrootArguments t l) host s) :
    Follows necessary script (getReady t l root) host s := by
  unfold getReady
  refine Follows.after_quiet (within_ofExcept _) fun temporary _ => ?_
  rw [left_ofExcept, ← List.append_nil script]
  have hcall : Follows necessary script (call t l root temporary) host s := by
    rw [← List.append_nil script]
    exact h.bind fun _ _ => follows_pure _
  refine hcall.bind fun call _ => follows_of_quiet ?_
  refine Within.bind (within_log _ _ _) fun _ _ => ?_
  refine Within.bind (within_log _ _ _) fun _ _ => ?_
  exact Within.bind (within_ensureFolders rfl) fun _ _ => within_pure _

theorem follows_publish {temporary : Path} {c : Call} :
    Follows necessary [.started c] (start c >>= publish t l temporary c) host s := by
  have hremoves (p : Problem) (s' : Session) :
      GivesUp (removeFile temporary >>= fun _ => (fail p : Job Path)) host s' :=
    ⟨Within.bind (within_removeFile rfl) fun _ _ => within_fail p, exists_result_bind_fail _ p⟩
  refine Follows.after_start (fun e s' => hremoves _ s') ?_ ?_
  · intro exit s' hcode
    unfold publish
    dsimp only
    rw [if_pos hcode]
    simp only [fail_bind]
    exact hremoves _ s'
  · intro exit s' hcode
    unfold publish
    dsimp only
    rw [if_neg (not_not_intro hcode)]
    refine Follows.after_quiet (within_isPresent _) fun present _ => ?_
    split
    · rw [fail_bind]
      exact follows_fail _
    · refine follows_of_quiet ?_
      exact Within.bind (within_rename rfl) fun _ _ => within_pure _

theorem follows_generate {root temporary : Path} {sdk : String} {sysroot : List String}
    (htemporary : ∀ path, temporaryPath (outputPath t l) = .ok path → temporary = path)
    (hsdk : ∀ name, appleSdk t.triple = .ok name → sdk = name)
    (hsysroot : ∀ arguments, (sysrootArguments t l).result host s = .ok arguments →
      sysroot = arguments)
    (h : ¬necessary (sdkCall sdk l.xcrun)) :
    Follows necessary
      ((sdkCalls t l sdk ++ [generatorCall t l root temporary sysroot]).map .started)
      (generate t l root) host s := by
  rw [generate_eq_publish, List.map_append]
  refine (follows_getReady (follows_sysrootArguments hsdk h)).bind fun r hr => ?_
  obtain ⟨path, c⟩ := r
  obtain ⟨hpath, arguments, harguments, rfl⟩ := eq_of_getReady hr
  rw [htemporary path hpath, hsysroot arguments harguments]
  exact follows_publish

end Bindings

end CrossBuild
