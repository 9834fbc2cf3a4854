-- The order of a whole run. The scripts of its steps, one after the other, are its
-- plan, and the run does a first part of it: directives and tools come in one order
-- only, and none of them after a tool has failed that the run can not do without.
import CrossBuild.Proofs.StepScripts

namespace CrossBuild

open Job

variable {host : Host} {s : Session} {necessary : Call → Prop} {t : Target} {l : Layout}

namespace Pipeline

/-- The directives that come before all else. The NDK counts only in cross builds. -/
def firstDirectives (t : Target) : List Directive :=
  prebuiltVariable :: if t.platform = .android ∧ t.isCross then [ndkVariable] else []

end Pipeline

/-! ## The plan of a run -/

/-- What a run comes upon on its way: missing sources, compilers to be probed, a configuration,
system headers. -/
structure Plan where
  fetches : Bool
  probes : List Call
  config : CMake.Config
  profile : String
  subdir : String
  sdk : String
  sysroot : List String
  temporary : Path

namespace Plan

/-- The directives of a run, in order. -/
def directives (p : Plan) (t : Target) : List Directive :=
  [.rerunIfEnvChanged "BORING_BSSL_PATH"] ++
  (if t.platform = .android ∧ t.isCross then [.rerunIfEnvChanged "ANDROID_NDK_HOME"] else []) ++
  (if p.fetches then [.warning "fetching boringssl git submodule"] else []) ++
  Link.linkDirectives (t.prebuilt.getD t.outDir) p.subdir t ++
  [.rerunIfEnvChanged "BORING_BSSL_INCLUDE_PATH"]

/-- The calls of the native build: git, the probes, and two calls for each library. -/
def nativeCalls (p : Plan) (t : Target) (l : Layout) : List Call :=
  (if p.fetches then
    [Source.fetchCall t.projectDir (l.sourceName (t.enables .fips)) l.git] else []) ++
  p.probes ++ Native.libraryCalls t l p.config p.profile

/-- The calls that the bindings need. -/
def bindingCalls (p : Plan) (t : Target) (l : Layout) : List Call :=
  Bindings.sdkCalls t l p.sdk ++ [Bindings.generatorCall t l
    (Bindings.headerRoot t (Native.sourceDir t l)) p.temporary p.sysroot]

/-- The calls of a run, in order. A library that has been built needs no native build. -/
def calls (p : Plan) (t : Target) (l : Layout) : List Call :=
  (if t.prebuilt.isSome then [] else p.nativeCalls t l) ++ p.bindingCalls t l

/-- The directives and the calls of a run as they come after each other: the native build is
done before anything is linked. -/
def script (p : Plan) (t : Target) (l : Layout) : List Event :=
  (Pipeline.firstDirectives t).map .emitted ++
  (if t.prebuilt.isSome then [] else
    Native.script t l p.fetches p.probes p.config p.profile) ++
  (Link.linkDirectives (t.prebuilt.getD t.outDir) p.subdir t ++
    [Pipeline.headersVariable]).map .emitted ++
  (p.bindingCalls t l).map .started

/-- The plan is that of the run from a session on. -/
structure Fits (host : Host) (s : Session) (t : Target) (l : Layout) (p : Plan) : Prop where
  fetches : p.fetches = true ↔ t.prebuilt = none ∧
    (Job.isPresent (Native.sourceDir t l / "CMakeLists.txt")).result host
      ((Pipeline.prepare t l).left host s) = .ok false
  probes : if t.enables .fips then Compilers.Probes Compilers.candidates p.probes
    else p.probes = []
  config : Native.IsComplete t l p.config
  profile : ∀ profile, t.profile = .ok profile → p.profile = profile.name
  subdir : ∀ subdir, Link.outputSubdir t = .ok subdir → p.subdir = subdir
  sdk : ∀ sdk, appleSdk t.triple = .ok sdk → p.sdk = sdk
  temporary : ∀ path, Bindings.temporaryPath (Bindings.outputPath t l) = .ok path →
    p.temporary = path

theorem Fits.directivesOf_script {p : Plan} (h : p.Fits host s t l) :
    directivesOf (p.script t l) = p.directives t := by
  have hnative : directivesOf (if t.prebuilt.isSome then [] else
      Native.script t l p.fetches p.probes p.config p.profile) =
      if p.fetches then [.warning "fetching boringssl git submodule"] else [] := by
    cases hprebuilt : t.prebuilt with
    | some root =>
      have hfetches : p.fetches = false := by
        rw [Bool.eq_false_iff, Ne, h.fetches, hprebuilt]
        simp
      rw [hfetches]
      rfl
    | none =>
      unfold Native.script
      rw [Option.isSome_none, if_neg Bool.false_ne_true, directivesOf_append,
        directivesOf_map_started, List.append_nil]
      cases p.fetches <;> rfl
  unfold script directives
  simp only [directivesOf_append, directivesOf_map_emitted, directivesOf_map_started, hnative,
    List.append_assoc, List.append_nil]
  rfl

theorem callsOf_script (p : Plan) (t : Target) (l : Layout) :
    callsOf (p.script t l) = p.calls t l := by
  unfold script calls nativeCalls
  simp only [callsOf_append, callsOf_map_emitted, callsOf_map_started, List.nil_append,
    List.append_nil]
  congr 1
  cases t.prebuilt with
  | some root => rfl
  | none =>
    unfold Native.script
    rw [Option.isSome_none, if_neg Bool.false_ne_true, if_neg Bool.false_ne_true, callsOf_append,
      callsOf_map_started, ← List.append_assoc]
    cases p.fetches <;> rfl

end Plan

namespace Pipeline

theorem follows_prepare :
    Follows necessary ((firstDirectives t).map .emitted) (prepare t l) host s := by
  unfold prepare firstDirectives
  refine Follows.after_quiet (within_removeFile rfl) fun _ _ => ?_
  refine (follows_emit _).first fun _ _ => ?_
  split
  · exact follows_emit _
  · exact follows_pure _

theorem follows_link {native : List Event} {subdir : String}
    (hbuild : t.prebuilt = none → Follows necessary native (Native.build t l) host s)
    (hsubdir : ∀ d, Link.outputSubdir t = .ok d → subdir = d) :
    Follows necessary ((if t.prebuilt.isSome then [] else native) ++
      (Link.linkDirectives (t.prebuilt.getD t.outDir) subdir t ++ [headersVariable]).map .emitted)
      (link t l) host s := by
  have hlink (root : Path) (s : Session) : Follows necessary
      ((Link.linkDirectives root subdir t ++ [headersVariable]).map .emitted)
      (Link.emit root t >>= fun _ => emit headersVariable) host s := by
    rw [List.map_append]
    exact (Link.follows_emit hsubdir).bind fun _ _ => follows_emit _
  unfold link buildRoot
  cases hprebuilt : t.prebuilt with
  | some root =>
    simp only [bind_assoc, pure_bind]
    exact Follows.after_quiet (within_log _ _ _) fun _ _ => hlink root _
  | none =>
    refine (hbuild hprebuilt).bind fun root hroot => ?_
    rw [Native.eq_outDir_of_build hroot]
    exact hlink _ _

/-! ## The tools that a run can not do without -/

/-- The calls that a run can not do without: git, the two steps of CMake, and the generator. -/
inductive Necessary (t : Target) (l : Layout) : Call → Prop
  | fetch : Necessary t l
      (Source.fetchCall t.projectDir (l.sourceName (t.enables .fips)) l.git)
  | configure (c : CMake.Config) (profile : String) : Necessary t l
      (CMake.configureCall c t.outDir profile l.cmake)
  | build (library profile : String) : Necessary t l
      (CMake.buildCall library t.outDir profile l.cmake)
  | generate (root output : Path) (sysroot : List String) : Necessary t l
      (Bindings.generatorCall t l root output sysroot)

/-- No other call has a second argument like that of a necessary one. -/
theorem Necessary.exists_second {call : Call} (h : Necessary t l call) :
    ∃ argument, call.arguments[1]? = some argument ∧ argument ≠ "--sdk" := by
  cases h with
  | fetch => exact ⟨"update", rfl, by decide⟩
  | configure c profile =>
    refine ⟨_, rfl, fun hsdk => ?_⟩
    have hchars := congrArg String.toList hsdk
    simp [CMake.Config.defineArgument] at hchars
  | build library profile => exact ⟨".", rfl, by decide⟩
  | generate root output sysroot => exact ⟨"--with-derive-eq", rfl, by decide⟩

theorem not_necessary_probe (tool : String) : ¬Necessary t l (Compilers.probe tool) := by
  intro h
  obtain ⟨argument, hargument, -⟩ := h.exists_second
  cases hargument

theorem not_necessary_sdkCall (sdk : String) : ¬Necessary t l (Bindings.sdkCall sdk l.xcrun) := by
  intro h
  obtain ⟨argument, hargument, hne⟩ := h.exists_second
  exact hne (Option.some.inj hargument).symm

/-! ## The run -/

/-- Every run has a plan that it follows. -/
theorem exists_follows_run (host : Host) (s : Session) (t : Target) (l : Layout) :
    ∃ p : Plan, p.Fits host s t l ∧
      Follows (Necessary t l) (p.script t l) (run t l) host s := by
  let s₁ := (prepare t l).left host s
  let s₂ := (link t l).left host s₁
  obtain ⟨missing, hmissing⟩ : ∃ missing : Bool, missing = true ↔
      (Source.isPresent (Native.sourceDir t l)).result host s₁ = .ok false := by
    classical exact ⟨_, decide_eq_true_iff⟩
  obtain ⟨profile, hprofile⟩ := exists_of_ok t.profile Profile.name ""
  obtain ⟨subdir, hsubdir⟩ := exists_of_ok (Link.outputSubdir t) id ""
  obtain ⟨sdk, hsdkName⟩ := exists_of_ok (appleSdk t.triple) id ""
  obtain ⟨temporary, htemporary⟩ :=
    exists_of_ok (Bindings.temporaryPath (Bindings.outputPath t l)) id .here
  obtain ⟨probes, c, hprobes, hcomplete, hbuild⟩ :=
    Native.follows_build hmissing hprofile not_necessary_probe
  obtain ⟨sysroot, hsysroot⟩ := exists_of_ok ((Bindings.sysrootArguments t l).result host s₂) id []
  have hgenerate : Follows (Necessary t l)
      ((Bindings.sdkCalls t l sdk ++ [Bindings.generatorCall t l
        (Bindings.headerRoot t (Native.sourceDir t l)) temporary sysroot]).map .started)
      (Bindings.generate t l (Bindings.headerRoot t (Native.sourceDir t l))) host s₂ :=
    Bindings.follows_generate htemporary hsdkName hsysroot (not_necessary_sdkCall sdk)
  let p : Plan :=
    ⟨missing && t.prebuilt.isNone, probes, c, profile, subdir, sdk, sysroot, temporary⟩
  refine ⟨p, ⟨?_, hprobes, hcomplete, hprofile, hsubdir, hsdkName, htemporary⟩, ?_⟩
  · rw [Bool.and_eq_true, hmissing, Option.isNone_iff_eq_none, and_comm]
    rfl
  · have hnative (h : t.prebuilt = none) : Follows (Necessary t l)
        (Native.script t l p.fetches probes c profile) (Native.build t l) host s₁ := by
      have hfetches : p.fetches = missing := by simp [p, h]
      rw [hfetches]
      exact hbuild
    unfold run Plan.script
    rw [List.append_assoc, List.append_assoc]
    refine follows_prepare.bind fun _ _ => ?_
    rw [← List.append_assoc]
    exact (follows_link hnative hsubdir).bind fun _ _ => hgenerate

variable {p : Plan}

theorem directivesOf_run (hfits : p.Fits host s t l)
    (hfollows : Follows necessary (p.script t l) (run t l) host s) :
    directivesOf ((run t l).events host s) <+: p.directives t := by
  rw [← directivesOf_effectsOf, ← hfits.directivesOf_script, directivesOf_eq, directivesOf_eq]
  exact hfollows.effects.filterMap _

/-- A run that succeeds gets to the end of its plan. -/
theorem eq_of_run_ok {path : Path} (hfits : p.Fits host s t l)
    (hfollows : Follows necessary (p.script t l) (run t l) host s)
    (hpath : (run t l).result host s = .ok path) :
    directivesOf ((run t l).events host s) = p.directives t ∧
      callsOf ((run t l).events host s) = p.calls t l := by
  have heffects := hfollows.complete path hpath
  rw [← directivesOf_effectsOf, ← callsOf_effectsOf, heffects]
  exact ⟨hfits.directivesOf_script, p.callsOf_script t l⟩

/-- Before anything is linked there is no directive that links. -/
theorem isLink_eq_false_of_mem {d : Directive}
    (h : .emitted d ∈ (firstDirectives t).map Event.emitted ++
      (if t.prebuilt.isSome then [] else
        Native.script t l p.fetches p.probes p.config p.profile)) : d.isLink = false := by
  rcases List.mem_append.1 h with h | h
  · have hd : d ∈ firstDirectives t := by simpa using h
    have hvariable (name : String) : (Directive.rerunIfEnvChanged name).isLink = false := rfl
    rcases List.mem_cons.1 hd with rfl | hd
    · exact hvariable _
    · split at hd
      · exact List.mem_singleton.1 hd ▸ hvariable _
      · cases hd
  · split at h
    · cases h
    · rcases List.mem_append.1 h with h | h
      · split at h
        · simp only [Source.fetchScript, List.mem_cons, List.not_mem_nil, or_false,
            reduceCtorEq, Event.emitted.injEq] at h
          rw [h]
          rfl
        · cases h
      · simp at h

/-- What comes after a directive that links are calls for the bindings. -/
theorem mem_bindingCalls_of_isLink {before after rest : List Event} {d : Directive}
    (h : before ++ .emitted d :: (after ++ rest) = p.script t l) (hd : d.isLink = true) :
    ∀ call ∈ callsOf after, call ∈ p.bindingCalls t l := by
  have hnot : .emitted d ∉ (firstDirectives t).map Event.emitted ++
      (if t.prebuilt.isSome then [] else
        Native.script t l p.fetches p.probes p.config p.profile) := by
    intro hmem
    rw [isLink_eq_false_of_mem hmem] at hd
    cases hd
  rw [eq_comm, Plan.script, List.append_assoc] at h
  obtain ⟨-, linked, hlinked⟩ := exists_eq_append_of_not_mem h hnot
  rw [hlinked, List.append_assoc _ linked] at h
  have hcalls := congrArg callsOf (List.append_cancel_left h)
  rw [callsOf_append, callsOf_map_emitted, callsOf_map_started, List.nil_append] at hcalls
  intro call hcall
  rw [hcalls, callsOf_append, ← List.singleton_append, callsOf_append, callsOf_append]
  exact List.mem_append_right _ (List.mem_append_right _ (List.mem_append_left _ hcall))

/-- Directives and calls come in the order of the plan, and all of them if the run succeeds.
Nothing of the native build comes after a directive that links. Once a necessary tool has failed
nothing more is started and no directive is emitted. -/
theorem a_run_goes_by_its_plan (host : Host) (s : Session) (t : Target) (l : Layout) :
    ∃ p : Plan, p.Fits host s t l ∧
      directivesOf ((run t l).events host s) <+: p.directives t ∧
      callsOf ((run t l).events host s) <+: p.calls t l ∧
      (∀ path, (run t l).result host s = .ok path →
        directivesOf ((run t l).events host s) = p.directives t ∧
        callsOf ((run t l).events host s) = p.calls t l) ∧
      (∀ before d after, (run t l).events host s = before ++ .emitted d :: after →
        d.isLink = true → ∀ call ∈ callsOf after, call ∈ p.bindingCalls t l) ∧
      ∀ before call after, (run t l).events host s = before ++ .started call :: after →
        Necessary t l call →
        (host.tools (callsOf s.log ++ callsOf before) call).isFailure = true →
          callsOf after = [] ∧ directivesOf after = [] ∧
          ∃ f, (run t l).result host s = .error f := by
  obtain ⟨p, hfits, hfollows⟩ := exists_follows_run host s t l
  refine ⟨p, hfits, directivesOf_run hfits hfollows, ?_,
    fun path hpath => eq_of_run_ok hfits hfollows hpath, ?_, ?_⟩
  · rw [← callsOf_effectsOf, ← p.callsOf_script, callsOf_eq, callsOf_eq]
    exact hfollows.effects.filterMap _
  · intro before d after hsplit hd
    obtain ⟨rest, hrest⟩ := hfollows.effects
    rw [hsplit, effectsOf_append, List.append_assoc] at hrest
    rw [← callsOf_effectsOf]
    exact mem_bindingCalls_of_isLink hrest hd
  · intro before call after hsplit hnecessary hfailure
    obtain ⟨hafter, hfailed⟩ := hfollows.stops before call after hsplit hnecessary hfailure
    rw [← callsOf_effectsOf after, ← directivesOf_effectsOf after, hafter]
    exact ⟨rfl, rfl, hfailed⟩

end Pipeline

end CrossBuild
