-- What becomes of a run when one of its tools fails. The first tool that ends badly ends the run
-- with a report on it. Only the removal of what the generator has left can come in between.
import CrossBuild.Proofs.ToolReports
import CrossBuild.Proofs.UnreportedFailures

namespace CrossBuild

open Job

variable {host : Host} {s : Session} {t : Target} {l : Layout}

/-! ## The native library -/

namespace Source

variable {projectDir : Path} {source git : String}

/-- Sources that can not be fetched are reported with what git has written. -/
theorem result_ensure_of_failed {s' : Session} {exit : Exit}
    (hmissing : (isPresent (projectDir / source)).result host s = .ok false)
    (hannounced : Yields announceFetch host s () s')
    (hanswer : (Job.start (fetchCall projectDir source git)).result host s' = .ok (.ok exit))
    (hcode : exit.code ≠ 0) :
    (ensure projectDir source git).result host s =
      .error (.problem (.fetchFailed source exit.code exit.stderr)) := by
  have hleft : (isPresent (projectDir / source)).left host s = s := left_isPresent _
  unfold ensure
  rw [result_bind_of_ok hmissing, hleft, if_neg Bool.false_ne_true]
  refine (hannounced.result_bind _).trans ?_
  refine (result_bind_of_ok hanswer _).trans ?_
  dsimp only
  rw [if_pos hcode]
  rfl

end Source

namespace Compilers

variable {required : String}

theorem result_version_of_failed {tool : String} {exit : Exit}
    (hanswer : (Job.start (probe tool)).result host s = .ok (.ok exit)) (hcode : exit.code ≠ 0) :
    (version tool).result host s =
      .error (.problem (.probeFailed tool exit.code exit.stderr)) := by
  unfold version
  refine (result_bind_of_ok hanswer _).trans ?_
  dsimp only
  rw [if_pos hcode]
  rfl

/-- A compiler that ends badly ends the search, whichever of them it is. -/
theorem Asks.result_select {candidates : List Compilers} {tool : String} {s' : Session}
    {exit : Exit} (h : Asks required host candidates s tool s')
    (hanswer : (Job.start (probe tool)).result host s' = .ok (.ok exit)) (hcode : exit.code ≠ 0) :
    (select required candidates).result host s =
      .error (.problem (.probeFailed tool exit.code exit.stderr)) := by
  induction h with
  | first c rest s =>
    rw [select]
    exact result_bind_of_error (result_version_of_failed hanswer hcode) _
  | partner rest hfound hholds =>
    rw [select, hfound.result_bind, if_pos hholds]
    exact result_bind_of_error (result_version_of_failed hanswer hcode) _
  | @later c rest s s₁ s' found tool hfound hother hasks ih =>
    have hrest : rest ≠ [] := by
      rintro rfl
      cases hasks
    obtain ⟨hfound, rfl⟩ := hfound
    rw [(select_of_passed hfound hother hrest).1]
    exact ih hanswer

end Compilers

namespace CMake

variable {c : Config} {target profile program : String} {outDir : Path}

theorem result_runStep_of_failed {call : Call} {folder : Path} {s' : Session} {exit : Exit}
    (hannounced : Yields (announce call folder) host s () s')
    (hanswer : (Job.start call).result host s' = .ok (.ok exit)) (hcode : exit.code ≠ 0)
    (step : String) :
    (runStep call folder step).result host s =
      .error (.problem
        (.cmakeFailed call.program step exit.code (exit.stdout ++ exit.stderr))) := by
  unfold runStep
  refine (hannounced.result_bind _).trans ?_
  rw [result_bind_of_ok hanswer]
  dsimp only
  rw [if_pos hcode]
  rfl

/-- No call of CMake fetches sources. -/
theorem Starts.isFetch_eq_false {call : Call} {s' : Session}
    (h : Starts host c target outDir profile program s call s') : call.isFetch = false := by
  cases h with
  | configure => simpa using not_isFetch_configureCall
  | build => rfl

/-- A call of CMake that ends badly ends the build. -/
theorem Starts.result_build {call : Call} {s' : Session} {exit : Exit}
    (h : Starts host c target outDir profile program s call s')
    (hanswer : (Job.start call).result host s' = .ok (.ok exit)) (hcode : exit.code ≠ 0) :
    ∃ step, (CMake.build c target outDir profile program).result host s =
      .error (.problem
        (.cmakeFailed call.program step exit.code (exit.stdout ++ exit.stderr))) := by
  rw [build_eq_enter]
  cases h with
  | configure hentered hannounced =>
    refine ⟨"configure", ?_⟩
    rw [hentered.result_bind]
    exact result_bind_of_error (result_runStep_of_failed hannounced hanswer hcode _) _
  | build hentered hconfigured hannounced =>
    refine ⟨"build --target " ++ target, ?_⟩
    rw [hentered.result_bind, hconfigured.result_bind]
    exact result_runStep_of_failed hannounced hanswer hcode _

end CMake

namespace Native

variable {c : CMake.Config} {p : Profile}

theorem chooseCompilers_of_error {f : Failure} (hfips : t.enables .fips = true)
    (h : (Compilers.select Compilers.requiredVersion Compilers.candidates).result host s = .error f)
    (c : CMake.Config) : (chooseCompilers t c).result host s = .error f := by
  unfold chooseCompilers
  rw [if_pos hfips]
  exact result_bind_of_error h _

/-- No tool of the native build is the generator. -/
theorem Starts.isGenerate_eq_false {call : Call} {s' : Session} (h : Starts host s t l call s') :
    call.isGenerate = false := by
  have hcmake {c : CMake.Config} {target profile : String} {s s' : Session}
      (h : CMake.Starts host c target t.outDir profile l.cmake s call s') :
      call.isGenerate = false := by
    rw [Bool.eq_false_iff]
    intro hgenerate
    have hsecond := Call.second_of_isGenerate hgenerate
    cases h with
    | configure =>
      have hchars := congrArg String.toList (Option.some.inj hsecond)
      simp [CMake.Config.defineArgument] at hchars
    | build => exact absurd (Option.some.inj hsecond) (by decide)
  cases h with
  | fetch | probe => rfl
  | optional _ _ _ hstarts | library _ _ _ hstarts => exact hcmake hstarts

/-- A tool of the native build that ends badly ends the build, and the problem tells of it. -/
theorem Starts.result_build {call : Call} {s' : Session} {exit : Exit}
    (h : Starts host s t l call s')
    (hanswer : (Job.start call).result host s' = .ok (.ok exit)) (hcode : exit.code ≠ 0) :
    ∃ p, (build t l).result host s = .error (.problem p) ∧ p.TellsOf call exit := by
  rw [build_eq_configured]
  cases h with
  | fetch hmissing hannounced =>
    refine ⟨_, ?_, Problem.tellsOf_fetchFailed rfl (l.sourceName (t.enables .fips))⟩
    have hensure := Source.result_ensure_of_failed hmissing hannounced hanswer hcode
    exact result_bind_of_error (result_bind_of_error hensure _) _
  | probe hfetched hconfig hfips hasks =>
    refine ⟨_, ?_, Problem.tellsOf_probeFailed rfl⟩
    refine result_bind_of_error ?_ _
    unfold configured
    rw [hfetched.result_bind, hconfig.result_bind]
    exact chooseCompilers_of_error hfips (hasks.result_select hanswer hcode) _
  | optional hconfigured hprofile hssl hstarts =>
    obtain ⟨step, hbuild⟩ := hstarts.result_build hanswer hcode
    refine ⟨_, ?_, Problem.tellsOf_cmakeFailed hstarts.isFetch_eq_false step⟩
    rw [hconfigured.result_bind, buildWith_eq hprofile]
    refine result_bind_of_error ?_ _
    unfold buildOptional
    rw [if_pos hssl]
    exact hbuild
  | library hconfigured hprofile hbuilt hstarts =>
    obtain ⟨step, hbuild⟩ := hstarts.result_build hanswer hcode
    refine ⟨_, ?_, Problem.tellsOf_cmakeFailed hstarts.isFetch_eq_false step⟩
    rw [hconfigured.result_bind, buildWith_eq hprofile, hbuilt.result_bind]
    exact result_bind_of_error hbuild _

end Native

/-! ## The bindings -/

namespace Bindings

variable {root temporary : Path} {c : Call}

/-- A generator that ends badly is reported once the temporary file has been removed. -/
theorem result_generate_of_failed {s' : Session} {exit : Exit}
    (hready : Yields (getReady t l root) host s (temporary, c) s')
    (hanswer : (Job.start c).result host s' = .ok (.ok exit)) (hcode : exit.code ≠ 0) :
    (generate t l root).result host s =
      (removeFile temporary >>= fun _ => (Job.fail (.bindgenFailed c.program exit.code
        (if exit.stderr ≠ "" then exit.stderr else exit.stdout)) : Job Path)).result host
          ((Job.start c).left host s') := by
  rw [generate_eq_publish, hready.result_bind, result_bind_of_ok hanswer]
  unfold publish
  dsimp only
  rw [if_pos hcode]
  rfl

end Bindings

/-! ## The run -/

/-- A line that is written is found in the text that is written. -/
theorem CommandLine.contains_textOf {line : String} {lines : List String} (h : line ∈ lines) :
    Text.contains (textOf lines) line = true := by
  obtain ⟨before, after, rfl⟩ := List.append_of_mem h
  rw [Text.contains_iff, toList_textOf, List.map_append, List.map_cons, List.flatMap_append,
    List.flatMap_cons, List.append_assoc]
  exact List.infix_append_of_infix_right (List.prefix_append _ _).isInfix

namespace Pipeline

theorem result_run_of_prepared {s₁ : Session} {f : Failure}
    (hprepared : Yields (prepare t l) host s () s₁) (h : (link t l).result host s₁ = .error f) :
    (run t l).result host s = .error f := by
  unfold run
  rw [hprepared.result_bind]
  exact result_bind_of_error h _

theorem result_link_of_build {f : Failure} (hprebuilt : t.prebuilt = none)
    (h : (Native.build t l).result host s = .error f) : (link t l).result host s = .error f := by
  unfold link buildRoot
  rw [hprebuilt]
  exact result_bind_of_error h _

theorem result_run_of_linked {s₁ : Session} (hlinked : Yields (beforeBindings t l) host s () s₁) :
    (run t l).result host s = (generateBindings t l).result host s₁ := by
  rw [run_eq_beforeBindings, hlinked.result_bind]

/-- The temporary file of the generator `call` can be removed after a start of it. -/
def CanTidy (host : Host) (s : Session) (t : Target) (l : Layout) (call : Call) : Prop :=
  ∀ temporary, Bindings.temporaryPath (Bindings.outputPath t l) = .ok temporary →
    (removeFile temporary).result host ((Job.start call).left host s) = .ok ()

/-- A generator that has ended badly ends the run, with a report on it exactly if its temporary
file can be removed. -/
theorem reports_generator_iff {s₁ s' : Session} {temporary : Path} {c : Call} {exit : Exit}
    (hlinked : Yields (beforeBindings t l) host s () s₁)
    (hready : Yields (Bindings.getReady t l (headerRoot t l)) host s₁ (temporary, c) s')
    (hanswer : (Job.start c).result host s' = .ok (.ok exit)) (hcode : exit.code ≠ 0) :
    (∃ f, (run t l).result host s = .error f) ∧
      ((∃ p, (run t l).result host s = .error (.problem p) ∧ p.TellsOf c exit) ↔
        CanTidy host s' t l c) := by
  obtain ⟨htemporary, sysroot, -, hc⟩ := Bindings.eq_of_getReady hready.1
  have hfetch : c.isFetch = false := by
    rw [hc]
    rfl
  have hrun := (result_run_of_linked hlinked).trans
    (Bindings.result_generate_of_failed hready hanswer hcode)
  unfold CanTidy
  rw [hrun]
  cases hremoved : (removeFile temporary).result host ((Job.start c).left host s') with
  | ok u =>
    rw [result_bind_of_ok hremoved, result_fail]
    refine ⟨⟨_, rfl⟩, iff_of_true ⟨_, rfl, Problem.tellsOf_bindgenFailed hfetch⟩ ?_⟩
    intro path hpath
    cases htemporary.symm.trans hpath
    exact hremoved
  | error f =>
    rw [result_bind_of_error hremoved]
    refine ⟨⟨f, rfl⟩, iff_of_false ?_ fun htidy => ?_⟩
    · rintro ⟨p, hp, -⟩
      cases hp
      have hsilent := refuses_removeFile temporary _ _ _ hremoved
      cases hsilent
    · rw [htidy temporary htemporary] at hremoved
      cases hremoved

/-- Whatever a run starts is listed with the session in which it is started. A tool that ends
badly, the search for an SDK apart, ends the run, and it ends with a problem that tells of the tool
unless this is the generator and its temporary file can not be removed. A build that ends with a
problem shows what it says, and its exit code is 1. -/
theorem a_failing_tool_is_reported_iff (host : Host) (s : Session) (t : Target) (l : Layout) :
    (∀ before call after, callsOf ((run t l).events host s) = before ++ call :: after →
      ∃ s', Starts host s t l call s' ∧ callsOf s'.log = callsOf s.log ++ before) ∧
    (∀ call s' exit, Starts host s t l call s' → call.isSdkQuery = false →
      (Job.start call).result host s' = .ok (.ok exit) → exit.code ≠ 0 →
        (∃ f, (run t l).result host s = .error f) ∧
        ((∃ p, (run t l).result host s = .error (.problem p) ∧ p.TellsOf call exit) ↔
          (call.isGenerate = true → CanTidy host s' t l call))) ∧
    ∀ env parsed disk s₁, Yields (CommandLine.target host.cwd env parsed) host { disk } t s₁ →
      Yields (CommandLine.layoutOf host.cwd parsed t) host s₁ l s →
      CommandLine.lacksProject parsed = false →
      ∀ p, (run t l).result host s = .error (.problem p) →
        ∃ response : CommandLine.Response,
          (CommandLine.runCommand host env disk .build parsed).1 = .ok response ∧
          response.exitCode = 1 ∧ ∀ least, Text.contains (response.stderr least) p.text = true := by
  refine ⟨startsAs_run.listed, ?_, ?_⟩
  · intro call s' exit hstarts hsdk hanswer hcode
    cases hstarts with
    | native hprepared hprebuilt hstarts =>
      obtain ⟨p, hbuild, htells⟩ := hstarts.result_build hanswer hcode
      have hrun := result_run_of_prepared hprepared (result_link_of_build hprebuilt hbuild)
      refine ⟨⟨_, hrun⟩, iff_of_true ⟨p, hrun, htells⟩ fun hgenerate => ?_⟩
      rw [hstarts.isGenerate_eq_false] at hgenerate
      cases hgenerate
    | findSdk hlinked happle hsdkName =>
      cases hsdk
    | generate hlinked hready =>
      obtain ⟨hfails, hreports⟩ := reports_generator_iff hlinked hready hanswer hcode
      have hgenerate : call.isGenerate = true := (Bindings.isReady_of_getReady hready.1).generates
      refine ⟨hfails, hreports.trans ⟨fun htidy _ => htidy, fun htidy => htidy hgenerate⟩⟩
  · intro env parsed disk s₁ htarget hlayout hproject p hp
    refine ⟨_, CommandLine.runCommand_of_problem
      (CommandLine.result_perform_build htarget hlayout hproject hp), rfl, fun least => ?_⟩
    have hline : Text.contains ("❌ " ++ p.text) p.text = true :=
      Text.contains_append_right (Text.contains_self _) _
    refine Text.contains_trans (CommandLine.contains_textOf ?_) hline
    exact List.mem_append_right _ (List.mem_singleton_self _)

/-- A machine on which one program ends badly and says so. -/
def complainingTools (program : String) : Host where
  cwd := .ofString "/"
  tools _ call := .ended (if call.program = program then { code := 1, stderr := "boom" } else {})

theorem tools_complaining {call : Call} {program : String} (h : call.program = program)
    (earlier : List Call) : (complainingTools program).tools earlier call =
      .ended { code := 1, stderr := "boom" } := by
  unfold complainingTools
  dsimp only
  rw [if_pos h]

/-- What CMake complains of is reported. -/
theorem a_failing_cmake_is_reported :
    ∃ call p, call.program = "cmake" ∧
      (run linuxTarget .default).result (complainingTools "cmake") { disk := .empty } =
        .error (.problem p) ∧
      p.TellsOf call { code := 1, stderr := "boom" } := by
  have hcalled : ∃ call ∈ callsOf ((run linuxTarget .default).events (complainingTools "cmake")
      { disk := .empty }), call.program = "cmake" ∧ call.hasNul = false ∧
        call.isSdkQuery = false ∧ call.isGenerate = false := by decide +kernel
  obtain ⟨call, hcall, hprogram, hnul, hsdk, hgenerate⟩ := hcalled
  obtain ⟨before, after, hcalls⟩ := List.append_of_mem hcall
  obtain ⟨hstarts, hends, -⟩ := a_failing_tool_is_reported_iff (complainingTools "cmake")
    { disk := .empty } linuxTarget .default
  obtain ⟨s', hstarts, -⟩ := hstarts before call after hcalls
  have hanswer : (Job.start call).result (complainingTools "cmake") s' =
      .ok (.ok { code := 1, stderr := "boom" }) :=
    result_start_eq_ok_ok.2 ⟨hnul, tools_complaining hprogram _, rfl⟩
  obtain ⟨-, hreports⟩ := hends call s' _ hstarts hsdk hanswer (by decide)
  have hvacuous : call.isGenerate = true → CanTidy (complainingTools "cmake") s' linuxTarget
      .default call := by
    intro h
    rw [hgenerate] at h
    cases h
  obtain ⟨p, hp, htells⟩ := hreports.2 hvacuous
  exact ⟨call, p, hprogram, hp, htells⟩

/-- A build with a library that has been built already. -/
def prebuiltTarget : Target := { linuxTarget with prebuilt := some (.ofString "/bssl") }

/-- With a folder in the place of its temporary file, what the generator complains of is lost. -/
theorem a_failing_generator_is_not_reported :
    ∃ call, .started call ∈ (run prebuiltTarget .default).events (complainingTools "bindgen")
        { disk := cloggedDisk } ∧
      (∀ earlier, (complainingTools "bindgen").tools earlier call =
        .ended { code := 1, stderr := "boom" }) ∧
      ¬∃ p, (run prebuiltTarget .default).result (complainingTools "bindgen")
          { disk := cloggedDisk } = .error (.problem p) ∧
        p.TellsOf call { code := 1, stderr := "boom" } := by
  have hcalled : ∃ call ∈ callsOf ((run prebuiltTarget .default).events (complainingTools "bindgen")
      { disk := cloggedDisk }), call.program = "bindgen" := by decide +kernel
  have hsilent : isTold ((run prebuiltTarget .default).result (complainingTools "bindgen")
      { disk := cloggedDisk }) = false := by decide +kernel
  obtain ⟨call, hcall, hprogram⟩ := hcalled
  refine ⟨call, mem_callsOf.1 hcall, tools_complaining hprogram, ?_⟩
  rintro ⟨p, hp, -⟩
  rw [hp] at hsilent
  cases hsilent

end Pipeline

end CrossBuild
