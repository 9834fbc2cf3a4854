-- The compilers of a FIPS build. Every configure command of a run names one pair of
-- candidates that the same run has asked for its version before, and a run that
-- finds no such pair neither builds nor links anything.
import CrossBuild.Proofs.BuildSteps

namespace CrossBuild

open Job

variable {host : Host} {s s' : Session} {t : Target} {l : Layout}

/-! ## Building and linking among events -/

/-- Events by which a library is built or linked. -/
def Event.isNative : Event → Bool
  | .started c => c.isConfigure || c.isBuild
  | .emitted d => d.isLink
  | _ => false

/-! ## The compilers of a configure command -/

/-- A configure command uses a pair of compilers, and assembles with the C compiler. -/
structure Call.Uses (call : Call) (compilers : Compilers) : Prop where
  c_compiler : call.setting? "CMAKE_C_COMPILER" = some compilers.c
  asm_compiler : call.setting? "CMAKE_ASM_COMPILER" = some compilers.c
  cxx_compiler : call.setting? "CMAKE_CXX_COMPILER" = some compilers.cxx
  fips : call.setting? "FIPS" = some "1"

/-- Chosen compilers are defined last, so that no other definition hides them. -/
theorem uses_withCompilers (compilers : Compilers) {c : CMake.Config}
    (hnames : ∀ d ∈ c.definitions, '=' ∉ d.1.toList) (outDir : Path) (profile program : String) :
    (CMake.configureCall (Native.withCompilers compilers c) outDir profile program).Uses
      compilers := by
  have hsetting {name value : String}
      (h : CMake.lastValue? name (Native.compilerDefinitions compilers) = some value) :
      (CMake.configureCall (Native.withCompilers compilers c) outDir profile program).setting?
        name = some value := by
    rw [CMake.setting?_configureCall (Native.noEqualsSign_withCompilers compilers hnames),
      Native.definitions_withCompilers, CMake.lastValue?_append, h]
    rfl
  exact ⟨hsetting rfl, hsetting rfl, hsetting rfl, hsetting rfl⟩

namespace Pipeline

theorem eq_of_untilCompilers {c : CMake.Config}
    (h : (untilCompilers t l).result host s = .ok c) :
    c = Native.withFuzzing t (Native.configFor t l) := by
  unfold untilCompilers at h
  obtain ⟨_, -, h⟩ := result_bind_eq_ok.1 h
  obtain ⟨_, -, h⟩ := result_bind_eq_ok.1 h
  obtain ⟨c₀, hc₀, h⟩ := result_bind_eq_ok.1 h
  rw [Native.eq_configFor hc₀] at h
  exact (Except.ok.inj h).symm

/-! ## The phases of a run -/

/-- Actions by which nothing is built or linked. -/
def NotNative (a : Action) : Prop := ∀ e ∈ a.event?, e.isNative = false

theorem notNative_of_mem_events {α : Type} {j : Job α} (h : Within NotNative j host s) :
    ∀ e ∈ j.events host s, e.isNative = false :=
  h.forall_events (fun _ _ _ => rfl) fun _ _ => rfl

theorem notNative_emit {d : Directive} (h : d.isLink = false) : NotNative (.emit d) := by
  intro e he
  cases he
  exact h

theorem notNative_start {call : Call} (h : (Event.started call).isNative = false) :
    NotNative (.start call) := by
  intro e he
  cases he
  exact h

/-- Nothing is built or linked before the compilers are chosen. -/
theorem notNative_untilCompilers : Within NotNative (untilCompilers t l) host s := by
  apply within_untilCompilers
  · nofun
  · exact fun name => notNative_emit rfl
  · exact fun message => notNative_emit rfl
  · exact notNative_start rfl

/-- Configure commands have the given configuration. -/
def ConfiguresBy (t : Target) (l : Layout) (c : CMake.Config) (e : Event) : Prop :=
  ∀ call, e = .started call → call.isConfigure = true →
    ∃ profile, call = CMake.configureCall c t.outDir profile l.cmake

/-- Once the compilers have been chosen, all configure commands have the same configuration. -/
theorem configuresBy_afterCompilers (c : CMake.Config) :
    Within (fun a => ∀ e ∈ a.event?, ConfiguresBy t l c e) (afterCompilers t l c) host s := by
  apply within_afterCompilers
  · apply Native.within_buildWith
    · simp [Action.event?]
    · rintro profile _ ⟨⟩ _ ⟨⟩ _
      exact ⟨profile, rfl⟩
    · rintro target profile _ ⟨⟩ _ ⟨⟩ h
      cases h
  · simp [Action.event?, Action.emit, ConfiguresBy]
  · simp [Action.event?, Action.emit, ConfiguresBy]
  · intro root s
    apply Bindings.within_generate
    · apply Bindings.within_writeTemporary
      · rintro sdk _ ⟨⟩ _ ⟨⟩ h
        cases h
      · simp [Action.event?]
      · rintro temporary - sysroot _ ⟨⟩ _ ⟨⟩ h
        cases h
      · simp [Action.event?]
    · simp [Action.event?]

/-- The choice of the compilers of a FIPS build. -/
def choice : Job Compilers := Compilers.select Compilers.requiredVersion Compilers.candidates

/-- Nothing is built or linked while the compilers are chosen. -/
theorem notNative_choice : Within NotNative choice host s :=
  Compilers.within_select fun _ _ => ⟨notNative_start rfl, notNative_start rfl⟩

/-- The run of a FIPS build chooses its compilers before it builds. -/
theorem run_eq_of_fips (hfips : t.enables .fips = true) (hprebuilt : t.prebuilt = none) :
    run t l =
      untilCompilers t l >>= fun c =>
        choice >>= fun compilers => afterCompilers t l (Native.withCompilers compilers c) := by
  rw [run_eq hprebuilt]
  unfold Native.chooseCompilers choice
  rw [hfips]
  simp only [if_true, bind_assoc, pure_bind]

/-- A run that does not find compilers builds and links nothing. -/
theorem notNative_of_choice_error {c : CMake.Config} {f : Failure}
    (hfips : t.enables .fips = true) (hprebuilt : t.prebuilt = none)
    (hc : (untilCompilers t l).result host s = .ok c)
    (hchoice : choice.result host ((untilCompilers t l).left host s) = .error f) :
    (run t l).result host s = .error f ∧ ∀ e ∈ (run t l).events host s, e.isNative = false := by
  rw [run_eq_of_fips hfips hprebuilt]
  constructor
  · rw [result_bind_of_ok hc, result_bind_of_error hchoice]
  · have hrest : Within NotNative
        (choice >>= fun compilers => afterCompilers t l (Native.withCompilers compilers c)) host
        ((untilCompilers t l).left host s) := by
      refine Within.bind notNative_choice fun compilers hcompilers => ?_
      rw [hchoice] at hcompilers
      cases hcompilers
    rw [events_bind_of_ok notNative_untilCompilers hc hrest]
    intro e he
    rcases List.mem_append.1 he with he | he
    · exact notNative_of_mem_events notNative_untilCompilers e he
    · exact notNative_of_mem_events hrest e he

/-- Every configure command of a run that has chosen compilers uses them, and comes after all
that has been done to choose them. -/
theorem uses_of_choice_ok {c : CMake.Config} {compilers : Compilers}
    {before after : List Event} {call : Call}
    (hfips : t.enables .fips = true) (hprebuilt : t.prebuilt = none)
    (hc : (untilCompilers t l).result host s = .ok c)
    (hchoice : choice.result host ((untilCompilers t l).left host s) = .ok compilers)
    (hevents : (run t l).events host s = before ++ .started call :: after)
    (hconfigure : call.isConfigure = true) :
    call.Uses compilers ∧ ∃ later, before = (untilCompilers t l).events host s ++
      choice.events host ((untilCompilers t l).left host s) ++ later := by
  have hafter : Within
      (fun a => ∀ e ∈ a.event?, ConfiguresBy t l (Native.withCompilers compilers c) e)
      (afterCompilers t l (Native.withCompilers compilers c)) host
      (choice.left host ((untilCompilers t l).left host s)) := configuresBy_afterCompilers _
  have hrest : Within (fun _ => True)
      (choice >>= fun compilers => afterCompilers t l (Native.withCompilers compilers c)) host
      ((untilCompilers t l).left host s) := by
    refine Within.bind notNative_choice.any fun compilers' hcompilers => ?_
    rw [hchoice, Except.ok.injEq] at hcompilers
    exact hcompilers ▸ hafter.any
  rw [run_eq_of_fips hfips hprebuilt, events_bind_of_ok notNative_untilCompilers hc hrest,
    events_bind_of_ok notNative_choice hchoice hafter, ← List.append_assoc] at hevents
  have hfirst : .started call ∉ (untilCompilers t l).events host s ++
      choice.events host ((untilCompilers t l).left host s) := by
    intro hmem
    have hnative : (Event.started call).isNative = true := by simp [Event.isNative, hconfigure]
    rcases List.mem_append.1 hmem with hmem | hmem
    · rw [notNative_of_mem_events notNative_untilCompilers _ hmem] at hnative
      cases hnative
    · rw [notNative_of_mem_events notNative_choice _ hmem] at hnative
      cases hnative
  obtain ⟨hmem, hbefore⟩ := exists_eq_append_of_not_mem hevents hfirst
  obtain ⟨profile, rfl⟩ :=
    Within.forall_events hafter (by simp [ConfiguresBy]) (by simp [ConfiguresBy]) _ hmem call rfl
      hconfigure
  refine ⟨uses_withCompilers compilers ?_ _ _ _, hbefore⟩
  rw [eq_of_untilCompilers hc]
  exact Native.noEqualsSign_withFuzzing

/-- A FIPS build uses verified compilers only: all its configure commands name one pair of
candidates, and both of these have reported the required version before. A run whose choice of
compilers fails ends with this failure and neither builds nor links anything. -/
theorem a_fips_build_uses_verified_compilers (host : Host) (s : Session) (t : Target) (l : Layout)
    (hfips : t.enables .fips = true) (hprebuilt : t.prebuilt = none) :
    (∃ compilers ∈ Compilers.candidates, ∀ before call after,
      (run t l).events host s = before ++ .started call :: after → call.isConfigure = true →
        call.Uses compilers ∧
        Compilers.Reported host s before compilers.c Compilers.requiredVersion ∧
        Compilers.Reported host s before compilers.cxx Compilers.requiredVersion) ∧
    ∀ c f, (untilCompilers t l).result host s = .ok c →
      choice.result host ((untilCompilers t l).left host s) = .error f →
        (run t l).result host s = .error f ∧
        ∀ e ∈ (run t l).events host s, e.isNative = false := by
  have hnone (hnot : ∀ e ∈ (run t l).events host s, e.isNative = false) {before after : List Event}
      {call : Call} (hevents : (run t l).events host s = before ++ .started call :: after)
      (hconfigure : call.isConfigure = true) : False := by
    have hnative := hnot (.started call) (by simp [hevents])
    simp [Event.isNative, hconfigure] at hnative
  refine ⟨?_, fun c f hc hchoice => notNative_of_choice_error hfips hprebuilt hc hchoice⟩
  cases hc : (untilCompilers t l).result host s with
  | error f =>
    refine ⟨⟨"cc", "c++"⟩, by simp [Compilers.candidates],
      fun before call after hevents hconfigure => (hnone ?_ hevents hconfigure).elim⟩
    rw [run_eq_of_fips hfips hprebuilt, events_bind_of_error hc]
    exact notNative_of_mem_events notNative_untilCompilers
  | ok c =>
    cases hchoice : choice.result host ((untilCompilers t l).left host s) with
    | error f =>
      refine ⟨⟨"cc", "c++"⟩, by simp [Compilers.candidates],
        fun before call after hevents hconfigure => (hnone ?_ hevents hconfigure).elim⟩
      exact (notNative_of_choice_error hfips hprebuilt hc hchoice).2
    | ok compilers =>
      obtain ⟨hmem, hreported, hreported'⟩ :=
        Compilers.reported_of_select Compilers.requiredVersion_ne_empty hchoice
      refine ⟨compilers, hmem, fun before call after hevents hconfigure => ?_⟩
      obtain ⟨huses, later, rfl⟩ :=
        uses_of_choice_ok hfips hprebuilt hc hchoice hevents hconfigure
      have hlog : ((untilCompilers t l).left host s).log =
          s.log ++ (untilCompilers t l).events host s := notNative_untilCompilers.log_left
      exact ⟨huses, (hreported.prepend hlog).append later, (hreported'.prepend hlog).append later⟩

/-- A FIPS build of the cryptographic library for the machine that it runs on. -/
def fipsTarget : Target := { linuxTarget with features := ⟨["fips"]⟩ }

/-- A machine whose tools all end well and have the required version. -/
def clang7 : Host where
  cwd := .ofString "/"
  tools _ call :=
    .ended { stdout := if call.arguments = ["--version"] then "clang version 7.0.1\n" else "" }

/-- On such a machine the build gets to a configure command, which names the compilers. -/
theorem a_fips_build_is_configured :
    ∃ compilers ∈ Compilers.candidates, ∃ call,
      .started call ∈ (run fipsTarget .default).events clang7 { disk := .empty } ∧
      call.isConfigure = true ∧ call.Uses compilers := by
  obtain ⟨⟨compilers, hmem, huses⟩, -⟩ := a_fips_build_uses_verified_compilers clang7
    { disk := .empty } fipsTarget .default (by decide) rfl
  have hconfigured : ∃ call ∈ callsOf ((run fipsTarget .default).events clang7 { disk := .empty }),
      call.isConfigure = true := by decide +kernel
  obtain ⟨call, hcall, hconfigure⟩ := hconfigured
  obtain ⟨before, after, hevents⟩ := List.append_of_mem (mem_callsOf.1 hcall)
  exact ⟨compilers, hmem, call, mem_callsOf.1 hcall, hconfigure,
    (huses before call after hevents hconfigure).1⟩

end Pipeline

end CrossBuild
