-- The search for the SDK of an Apple target. It is meant to be a soft one: without an SDK
-- the user is warned, and the bindings are read without it. That the search ends well and
-- says nothing is the one answer for which neither is so, and without an answer, be it
-- for a NUL character in the name of the tool, the search fails.
import CrossBuild.Proofs.ConfigurationShapes
import CrossBuild.Proofs.GeneratorCommands
import CrossBuild.Proofs.RepeatedBindings

namespace CrossBuild

open Job

variable {host : Host} {s : Session} {t : Target} {l : Layout}

namespace Bindings

/-! ## What the search says -/

/-- What the user is told of the answer of the search. -/
def saidOf : Except SystemError Exit → List Event
  | .error e => [.warned .sdkLookup ("xcrun failed: " ++ e.text)]
  | .ok exit =>
    if exit.code = 0 then []
    else
      let detail := if exit.code < 0 then "killed" else "exit code " ++ toString exit.code
      .warned .sdkLookup ("xcrun failed: " ++ detail) ::
        if exit.stderr ≠ "" then [.logged .warning .bindings (Text.trimEnd exit.stderr)] else []

theorem log_left_sysrootOf (answer : Except SystemError Exit) :
    ((sysrootOf answer).left host s).log = s.log ++ saidOf answer := by
  cases answer with
  | error e => rfl
  | ok exit =>
    unfold sysrootOf saidOf
    dsimp only
    by_cases hcode : exit.code = 0
    · rw [if_pos hcode, if_pos hcode, left_pure, List.append_nil]
    · rw [if_neg hcode, if_neg hcode, left_bind_of_ok rfl]
      by_cases hstderr : exit.stderr ≠ ""
      · rw [if_pos hstderr, if_pos hstderr]
        exact List.append_assoc _ _ _
      · rw [if_neg hstderr, if_neg hstderr]
        rfl

theorem callsOf_saidOf (answer : Except SystemError Exit) : callsOf (saidOf answer) = [] := by
  have hquiet : ∀ call, .started call ∉ saidOf answer := by
    intro call hcall
    unfold saidOf at hcall
    cases answer with
    | error e => simp at hcall
    | ok exit =>
      dsimp only at hcall
      by_cases hcode : exit.code = 0
      · simp [hcode] at hcall
      · by_cases hstderr : exit.stderr = "" <;> simp [hcode, hstderr] at hcall
  exact List.eq_nil_iff_forall_not_mem.2 fun call hcall => hquiet call (mem_callsOf.1 hcall)

/-- The user is warned once, or an SDK is there. -/
theorem warningsOf_saidOf (answer : Except SystemError Exit) :
    (sdkFolder answer = none ∧
      ∃ message, warningsOf (saidOf answer) = [(.sdkLookup, message)]) ∨
    ∃ exit, answer = .ok exit ∧ exit.code = 0 ∧
      sdkFolder answer = some (Text.trimEnd exit.stdout) ∧ warningsOf (saidOf answer) = [] := by
  cases answer with
  | error e => exact .inl ⟨rfl, _, rfl⟩
  | ok exit =>
    unfold sdkFolder saidOf
    dsimp only
    by_cases hcode : exit.code = 0
    · rw [if_pos hcode, if_pos hcode]
      exact .inr ⟨exit, rfl, hcode, rfl, rfl⟩
    · rw [if_neg hcode, if_neg hcode]
      by_cases hstderr : exit.stderr ≠ ""
      · rw [if_pos hstderr]
        exact .inl ⟨rfl, _, rfl⟩
      · rw [if_neg hstderr]
        exact .inl ⟨rfl, _, rfl⟩

/-! ## The arguments for the SDK -/

/-- There is an SDK for every Apple target that is listed, and there is no NUL character in its
name. -/
theorem exists_appleSdk {triple : String} (h : triple ∈ Parameters.apple.map (·.1)) :
    ∃ sdk, appleSdk triple = .ok sdk ∧ Text.hasNul sdk = false := by
  have hall : ∀ triple ∈ Parameters.apple.map (·.1),
      (appleSdk triple).toOption.map Text.hasNul = some false := by decide
  obtain ⟨sdk, hsdk, hnul⟩ := Option.map_eq_some_iff.1 (hall triple h)
  exact ⟨sdk, eq_ok_of_toOption hsdk, hnul⟩

variable {sdk : String} {answer : Except SystemError Exit}

/-- The search for the system headers of an Apple target, one step after the other. -/
theorem sysrootArguments_eq (happle : t.platform = .ios ∨ t.platform = .macos)
    (hsdk : appleSdk t.triple = .ok sdk) :
    sysrootArguments t l = Job.start (sdkCall sdk l.xcrun) >>= fun answer =>
      sysrootOf answer >>= fun found =>
        pure (found.elim [] fun folder => ["-isysroot", folder]) := by
  rw [sysrootArguments_apple happle, hsdk]
  change (appleSysroot sdk l.xcrun >>= _) = _
  rw [appleSysroot_eq]
  exact bind_assoc _ _ _

theorem result_sysrootArguments_apple (happle : t.platform = .ios ∨ t.platform = .macos)
    (hsdk : appleSdk t.triple = .ok sdk)
    (hanswer : (Job.start (sdkCall sdk l.xcrun)).result host s = .ok answer) :
    (sysrootArguments t l).result host s =
      .ok ((sdkFolder answer).elim [] fun folder => ["-isysroot", folder]) := by
  rw [sysrootArguments_eq happle hsdk, result_bind_of_ok hanswer,
    result_bind_of_ok (result_sysrootOf answer), result_pure]

theorem events_sysrootArguments_apple (happle : t.platform = .ios ∨ t.platform = .macos)
    (hsdk : appleSdk t.triple = .ok sdk)
    (hanswer : (Job.start (sdkCall sdk l.xcrun)).result host s = .ok answer) :
    (sysrootArguments t l).events host s = .started (sdkCall sdk l.xcrun) :: saidOf answer := by
  unfold events
  rw [sysrootArguments_eq happle hsdk, left_bind_of_ok hanswer,
    left_bind_of_ok (result_sysrootOf answer), left_pure, log_left_sysrootOf, left_start]
  dsimp only
  rw [List.append_assoc, List.drop_left]
  rfl

/-! ## The law -/

/-- An answer of `xcrun` that is taken for a success and says nothing of an SDK. -/
def SaysNothing (answer : Except SystemError Exit) : Prop :=
  ∃ exit, answer = .ok exit ∧ exit.code = 0 ∧ ∀ c ∈ exit.stdout.toList, Text.isBlank c = true

/-- What a soft search makes of an answer of `xcrun`, as arguments and warnings: it warns, once,
and there are no arguments, or it is silent, and there is a folder, the one of an answer that is
a success. -/
inductive IsSoft (answer : Except SystemError Exit) :
    List String → List (WarningKind × String) → Prop
  | missing (message : String) : IsSoft answer [] [(.sdkLookup, message)]
  | found {exit : Exit} {folder : String} (hanswer : answer = .ok exit) (hcode : exit.code = 0)
    (hfolder : folder = Text.trimEnd exit.stdout) (hne : folder ≠ "")
    (hlast : ∀ c ∈ folder.toList.getLast?, Text.isBlank c = false) :
    IsSoft answer ["-isysroot", folder] []

theorem SaysNothing.sdkFolder_eq (h : SaysNothing answer) : sdkFolder answer = some "" := by
  obtain ⟨exit, rfl, hcode, hblank⟩ := h
  unfold sdkFolder
  dsimp only
  rw [if_pos hcode, Text.trimEnd_eq_empty_iff.2 hblank]

/-- No answer makes it soft to tell the compiler of an SDK without a name. -/
theorem not_isSoft_unnamed (answer : Except SystemError Exit)
    (warnings : List (WarningKind × String)) : ¬IsSoft answer ["-isysroot", ""] warnings := by
  intro hsoft
  cases hsoft with
  | found _ _ _ hne _ => exact hne rfl

/-- Any other answer is dealt with softly. -/
theorem isSoft_of_not_saysNothing (h : ¬SaysNothing answer) :
    IsSoft answer ((sdkFolder answer).elim [] fun folder => ["-isysroot", folder])
      (warningsOf (saidOf answer)) := by
  rcases warningsOf_saidOf answer with
    ⟨hnone, message, hwarned⟩ | ⟨exit, rfl, hcode, hfolder, hsilent⟩
  · rw [hnone, hwarned]
    exact .missing message
  · rw [hfolder, hsilent]
    obtain ⟨-, -, -, hlast⟩ := Text.exists_trimEnd exit.stdout
    refine .found rfl hcode rfl (fun hempty => ?_) hlast
    exact h ⟨exit, rfl, hcode, Text.trimEnd_eq_empty_iff.1 hempty⟩

/-- A search that comes to an answer is soft exactly if the answer is not one that says nothing. -/
theorem isSoft_iff : IsSoft answer ((sdkFolder answer).elim [] fun folder => ["-isysroot", folder])
      (warningsOf (saidOf answer)) ↔ ¬SaysNothing answer := by
  refine ⟨fun hsoft hnothing => ?_, isSoft_of_not_saysNothing⟩
  rw [hnothing.sdkFolder_eq] at hsoft
  exact not_isSoft_unnamed _ _ hsoft

/-- The user is not warned of an answer that says nothing. -/
theorem SaysNothing.warningsOf_eq (h : SaysNothing answer) : warningsOf (saidOf answer) = [] := by
  obtain ⟨exit, rfl, hcode, -⟩ := h
  unfold saidOf
  dsimp only
  rw [if_pos hcode]
  rfl

/-- Only the name of `xcrun` can bring a NUL character into the call. -/
theorem hasNul_sdkCall (hsdk : Text.hasNul sdk = false) (xcrun : String) :
    (sdkCall sdk xcrun).hasNul = true ↔ '\x00' ∈ xcrun.toList := by
  have hpath : Text.hasNul "--show-sdk-path" = false := by decide
  have hoption : Text.hasNul "--sdk" = false := by decide
  rw [← Text.hasNul_iff]
  simp [Call.hasNul, Call.words, sdkCall, hsdk, hpath, hoption]

/-- The search for the system headers of an Apple target fails exactly if `xcrun` comes to no
answer. -/
theorem result_sysrootArguments_eq_error (happle : t.platform = .ios ∨ t.platform = .macos)
    (hsdk : appleSdk t.triple = .ok sdk) {f : Failure} :
    (sysrootArguments t l).result host s = .error f ↔
      (Job.start (sdkCall sdk l.xcrun)).result host s = .error f := by
  cases hstart : (Job.start (sdkCall sdk l.xcrun)).result host s with
  | error f' =>
    rw [sysrootArguments_eq happle hsdk, result_bind_of_error hstart, Except.error.injEq,
      Except.error.injEq]
  | ok answer => simp [result_sysrootArguments_apple happle hsdk hstart]

theorem callsOf_sysrootArguments_apple (happle : t.platform = .ios ∨ t.platform = .macos)
    (hsdk : appleSdk t.triple = .ok sdk) :
    callsOf ((sysrootArguments t l).events host s) = [sdkCall sdk l.xcrun] := by
  cases hstart : (Job.start (sdkCall sdk l.xcrun)).result host s with
  | error f =>
    rw [sysrootArguments_eq happle hsdk, events_bind_of_error hstart, events_start]
    rfl
  | ok answer =>
    rw [events_sysrootArguments_apple happle hsdk hstart]
    exact congrArg _ (callsOf_saidOf answer)

/-- The search for the system headers of a listed Apple target starts `xcrun` once. It is soft
exactly if there is no NUL character in the name of `xcrun`, what `xcrun` prints is text, and it
does not end well with blanks only: then the compiler is told of an SDK without a name, and the user
of nothing. Without an answer the search fails. -/
theorem the_search_for_an_sdk_is_soft_iff (host : Host) (s : Session) (l : Layout)
    (happle : t.system = "ios" ∨ t.system = "macos")
    (hlisted : t.triple ∈ Parameters.apple.map (·.1)) :
    ∃ sdk query, appleSdk t.triple = .ok sdk ∧
      query = ⟨l.xcrun, ["--show-sdk-path", "--sdk", sdk], none⟩ ∧
      callsOf ((sysrootArguments t l).events host s) = [query] ∧
      ((∃ answer arguments, (Job.start query).result host s = .ok answer ∧
          (sysrootArguments t l).result host s = .ok arguments ∧
          IsSoft answer arguments (warningsOf ((sysrootArguments t l).events host s))) ↔
        '\x00' ∉ l.xcrun.toList ∧
          (Job.start query).result host s ≠ .error (.outputNotText query) ∧
          ∀ answer, (Job.start query).result host s = .ok answer → ¬SaysNothing answer) ∧
      (∀ answer, (Job.start query).result host s = .ok answer → SaysNothing answer →
        (sysrootArguments t l).result host s = .ok ["-isysroot", ""] ∧
          warningsOf ((sysrootArguments t l).events host s) = []) ∧
      ∀ f, (sysrootArguments t l).result host s = .error f ↔
        ('\x00' ∈ l.xcrun.toList ∧ f = .nulInCall query) ∨
          ((Job.start query).result host s = .error (.outputNotText query) ∧
            f = .outputNotText query) := by
  have happle : t.platform = .ios ∨ t.platform = .macos := by
    unfold Target.platform
    rcases happle with h | h <;> rw [h] <;> decide
  obtain ⟨sdk, hsdk, hnone⟩ := exists_appleSdk hlisted
  have hwarnings {answer : Except SystemError Exit}
      (hanswer : (Job.start (sdkCall sdk l.xcrun)).result host s = .ok answer) :
      warningsOf ((sysrootArguments t l).events host s) = warningsOf (saidOf answer) := by
    rw [events_sysrootArguments_apple happle hsdk hanswer]
    rfl
  have hnul := hasNul_sdkCall hnone l.xcrun
  refine ⟨sdk, sdkCall sdk l.xcrun, hsdk, rfl, ?_⟩
  refine ⟨callsOf_sysrootArguments_apple happle hsdk, ?_, ?_, ?_⟩
  · constructor
    · rintro ⟨answer, arguments, hanswer, hresult, hsoft⟩
      rw [result_sysrootArguments_apple happle hsdk hanswer, Except.ok.injEq] at hresult
      rw [hwarnings hanswer, ← hresult, isSoft_iff] at hsoft
      rw [hanswer]
      refine ⟨fun h => ?_, nofun, fun answer' h => Except.ok.inj h ▸ hsoft⟩
      rw [result_start_eq_error.2 (.inl ⟨hnul.2 h, rfl⟩)] at hanswer
      cases hanswer
    · rintro ⟨hname, htext, hspoke⟩
      cases hanswer : (Job.start (sdkCall sdk l.xcrun)).result host s with
      | error f =>
        rcases result_start_eq_error.1 hanswer with ⟨h, -⟩ | ⟨-, rfl, -⟩
        · exact absurd (hnul.1 h) hname
        · exact absurd hanswer htext
      | ok answer =>
        refine ⟨answer, _, rfl, result_sysrootArguments_apple happle hsdk hanswer, ?_⟩
        rw [hwarnings hanswer]
        exact isSoft_of_not_saysNothing (hspoke answer hanswer)
  · intro answer hanswer hnothing
    rw [hwarnings hanswer, hnothing.warningsOf_eq,
      result_sysrootArguments_apple happle hsdk hanswer, hnothing.sdkFolder_eq]
    exact ⟨rfl, rfl⟩
  · intro f
    rw [result_sysrootArguments_eq_error happle hsdk]
    constructor
    · intro hf
      rcases result_start_eq_error.1 hf with ⟨h, rfl⟩ | ⟨-, rfl, -⟩
      · exact .inl ⟨hnul.1 h, rfl⟩
      · exact .inr ⟨hf, rfl⟩
    · rintro (⟨h, rfl⟩ | ⟨h, rfl⟩)
      · exact result_start_eq_error.2 (.inl ⟨hnul.2 h, rfl⟩)
      · exact h

/-- The SDK for phones is found on a Mac, and the user is not warned. -/
theorem the_sdk_for_phones_is_found :
    ∃ arguments,
      (sysrootArguments phoneTarget .default).result macTools { disk := .empty } = .ok arguments ∧
      IsSoft (.ok { stdout := "/sdk\n" }) arguments
        (warningsOf ((sysrootArguments phoneTarget .default).events macTools
          { disk := .empty })) := by
  obtain ⟨sdk, query, hsdk, rfl, -, hsoft, -⟩ :=
    the_search_for_an_sdk_is_soft_iff (t := phoneTarget) macTools { disk := .empty } .default
      (.inl rfl) (by decide)
  obtain rfl : "iphoneos" = sdk := Except.ok.inj hsdk
  have hsaid : (Job.start (sdkCall "iphoneos" Layout.default.xcrun)).result macTools
      { disk := .empty } = .ok (.ok { stdout := "/sdk\n" }) :=
    result_start_eq_ok_ok.2 ⟨by decide, rfl, rfl⟩
  have htext : (Job.start (sdkCall "iphoneos" Layout.default.xcrun)).result macTools
      { disk := .empty } ≠ .error (.outputNotText (sdkCall "iphoneos" Layout.default.xcrun)) := by
    rw [hsaid]
    nofun
  have hspoke (answer : Except SystemError Exit)
      (hanswer : (Job.start (sdkCall "iphoneos" Layout.default.xcrun)).result macTools
        { disk := .empty } = .ok answer) : ¬SaysNothing answer := by
    cases hsaid.symm.trans hanswer
    rintro ⟨exit, hexit, -, hblank⟩
    cases hexit
    exact absurd (hblank '/' (by decide)) (by decide)
  obtain ⟨answer, arguments, hanswer, hresult, hsoft⟩ := hsoft.2 ⟨by decide, htext, hspoke⟩
  cases hsaid.symm.trans hanswer
  exact ⟨arguments, hresult, hsoft⟩

/-- A Mac, on which `xcrun` ends well and writes an empty line. -/
def blankTools : Host where
  cwd := .ofString "/"
  tools _ call :=
    if call.program = "xcrun" then .ended { stdout := "\n" } else .refused .noEntry

/-- An empty line is taken for the name of an SDK: the search is not soft, whatever answer of
`xcrun` it is held against. -/
theorem an_empty_line_is_taken_for_an_sdk :
    phoneTarget.system = "ios" ∧ phoneTarget.triple ∈ Parameters.apple.map (·.1) ∧
      ¬∃ answer arguments,
        (sysrootArguments phoneTarget .default).result blankTools { disk := .empty } =
          .ok arguments ∧
        IsSoft answer arguments (warningsOf ((sysrootArguments phoneTarget .default).events
          blankTools { disk := .empty })) := by
  have hsdk : appleSdk phoneTarget.triple = .ok "iphoneos" := rfl
  have hanswer : (Job.start (sdkCall "iphoneos" Layout.default.xcrun)).result blankTools
      { disk := .empty } = .ok (.ok { stdout := "\n" }) :=
    result_start_eq_ok_ok.2 ⟨by decide, rfl, rfl⟩
  have hblank : ∀ c ∈ "\n".toList, Text.isBlank c = true := by
    intro c hc
    rw [List.mem_singleton.1 hc]
    rfl
  have hnothing : SaysNothing (.ok { stdout := "\n" }) := ⟨_, rfl, rfl, hblank⟩
  have hresult := result_sysrootArguments_apple (l := .default) (.inl rfl) hsdk hanswer
  rw [hnothing.sdkFolder_eq] at hresult
  refine ⟨rfl, by decide, ?_⟩
  rintro ⟨answer, arguments, harguments, hsoft⟩
  cases hresult.symm.trans harguments
  exact not_isSoft_unnamed _ _ hsoft

end Bindings

end CrossBuild
