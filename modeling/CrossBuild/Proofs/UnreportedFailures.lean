-- The failures that are not reported as a problem. A run makes requests of the operating system
-- without thinking of a refusal, and it starts tools without thinking of a call that can not be
-- made or of an output that can not be read; everything else that goes wrong is reported.
import CrossBuild.Proofs.ToolStarts

namespace CrossBuild

namespace Job

variable {α β : Type} {host : Host} {s : Session}

/-! ## Failures without a report -/

/-- The job ends in a failure that is not reported. -/
def Breaks (j : Job α) (host : Host) (s : Session) : Prop :=
  ∃ f, j.result host s = .error f ∧ f.isReported = false

/-- Whatever goes wrong in the job is reported. -/
def Reports (j : Job α) : Prop := ∀ host s, ¬Breaks j host s

theorem breaks_bind {x : Job α} {k : α → Job β} :
    Breaks (x >>= k) host s ↔
      Breaks x host s ∨ ∃ a, x.result host s = .ok a ∧ Breaks (k a) host (x.left host s) := by
  unfold Breaks
  rw [result_bind]
  cases x.result host s <;> simp

theorem breaks_bind_of_reports {x : Job α} {k : α → Job β} (hx : Reports x) :
    Breaks (x >>= k) host s ↔
      ∃ a, x.result host s = .ok a ∧ Breaks (k a) host (x.left host s) := by
  rw [breaks_bind, or_iff_right (hx host s)]

theorem breaks_bind_of_rest {x : Job α} {k : α → Job β} (hk : ∀ a, Reports (k a)) :
    Breaks (x >>= k) host s ↔ Breaks x host s := by
  rw [breaks_bind, or_iff_left]
  rintro ⟨a, -, hbreaks⟩
  exact hk a _ _ hbreaks

/-- A step that always succeeds does not break. -/
theorem breaks_bind_of_ok {x : Job α} {k : α → Job β} {a : α} (h : x.result host s = .ok a) :
    Breaks (x >>= k) host s ↔ Breaks (k a) host (x.left host s) := by
  unfold Breaks
  rw [result_bind_of_ok h]

theorem reports_of_ok {j : Job α} (h : ∀ host s, ∃ a, j.result host s = .ok a) : Reports j := by
  rintro host s ⟨f, hf, -⟩
  obtain ⟨a, ha⟩ := h host s
  rw [ha] at hf
  cases hf

theorem Reports.bind {x : Job α} {k : α → Job β} (hx : Reports x) (hk : ∀ a, Reports (k a)) :
    Reports (x >>= k) := by
  intro host s hbreaks
  rw [breaks_bind_of_rest hk] at hbreaks
  exact hx host s hbreaks

theorem reports_pure (a : α) : Reports (pure a : Job α) := reports_of_ok fun _ _ => ⟨a, rfl⟩

theorem reports_fail (p : Problem) : Reports (fail p : Job α) := by
  rintro host s ⟨f, hf, hreported⟩
  cases hf
  cases hreported

theorem reports_fail_bind (p : Problem) (k : α → Job β) : Reports (fail p >>= k) := reports_fail p

theorem reports_get (e : Except Problem α) : Reports (Job.get e) := by
  cases e with
  | ok a => exact reports_pure a
  | error p => exact reports_fail p

theorem breaks_get_bind {e : Except Problem α} {k : α → Job β} :
    Breaks (Job.get e >>= k) host s ↔ ∃ a, e = .ok a ∧ Breaks (k a) host s := by
  cases e with
  | ok a =>
    constructor
    · exact fun h => ⟨a, rfl, h⟩
    · rintro ⟨a', ha, h⟩
      cases ha
      exact h
  | error p =>
    constructor
    · exact fun h => absurd h (reports_fail_bind p k host s)
    · rintro ⟨a, ha, -⟩
      cases ha

theorem reports_record (e : Event) : Reports (record e) := reports_of_ok fun _ _ => ⟨(), rfl⟩

theorem reports_log (level : Level) (origin : Origin) (message : String) :
    Reports (log level origin message) := reports_record _

theorem reports_warn (kind : WarningKind) (message : String) : Reports (warn kind message) :=
  reports_record _

theorem reports_emit (d : Directive) : Reports (emit d) := reports_record _

theorem reports_forM {f : α → Job PUnit} (h : ∀ a, Reports (f a)) (as : List α) :
    Reports (as.forM f) := by
  induction as with
  | nil => exact reports_pure _
  | cons a rest ih => exact (h a).bind fun _ => ih

/-! ## Requests -/

/-- Whatever goes wrong in the job is not reported. -/
def Refuses (j : Job α) : Prop :=
  ∀ host s f, j.result host s = .error f → f.isReported = false

theorem refuses_ask (p : Path) (question : Disk → Location → Except ErrorCode α) :
    Refuses (ask p question) := by
  intro host s f h
  rw [result_ask] at h
  split at h <;> cases h
  rfl

theorem refuses_require (p : Path) (question : Disk → Location → Except ErrorCode α) :
    Refuses (require p question) := by
  intro host s f h
  rw [result_require] at h
  split at h
  · cases h
    rfl
  · cases hanswer : question s.disk host.cwd.parts <;> rw [hanswer] at h <;> cases h
    rfl

theorem refuses_isPresent (p : Path) : Refuses (isPresent p) := by
  unfold isPresent test
  split
  · nofun
  · exact refuses_require _ _

theorem refuses_removeFile (p : Path) : Refuses (removeFile p) := by
  intro host s f h
  rw [result_removeFile] at h
  split at h
  · cases h
    rfl
  · split at h
    · cases h
    · split at h <;> cases h
      rfl

theorem refuses_ensureFolders (p : Path) : Refuses (ensureFolders p) := by
  intro host s f h
  rw [result_ensureFolders] at h
  split at h
  · cases h
    rfl
  · cases hmade : (s.disk.ensureFolders host.cwd.parts p).2 <;> rw [hmade] at h <;> cases h
    rfl

theorem refuses_rename (p q : Path) : Refuses (rename p q) := by
  intro host s f h
  rw [result_rename] at h
  split at h
  · cases h
    rfl
  · split at h <;> cases h
    rfl

theorem refuses_start (call : Call) : Refuses (start call) := by
  intro host s f h
  obtain ⟨-, rfl⟩ | ⟨-, rfl, -⟩ := result_start_eq_error.1 h <;> rfl

theorem Refuses.breaks_iff {j : Job α} (h : Refuses j) :
    Breaks j host s ↔ ¬∃ a, j.result host s = .ok a := by
  unfold Breaks
  cases hresult : j.result host s with
  | ok a => simp
  | error f => simpa using h host s f hresult

end Job

open Job

variable {host : Host} {s : Session} {t : Target} {l : Layout}

/-! ## The native library -/

theorem Source.breaks_ensure_iff {projectDir : Path} {source git : String} :
    Breaks (ensure projectDir source git) host s ↔
      Breaks (isPresent (projectDir / source)) host s ∨
      (isPresent (projectDir / source)).result host s = .ok false ∧
        Breaks (Job.start (fetchCall projectDir source git)) host (announceFetch.left host s) := by
  have hleft : (isPresent (projectDir / source)).left host s = s := left_isPresent _
  unfold ensure
  rw [breaks_bind, hleft, Bool.exists_bool, if_neg Bool.false_ne_true, if_pos rfl]
  refine or_congr_right ?_
  rw [or_iff_left fun h => reports_pure false host s h.2]
  refine and_congr_right fun _ => ?_
  refine (breaks_bind_of_ok rfl).trans (breaks_bind_of_rest fun answer => ?_)
  cases answer with
  | error e => exact reports_fail _
  | ok exit =>
    dsimp only
    split
    · exact reports_fail_bind _ _
    · exact (reports_log _ _ _).bind fun _ => reports_pure _

namespace Compilers

variable {required found : String} {c : Compilers} {rest : List Compilers}

theorem breaks_version_iff {tool : String} :
    Breaks (version tool) host s ↔ Breaks (Job.start (probe tool)) host s := by
  unfold version
  refine breaks_bind_of_rest fun answer => ?_
  cases answer with
  | error e => exact (reports_log _ _ _).bind fun _ => reports_pure _
  | ok exit =>
    dsimp only
    split
    · exact reports_fail_bind _ _
    · exact reports_pure _

theorem breaks_select_of_holds (hfound : (version c.c).result host s = .ok found)
    (hholds : Text.contains found required = true) :
    Breaks (select required (c :: rest)) host s ↔
      Breaks (Job.start (probe c.cxx)) host ((version c.c).left host s) := by
  rw [select, breaks_bind_of_ok hfound, if_pos hholds, ← breaks_version_iff]
  refine breaks_bind_of_rest fun partner => ?_
  dsimp only
  split
  · exact reports_fail_bind _ _
  · exact (reports_log _ _ _).bind fun _ => reports_pure _

theorem breaks_select_of_passed (hfound : (version c.c).result host s = .ok found)
    (hother : Text.contains found required = false) :
    Breaks (select required (c :: rest)) host s ↔
      rest ≠ [] ∧ Breaks (select required rest) host
        (passed required found ((version c.c).left host s)) := by
  cases rest with
  | nil =>
    refine iff_of_false ?_ fun h => h.1 rfl
    rw [select, breaks_bind_of_ok hfound, hother, if_neg Bool.false_ne_true]
    exact reports_fail _ _ _
  | cons next rest =>
    have hrest : next :: rest ≠ [] := List.cons_ne_nil _ _
    unfold Breaks
    rw [(select_of_passed hfound hother hrest).1, and_iff_right hrest]

/-- A search ends without a report exactly if one of the compilers that it asks does. -/
theorem breaks_select_iff {candidates : List Compilers} :
    Breaks (select required candidates) host s ↔
      ∃ tool s', Asks required host candidates s tool s' ∧
        Breaks (Job.start (probe tool)) host s' := by
  induction candidates generalizing s with
  | nil =>
    refine iff_of_false (reports_fail _ _ _) ?_
    rintro ⟨tool, s', hasks, -⟩
    cases hasks
  | cons c rest ih =>
    constructor
    · intro h
      cases hfound : (version c.c).result host s with
      | error f =>
        rw [select, breaks_bind, breaks_version_iff, hfound] at h
        obtain h | ⟨found, hok, -⟩ := h
        · exact ⟨_, _, .first c rest s, h⟩
        · cases hok
      | ok found =>
        cases hholds : Text.contains found required with
        | true =>
          rw [breaks_select_of_holds hfound hholds] at h
          exact ⟨_, _, .partner rest ⟨hfound, rfl⟩ hholds, h⟩
        | false =>
          obtain ⟨-, h⟩ := (breaks_select_of_passed hfound hholds).1 h
          obtain ⟨tool, s', hasks, h⟩ := ih.1 h
          exact ⟨tool, s', .later ⟨hfound, rfl⟩ hholds hasks, h⟩
    · rintro ⟨tool, s', hasks, h⟩
      cases hasks with
      | first =>
        rw [select, breaks_bind, breaks_version_iff]
        exact Or.inl h
      | partner _ hfound hholds =>
        obtain ⟨hfound, rfl⟩ := hfound
        exact (breaks_select_of_holds hfound hholds).2 h
      | later hfound hother hasks =>
        obtain ⟨hfound, rfl⟩ := hfound
        refine (breaks_select_of_passed hfound hother).2 ⟨?_, ih.2 ⟨tool, s', hasks, h⟩⟩
        rintro rfl
        cases hasks

end Compilers

namespace CMake

theorem breaks_runStep_iff {call : Call} {folder : Path} {step : String} :
    Breaks (runStep call folder step) host s ↔
      Breaks (Job.start call) host ((announce call folder).left host s) := by
  unfold runStep
  refine (breaks_bind_of_ok rfl).trans (breaks_bind_of_rest fun answer => ?_)
  cases answer with
  | error e => exact reports_fail _
  | ok exit =>
    dsimp only
    split
    · exact reports_fail_bind _ _
    · split
      · exact reports_log _ _ _
      · exact reports_pure _

/-- Building a library ends without a report exactly if its folder can not be made or a call of
CMake does. -/
theorem breaks_build_iff {c : Config} {target profile program : String} {outDir : Path} :
    Breaks (build c target outDir profile program) host s ↔
      Breaks (ensureFolders (buildDir outDir)) host s ∨
      ∃ call s', Starts host c target outDir profile program s call s' ∧
        Breaks (Job.start call) host s' := by
  have hentered : Breaks (enter c target outDir profile) host s ↔
      Breaks (ensureFolders (buildDir outDir)) host s :=
    breaks_bind_of_rest fun _ => reports_log _ _ _
  rw [build_eq_enter, breaks_bind, hentered]
  refine or_congr_right ⟨?_, ?_⟩
  · rintro ⟨⟨⟩, hentered, h⟩
    obtain h | ⟨⟨⟩, hconfigured, h⟩ := breaks_bind.1 h
    · exact ⟨_, _, .configure ⟨hentered, rfl⟩ ⟨rfl, rfl⟩, breaks_runStep_iff.1 h⟩
    · exact ⟨_, _, .build ⟨hentered, rfl⟩ ⟨hconfigured, rfl⟩ ⟨rfl, rfl⟩, breaks_runStep_iff.1 h⟩
  · rintro ⟨call, s', hstarts, h⟩
    cases hstarts with
    | configure hentered hannounced =>
      obtain ⟨hentered, rfl⟩ := hentered
      obtain ⟨-, rfl⟩ := hannounced
      exact ⟨(), hentered, breaks_bind.2 (Or.inl (breaks_runStep_iff.2 h))⟩
    | build hentered hconfigured hannounced =>
      obtain ⟨hentered, rfl⟩ := hentered
      obtain ⟨hconfigured, rfl⟩ := hconfigured
      obtain ⟨-, rfl⟩ := hannounced
      refine ⟨(), hentered, (breaks_bind_of_ok hconfigured).2 ?_⟩
      exact breaks_runStep_iff.2 h

end CMake

namespace Native

theorem reports_defineParameters (t : Target) (label : String) (params : Parameters)
    (c : CMake.Config) : Reports (defineParameters t label params c) := by
  unfold defineParameters
  dsimp only
  split
  · refine (reports_warn _ _).bind fun _ => ?_
    exact (reports_forM (fun _ => reports_log _ _ _) _).bind fun _ => reports_pure _
  · exact (reports_forM (fun _ => reports_log _ _ _) _).bind fun _ => reports_pure _

theorem reports_config (t : Target) (l : Layout) : Reports (config t l) := by
  unfold config
  dsimp only
  split
  · exact reports_pure _
  · split
    · unfold configureAndroid
      refine (reports_get _).bind fun home => ?_
      refine (reports_defineParameters _ _ _ _).bind fun c => ?_
      exact (reports_log _ _ _).bind fun _ => reports_pure _
    · exact reports_defineParameters _ _ _ _
    · unfold configureIos
      refine (reports_defineParameters _ _ _ _).bind fun c => ?_
      dsimp only
      split <;> exact reports_pure _
    · exact reports_pure _
    · unfold configureLinux
      split
      · exact reports_pure _
      · exact (reports_warn _ _).bind fun _ => reports_pure _
    · exact reports_pure _
    · exact (reports_warn _ _).bind fun _ => reports_pure _

theorem breaks_chooseCompilers_iff {c : CMake.Config} :
    Breaks (chooseCompilers t c) host s ↔
      t.enables .fips = true ∧
        ∃ tool s', Compilers.Asks Compilers.requiredVersion host Compilers.candidates s tool s' ∧
          Breaks (Job.start (Compilers.probe tool)) host s' := by
  unfold chooseCompilers
  rw [← Compilers.breaks_select_iff]
  split
  · rename_i hfips
    rw [and_iff_right hfips]
    exact breaks_bind_of_rest fun _ => reports_pure _
  · rename_i hfips
    exact iff_of_false (reports_pure _ _ _) fun h => hfips h.1

theorem breaks_configured_iff :
    Breaks (configured t l) host s ↔
      Breaks (Source.ensure t.projectDir (l.sourceName (t.enables .fips)) l.git) host s ∨
      ∃ fetched c s₁ s₂,
        Yields (Source.ensure t.projectDir (l.sourceName (t.enables .fips)) l.git)
          host s fetched s₁ ∧
        Yields (config t l) host s₁ c s₂ ∧
        Breaks (chooseCompilers t (withFuzzing t c)) host s₂ := by
  unfold configured
  rw [breaks_bind]
  refine or_congr_right ⟨?_, ?_⟩
  · rintro ⟨fetched, hfetched, h⟩
    obtain ⟨c, hconfig, h⟩ := (breaks_bind_of_reports (reports_config t l)).1 h
    exact ⟨fetched, c, _, _, ⟨hfetched, rfl⟩, ⟨hconfig, rfl⟩, h⟩
  · rintro ⟨fetched, c, _, _, ⟨hfetched, rfl⟩, ⟨hconfig, rfl⟩, h⟩
    exact ⟨fetched, hfetched, (breaks_bind_of_ok hconfig).2 h⟩

theorem breaks_buildWith_iff {c : CMake.Config} :
    Breaks (buildWith t l c) host s ↔
      ∃ p, t.profile = .ok p ∧
        (t.enables .ssl = true ∧ Breaks (buildLibrary t l c p "ssl") host s ∨
          ∃ s', Yields (buildOptional t l c p) host s () s' ∧
            Breaks (buildLibrary t l c p "crypto") host s') := by
  cases hprofile : t.profile with
  | error p =>
    unfold buildWith
    rw [breaks_get_bind, hprofile]
    simp
  | ok p =>
    have hoptional : Breaks (buildOptional t l c p) host s ↔
        t.enables .ssl = true ∧ Breaks (buildLibrary t l c p "ssl") host s := by
      unfold buildOptional
      split
      · rename_i hssl
        rw [and_iff_right hssl]
      · rename_i hssl
        exact iff_of_false (reports_pure _ _ _) fun h => hssl h.1
    have hlibrary (s' : Session) : Breaks (buildLibrary t l c p "crypto" >>= fun _ =>
        pure t.outDir) host s' ↔ Breaks (buildLibrary t l c p "crypto") host s' :=
      breaks_bind_of_rest fun _ => reports_pure _
    rw [buildWith_eq hprofile, breaks_bind, hoptional]
    simp only [hlibrary, Except.ok.injEq, exists_eq_left']
    refine or_congr_right ⟨?_, ?_⟩
    · rintro ⟨⟨⟩, hbuilt, h⟩
      exact ⟨_, ⟨hbuilt, rfl⟩, h⟩
    · rintro ⟨_, ⟨hbuilt, rfl⟩, h⟩
      exact ⟨(), hbuilt, h⟩

end Native

namespace Bindings

/-- The request for the folder of toolchains. -/
def listToolchains (home : Path) : Job (Except ErrorCode (List (String × Entry))) :=
  Job.ask (Ndk.prebuiltDir home) fun d cwd => d.list cwd (Ndk.prebuiltDir home)

theorem breaks_locate_iff {home : Path} :
    Breaks (Ndk.locate (Ndk.prebuiltDir home)) host s ↔ Breaks (listToolchains home) host s := by
  unfold Ndk.locate
  refine breaks_bind_of_rest fun answer => ?_
  cases answer with
  | error code => exact reports_fail _
  | ok entries =>
    dsimp only
    split
    · exact reports_pure _
    · exact reports_fail _

theorem breaks_appleSysroot_iff {sdk xcrun : String} :
    Breaks (appleSysroot sdk xcrun) host s ↔ Breaks (Job.start (sdkCall sdk xcrun)) host s := by
  rw [appleSysroot_eq]
  refine breaks_bind_of_rest fun answer => ?_
  cases answer with
  | error e => exact (reports_warn _ _).bind fun _ => reports_pure _
  | ok exit =>
    unfold sysrootOf
    dsimp only
    split
    · exact reports_pure _
    · refine (reports_warn _ _).bind fun _ => ?_
      split
      · exact (reports_log _ _ _).bind fun _ => reports_pure _
      · exact reports_pure _

theorem breaks_sysrootArguments_iff :
    Breaks (sysrootArguments t l) host s ↔
      t.platform = .android ∧
        (∃ home, t.ndkHome = some home ∧ Breaks (listToolchains home) host s) ∨
      (t.platform = .ios ∨ t.platform = .macos) ∧
        ∃ sdk, appleSdk t.triple = .ok sdk ∧ Breaks (Job.start (sdkCall sdk l.xcrun)) host s := by
  have hhome (home : Path) : t.requireNdkHome = .ok home ↔ t.ndkHome = some home := by
    unfold Target.requireNdkHome
    cases t.ndkHome <;> simp
  by_cases happle : t.platform = .ios ∨ t.platform = .macos
  · have handroid : t.platform ≠ .android := by
      rintro h
      rw [h] at happle
      simp at happle
    rw [sysrootArguments_apple happle, breaks_get_bind]
    simp only [handroid, happle, false_and, true_and, false_or]
    refine exists_congr fun sdk => and_congr_right fun _ => ?_
    rw [breaks_bind_of_rest fun _ => reports_pure _, breaks_appleSysroot_iff]
  · simp only [happle, false_and, or_false]
    unfold sysrootArguments
    cases hplatform : t.platform with
    | ios => exact absurd (Or.inl hplatform) happle
    | macos => exact absurd (Or.inr hplatform) happle
    | android =>
      simp only [breaks_get_bind, hhome, true_and]
      refine exists_congr fun home => and_congr_right fun _ => ?_
      rw [breaks_bind_of_rest fun _ => reports_pure _, breaks_locate_iff]
    | wasi | windows | linux | other =>
      exact iff_of_false (reports_pure _ _ _) fun h => nomatch h.1

/-- What comes before the folder of the bindings is made: the call is put together and told. -/
def announced (t : Target) (l : Layout) (root temporary : Path) : Job Call := do
  let c ← call t l root temporary
  Job.log .info .bindings ("Generating " ++ (outputPath t l).text)
  Job.log .debug .bindings ("Running " ++ " ".intercalate c.words)
  return c

theorem breaks_getReady_iff {root : Path} :
    Breaks (getReady t l root) host s ↔
      Breaks (MonadExcept.ofExcept (temporaryPath (outputPath t l)) : Job Path) host s ∨
      ∃ temporary, temporaryPath (outputPath t l) = .ok temporary ∧
        (Breaks (sysrootArguments t l) host s ∨
          ∃ c, (announced t l root temporary).result host s = .ok c ∧
            Breaks (ensureFolders (outputPath t l).parent) host
              ((announced t l root temporary).left host s)) := by
  have hready : getReady t l root =
      MonadExcept.ofExcept (temporaryPath (outputPath t l)) >>= fun temporary =>
        announced t l root temporary >>= fun c =>
          ensureFolders (outputPath t l).parent >>= fun _ => pure (temporary, c) := by
    unfold getReady announced
    simp only [bind_assoc, pure_bind]
  have hannounced (temporary : Path) : Breaks (announced t l root temporary) host s ↔
      Breaks (sysrootArguments t l) host s := by
    have hcall : Breaks (call t l root temporary) host s ↔ Breaks (sysrootArguments t l) host s :=
      breaks_bind_of_rest fun _ => reports_pure _
    rw [← hcall]
    exact breaks_bind_of_rest fun c => (reports_log _ _ _).bind fun _ => (reports_log _ _ _).bind
      fun _ => reports_pure _
  rw [hready, breaks_bind, result_ofExcept, left_ofExcept]
  refine or_congr_right (exists_congr fun temporary => and_congr_right fun _ => ?_)
  rw [breaks_bind, hannounced]
  refine or_congr_right (exists_congr fun c => and_congr_right fun _ => ?_)
  exact breaks_bind_of_rest fun _ => reports_pure _

/-- The generator could not be started or has ended badly. -/
def GaveUp (answer : Except SystemError Exit) : Prop := ∀ exit, answer = .ok exit → exit.code ≠ 0

theorem refuses_temporaryPath (output : Path) :
    Refuses (MonadExcept.ofExcept (temporaryPath output) : Job Path) := by
  intro host s f h
  rw [result_ofExcept] at h
  unfold temporaryPath at h
  split at h <;> cases h
  rfl

theorem breaks_publish_iff {temporary : Path} {c : Call} {answer : Except SystemError Exit} :
    Breaks (publish t l temporary c answer) host s ↔
      GaveUp answer ∧ Breaks (removeFile temporary) host s ∨
      ¬GaveUp answer ∧ (Breaks (isPresent temporary) host s ∨
        (isPresent temporary).result host s = .ok true ∧
          Breaks (rename temporary (outputPath t l)) host s) := by
  unfold publish
  cases answer with
  | error e =>
    have hgaveUp : GaveUp (.error e) := nofun
    dsimp only
    rw [breaks_bind_of_rest fun _ => reports_fail _]
    simp [hgaveUp]
  | ok exit =>
    dsimp only
    by_cases hcode : exit.code = 0
    · have hgaveUp : ¬GaveUp (.ok exit) := fun h => h exit rfl hcode
      have hrename : Breaks (rename temporary (outputPath t l) >>= fun _ => pure (outputPath t l))
          host s ↔ Breaks (rename temporary (outputPath t l)) host s :=
        breaks_bind_of_rest fun _ => reports_pure _
      rw [if_neg fun h => h hcode, breaks_bind, left_isPresent]
      simp only [hgaveUp, false_and, not_false_eq_true, true_and, false_or]
      refine or_congr_right ⟨?_, fun ⟨hpresent, h⟩ => ⟨true, hpresent, hrename.2 h⟩⟩
      rintro ⟨present, hpresent, h⟩
      cases present with
      | true => exact ⟨hpresent, hrename.1 h⟩
      | false => exact absurd h (reports_fail_bind _ _ host s)
    · have hgaveUp : GaveUp (.ok exit) := fun exit' h => by cases h; exact hcode
      rw [if_pos hcode, breaks_bind_of_rest fun _ => reports_fail_bind _ _]
      simp [hgaveUp]

/-- Generating the bindings ends without a report exactly if getting ready does, or the generator,
or what is done after it. -/
theorem breaks_generate_iff {root : Path} :
    Breaks (generate t l root) host s ↔
      Breaks (getReady t l root) host s ∨
      ∃ temporary c s₁, Yields (getReady t l root) host s (temporary, c) s₁ ∧
        (Breaks (Job.start c) host s₁ ∨
          ∃ answer s₂, Yields (Job.start c) host s₁ answer s₂ ∧
            Breaks (publish t l temporary c answer) host s₂) := by
  rw [generate_eq_publish, breaks_bind]
  refine or_congr_right ⟨?_, ?_⟩
  · rintro ⟨⟨temporary, c⟩, hready, h⟩
    refine ⟨temporary, c, _, ⟨hready, rfl⟩, ?_⟩
    obtain h | ⟨answer, hanswer, h⟩ := breaks_bind.1 h
    · exact Or.inl h
    · exact Or.inr ⟨answer, _, ⟨hanswer, rfl⟩, h⟩
  · rintro ⟨temporary, c, _, ⟨hready, rfl⟩, h⟩
    refine ⟨(temporary, c), hready, breaks_bind.2 (h.imp_right ?_)⟩
    rintro ⟨answer, _, ⟨hanswer, rfl⟩, h⟩
    exact ⟨answer, hanswer, h⟩

end Bindings

namespace Pipeline

theorem breaks_prepare_iff :
    Breaks (prepare t l) host s ↔ Breaks (removeFile (Bindings.outputPath t l)) host s := by
  unfold prepare
  refine breaks_bind_of_rest fun _ => (reports_emit _).bind fun _ => ?_
  split
  · exact reports_emit _
  · exact reports_pure _

theorem breaks_link_iff :
    Breaks (link t l) host s ↔
      t.prebuilt = none ∧
        (Breaks (Native.configured t l) host s ∨
          ∃ c s', Yields (Native.configured t l) host s c s' ∧
            Breaks (Native.buildWith t l c) host s') := by
  have hrest (root : Path) : Reports (Link.emit root t >>= fun _ => Job.emit headersVariable) := by
    refine Reports.bind ?_ fun _ => reports_emit _
    unfold Link.emit
    refine (reports_get _).bind fun a => ?_
    exact (reports_forM reports_emit _).bind fun _ => reports_pure _
  unfold link
  rw [breaks_bind_of_rest hrest]
  unfold buildRoot
  cases t.prebuilt with
  | some root => simpa using (reports_log _ _ _).bind (fun _ => reports_pure root) host s
  | none =>
    simp only [true_and]
    rw [Native.build_eq_configured, breaks_bind]
    refine or_congr_right ⟨?_, ?_⟩
    · rintro ⟨c, hconfigured, h⟩
      exact ⟨c, _, ⟨hconfigured, rfl⟩, h⟩
    · rintro ⟨c, _, ⟨hconfigured, rfl⟩, h⟩
      exact ⟨c, hconfigured, h⟩

/-- The requests that a run makes without thinking of a refusal, with the sessions that it makes
them in. A start of a tool is one of them: a call with a NUL character is refused, and so is an
output that is not text. -/
inductive Makes (host : Host) (s : Session) (t : Target) (l : Layout) :
    {β : Type} → Job β → Session → Prop where
  | removeOld : Makes host s t l (removeFile (Bindings.outputPath t l)) s
  | findSources {s₁ : Session} (hprepared : Yields (prepare t l) host s () s₁)
      (hprebuilt : t.prebuilt = none) :
      Makes host s t l (Source.isPresent (Native.sourceDir t l)) s₁
  | makeOptionalFolder {s₁ s₂ : Session} {c : CMake.Config} {p : Profile}
      (hprepared : Yields (prepare t l) host s () s₁) (hprebuilt : t.prebuilt = none)
      (hconfigured : Yields (Native.configured t l) host s₁ c s₂) (hprofile : t.profile = .ok p)
      (hssl : t.enables .ssl = true) :
      Makes host s t l (ensureFolders (CMake.buildDir t.outDir)) s₂
  | makeBuildFolder {s₁ s₂ s₃ : Session} {c : CMake.Config} {p : Profile}
      (hprepared : Yields (prepare t l) host s () s₁) (hprebuilt : t.prebuilt = none)
      (hconfigured : Yields (Native.configured t l) host s₁ c s₂) (hprofile : t.profile = .ok p)
      (hbuilt : Yields (Native.buildOptional t l c p) host s₂ () s₃) :
      Makes host s t l (ensureFolders (CMake.buildDir t.outDir)) s₃
  | start {s' : Session} {call : Call} (hstarts : Starts host s t l call s') :
      Makes host s t l (Job.start call) s'
  | nameTemporary {s₁ : Session} (hlinked : Yields (beforeBindings t l) host s () s₁) :
      Makes host s t l
        (MonadExcept.ofExcept (Bindings.temporaryPath (Bindings.outputPath t l)) : Job Path) s₁
  | listToolchains {s₁ : Session} {temporary home : Path}
      (hlinked : Yields (beforeBindings t l) host s () s₁)
      (htemporary : Bindings.temporaryPath (Bindings.outputPath t l) = .ok temporary)
      (hplatform : t.platform = .android) (hhome : t.ndkHome = some home) :
      Makes host s t l (Bindings.listToolchains home) s₁
  | makeFolder {s₁ s₂ : Session} {temporary : Path} {c : Call}
      (hlinked : Yields (beforeBindings t l) host s () s₁)
      (htemporary : Bindings.temporaryPath (Bindings.outputPath t l) = .ok temporary)
      (hannounced : Yields (Bindings.announced t l (headerRoot t l) temporary) host s₁ c s₂) :
      Makes host s t l (ensureFolders (Bindings.outputPath t l).parent) s₂
  | removeTemporary {s₁ s₂ s₃ : Session} {temporary : Path} {c : Call}
      {answer : Except SystemError Exit} (hlinked : Yields (beforeBindings t l) host s () s₁)
      (hready : Yields (Bindings.getReady t l (headerRoot t l)) host s₁ (temporary, c) s₂)
      (hstarted : Yields (Job.start c) host s₂ answer s₃) (hgaveUp : Bindings.GaveUp answer) :
      Makes host s t l (removeFile temporary) s₃
  | findTemporary {s₁ s₂ s₃ : Session} {temporary : Path} {c : Call}
      {answer : Except SystemError Exit} (hlinked : Yields (beforeBindings t l) host s () s₁)
      (hready : Yields (Bindings.getReady t l (headerRoot t l)) host s₁ (temporary, c) s₂)
      (hstarted : Yields (Job.start c) host s₂ answer s₃) (hended : ¬Bindings.GaveUp answer) :
      Makes host s t l (isPresent temporary) s₃
  | publish {s₁ s₂ s₃ : Session} {temporary : Path} {c : Call}
      {answer : Except SystemError Exit} (hlinked : Yields (beforeBindings t l) host s () s₁)
      (hready : Yields (Bindings.getReady t l (headerRoot t l)) host s₁ (temporary, c) s₂)
      (hstarted : Yields (Job.start c) host s₂ answer s₃) (hended : ¬Bindings.GaveUp answer)
      (hpresent : (isPresent temporary).result host s₃ = .ok true) :
      Makes host s t l (rename temporary (Bindings.outputPath t l)) s₃

/-- Some request of the run is refused. -/
def IsRefused (host : Host) (s : Session) (t : Target) (l : Layout) : Prop :=
  ∃ (β : Type) (q : Job β) (s' : Session), Makes host s t l q s' ∧ Breaks q host s'

/-! ### What breaks a run is refused -/

theorem isRefused_of_configured {s₁ : Session} (hprepared : Yields (prepare t l) host s () s₁)
    (hprebuilt : t.prebuilt = none) (h : Breaks (Native.configured t l) host s₁) :
    IsRefused host s t l := by
  obtain h | ⟨fetched, c, s₂, s₃, hfetched, hconfig, h⟩ := Native.breaks_configured_iff.1 h
  · obtain h | ⟨hmissing, h⟩ := Source.breaks_ensure_iff.1 h
    · exact ⟨_, _, _, .findSources hprepared hprebuilt, h⟩
    · have hstarts := Native.Starts.fetch hmissing ⟨rfl, rfl⟩
      exact ⟨_, _, _, .start (.native hprepared hprebuilt hstarts), h⟩
  · obtain ⟨hfips, tool, s', hasks, h⟩ := Native.breaks_chooseCompilers_iff.1 h
    have hstarts := Native.Starts.probe hfetched hconfig hfips hasks
    exact ⟨_, _, _, .start (.native hprepared hprebuilt hstarts), h⟩

theorem isRefused_of_buildWith {s₁ s₂ : Session} {c : CMake.Config}
    (hprepared : Yields (prepare t l) host s () s₁) (hprebuilt : t.prebuilt = none)
    (hconfigured : Yields (Native.configured t l) host s₁ c s₂)
    (h : Breaks (Native.buildWith t l c) host s₂) : IsRefused host s t l := by
  obtain ⟨p, hprofile, ⟨hssl, h⟩ | ⟨s₃, hbuilt, h⟩⟩ := Native.breaks_buildWith_iff.1 h
  · obtain h | ⟨call, s', hstarts, h⟩ := CMake.breaks_build_iff.1 h
    · exact ⟨_, _, _, .makeOptionalFolder hprepared hprebuilt hconfigured hprofile hssl, h⟩
    · have hstarts := Native.Starts.optional hconfigured hprofile hssl hstarts
      exact ⟨_, _, _, .start (.native hprepared hprebuilt hstarts), h⟩
  · obtain h | ⟨call, s', hstarts, h⟩ := CMake.breaks_build_iff.1 h
    · exact ⟨_, _, _, .makeBuildFolder hprepared hprebuilt hconfigured hprofile hbuilt, h⟩
    · have hstarts := Native.Starts.library hconfigured hprofile hbuilt hstarts
      exact ⟨_, _, _, .start (.native hprepared hprebuilt hstarts), h⟩

theorem isRefused_of_getReady {s₁ : Session} (hlinked : Yields (beforeBindings t l) host s () s₁)
    (h : Breaks (Bindings.getReady t l (headerRoot t l)) host s₁) : IsRefused host s t l := by
  obtain h | ⟨temporary, htemporary, h | ⟨c, hannounced, h⟩⟩ := Bindings.breaks_getReady_iff.1 h
  · exact ⟨_, _, _, .nameTemporary hlinked, h⟩
  · obtain ⟨hplatform, home, hhome, h⟩ | ⟨happle, sdk, hsdk, h⟩ :=
      Bindings.breaks_sysrootArguments_iff.1 h
    · exact ⟨_, _, _, .listToolchains hlinked htemporary hplatform hhome, h⟩
    · exact ⟨_, _, _, .start (.findSdk hlinked htemporary happle hsdk), h⟩
  · exact ⟨_, _, _, .makeFolder hlinked htemporary ⟨hannounced, rfl⟩, h⟩

theorem isRefused_of_generate {s₁ : Session} (hlinked : Yields (beforeBindings t l) host s () s₁)
    (h : Breaks (generateBindings t l) host s₁) : IsRefused host s t l := by
  obtain h | ⟨temporary, c, s₂, hready, h | ⟨answer, s₃, hstarted, h⟩⟩ :=
    Bindings.breaks_generate_iff.1 h
  · exact isRefused_of_getReady hlinked h
  · exact ⟨_, _, _, .start (.generate hlinked hready), h⟩
  · obtain ⟨hgaveUp, h⟩ | ⟨hended, h | ⟨hpresent, h⟩⟩ := Bindings.breaks_publish_iff.1 h
    · exact ⟨_, _, _, .removeTemporary hlinked hready hstarted hgaveUp, h⟩
    · exact ⟨_, _, _, .findTemporary hlinked hready hstarted hended, h⟩
    · exact ⟨_, _, _, .publish hlinked hready hstarted hended hpresent, h⟩

/-- A run that ends without a report has made a request that was refused. -/
theorem isRefused_of_breaks (h : Breaks (run t l) host s) : IsRefused host s t l := by
  rw [run_eq_beforeBindings, breaks_bind] at h
  obtain h | ⟨⟨⟩, hlinked, h⟩ := h
  · obtain h | ⟨⟨⟩, hprepared, h⟩ := breaks_bind.1 h
    · exact ⟨_, _, _, .removeOld, breaks_prepare_iff.1 h⟩
    · obtain ⟨hprebuilt, h | ⟨c, s', hconfigured, h⟩⟩ := breaks_link_iff.1 h
      · exact isRefused_of_configured ⟨hprepared, rfl⟩ hprebuilt h
      · exact isRefused_of_buildWith ⟨hprepared, rfl⟩ hprebuilt hconfigured h
  · exact isRefused_of_generate ⟨hlinked, rfl⟩ h

/-! ### What is refused breaks the run -/

theorem breaks_run_of_prepare (h : Breaks (prepare t l) host s) : Breaks (run t l) host s := by
  rw [run_eq_beforeBindings]
  exact breaks_bind.2 (Or.inl (breaks_bind.2 (Or.inl h)))

theorem breaks_run_of_configured {s₁ : Session} (hprepared : Yields (prepare t l) host s () s₁)
    (hprebuilt : t.prebuilt = none) (h : Breaks (Native.configured t l) host s₁) :
    Breaks (run t l) host s := by
  obtain ⟨hprepared, rfl⟩ := hprepared
  rw [run_eq_beforeBindings]
  refine breaks_bind.2 (Or.inl ((breaks_bind_of_ok hprepared).2 ?_))
  exact breaks_link_iff.2 ⟨hprebuilt, Or.inl h⟩

theorem breaks_run_of_buildWith {s₁ s₂ : Session} {c : CMake.Config}
    (hprepared : Yields (prepare t l) host s () s₁) (hprebuilt : t.prebuilt = none)
    (hconfigured : Yields (Native.configured t l) host s₁ c s₂)
    (h : Breaks (Native.buildWith t l c) host s₂) : Breaks (run t l) host s := by
  obtain ⟨hprepared, rfl⟩ := hprepared
  rw [run_eq_beforeBindings]
  refine breaks_bind.2 (Or.inl ((breaks_bind_of_ok hprepared).2 ?_))
  exact breaks_link_iff.2 ⟨hprebuilt, Or.inr ⟨c, s₂, hconfigured, h⟩⟩

theorem breaks_run_of_generate {s₁ : Session} (hlinked : Yields (beforeBindings t l) host s () s₁)
    (h : Breaks (generateBindings t l) host s₁) : Breaks (run t l) host s := by
  obtain ⟨hlinked, rfl⟩ := hlinked
  rw [run_eq_beforeBindings, breaks_bind_of_ok hlinked]
  exact h

theorem breaks_run_of_sysroot {s₁ : Session} {temporary : Path}
    (hlinked : Yields (beforeBindings t l) host s () s₁)
    (htemporary : Bindings.temporaryPath (Bindings.outputPath t l) = .ok temporary)
    (h : Breaks (Bindings.sysrootArguments t l) host s₁) : Breaks (run t l) host s := by
  refine breaks_run_of_generate hlinked (Bindings.breaks_generate_iff.2 (Or.inl ?_))
  exact Bindings.breaks_getReady_iff.2 (Or.inr ⟨temporary, htemporary, Or.inl h⟩)

theorem breaks_run_of_publish {s₁ s₂ s₃ : Session} {temporary : Path} {c : Call}
    {answer : Except SystemError Exit} (hlinked : Yields (beforeBindings t l) host s () s₁)
    (hready : Yields (Bindings.getReady t l (headerRoot t l)) host s₁ (temporary, c) s₂)
    (hstarted : Yields (Job.start c) host s₂ answer s₃)
    (h : Breaks (Bindings.publish t l temporary c answer) host s₃) : Breaks (run t l) host s := by
  refine breaks_run_of_generate hlinked (Bindings.breaks_generate_iff.2 (Or.inr ?_))
  exact ⟨temporary, c, s₂, hready, Or.inr ⟨answer, s₃, hstarted, h⟩⟩

/-- A tool of the native build that can not be started or read ends the run without a report. -/
theorem breaks_run_of_native {s₁ s' : Session} {call : Call}
    (hprepared : Yields (prepare t l) host s () s₁) (hprebuilt : t.prebuilt = none)
    (hstarts : Native.Starts host s₁ t l call s') (h : Breaks (Job.start call) host s') :
    Breaks (run t l) host s := by
  cases hstarts with
  | fetch hmissing hannounced =>
    obtain ⟨-, rfl⟩ := hannounced
    refine breaks_run_of_configured hprepared hprebuilt (Native.breaks_configured_iff.2 ?_)
    exact Or.inl (Source.breaks_ensure_iff.2 (Or.inr ⟨hmissing, h⟩))
  | probe hfetched hconfig hfips hasks =>
    refine breaks_run_of_configured hprepared hprebuilt (Native.breaks_configured_iff.2 ?_)
    refine Or.inr ⟨_, _, _, _, hfetched, hconfig, ?_⟩
    exact Native.breaks_chooseCompilers_iff.2 ⟨hfips, _, _, hasks, h⟩
  | optional hconfigured hprofile hssl hstarts =>
    refine breaks_run_of_buildWith hprepared hprebuilt hconfigured ?_
    refine Native.breaks_buildWith_iff.2 ⟨_, hprofile, Or.inl ⟨hssl, ?_⟩⟩
    exact CMake.breaks_build_iff.2 (Or.inr ⟨_, _, hstarts, h⟩)
  | library hconfigured hprofile hbuilt hstarts =>
    refine breaks_run_of_buildWith hprepared hprebuilt hconfigured ?_
    refine Native.breaks_buildWith_iff.2 ⟨_, hprofile, Or.inr ⟨_, hbuilt, ?_⟩⟩
    exact CMake.breaks_build_iff.2 (Or.inr ⟨_, _, hstarts, h⟩)

theorem Starts.breaks_run {s' : Session} {call : Call} (hstarts : Starts host s t l call s')
    (h : Breaks (Job.start call) host s') : Breaks (run t l) host s := by
  cases hstarts with
  | native hprepared hprebuilt hstarts => exact breaks_run_of_native hprepared hprebuilt hstarts h
  | findSdk hlinked htemporary happle hsdk =>
    refine breaks_run_of_sysroot hlinked htemporary (Bindings.breaks_sysrootArguments_iff.2 ?_)
    exact Or.inr ⟨happle, _, hsdk, h⟩
  | generate hlinked hready =>
    refine breaks_run_of_generate hlinked (Bindings.breaks_generate_iff.2 ?_)
    exact Or.inr ⟨_, _, _, hready, Or.inl h⟩

/-- A request that is refused ends the run without a report. -/
theorem Makes.breaks_run {β : Type} {q : Job β} {s' : Session} (hmakes : Makes host s t l q s')
    (h : Breaks q host s') : Breaks (run t l) host s := by
  cases hmakes with
  | removeOld => exact breaks_run_of_prepare (breaks_prepare_iff.2 h)
  | findSources hprepared hprebuilt =>
    refine breaks_run_of_configured hprepared hprebuilt (Native.breaks_configured_iff.2 ?_)
    exact Or.inl (Source.breaks_ensure_iff.2 (Or.inl h))
  | makeOptionalFolder hprepared hprebuilt hconfigured hprofile hssl =>
    refine breaks_run_of_buildWith hprepared hprebuilt hconfigured ?_
    refine Native.breaks_buildWith_iff.2 ⟨_, hprofile, Or.inl ⟨hssl, ?_⟩⟩
    exact CMake.breaks_build_iff.2 (Or.inl h)
  | makeBuildFolder hprepared hprebuilt hconfigured hprofile hbuilt =>
    refine breaks_run_of_buildWith hprepared hprebuilt hconfigured ?_
    refine Native.breaks_buildWith_iff.2 ⟨_, hprofile, Or.inr ⟨_, hbuilt, ?_⟩⟩
    exact CMake.breaks_build_iff.2 (Or.inl h)
  | start hstarts => exact hstarts.breaks_run h
  | nameTemporary hlinked =>
    refine breaks_run_of_generate hlinked (Bindings.breaks_generate_iff.2 (Or.inl ?_))
    exact Bindings.breaks_getReady_iff.2 (Or.inl h)
  | listToolchains hlinked htemporary hplatform hhome =>
    refine breaks_run_of_sysroot hlinked htemporary (Bindings.breaks_sysrootArguments_iff.2 ?_)
    exact Or.inl ⟨hplatform, _, hhome, h⟩
  | makeFolder hlinked htemporary hannounced =>
    obtain ⟨hannounced, rfl⟩ := hannounced
    refine breaks_run_of_generate hlinked (Bindings.breaks_generate_iff.2 (Or.inl ?_))
    exact Bindings.breaks_getReady_iff.2 (Or.inr ⟨_, htemporary, Or.inr ⟨_, hannounced, h⟩⟩)
  | removeTemporary hlinked hready hstarted hgaveUp =>
    refine breaks_run_of_publish hlinked hready hstarted ?_
    exact Bindings.breaks_publish_iff.2 (Or.inl ⟨hgaveUp, h⟩)
  | findTemporary hlinked hready hstarted hended =>
    refine breaks_run_of_publish hlinked hready hstarted ?_
    exact Bindings.breaks_publish_iff.2 (Or.inr ⟨hended, Or.inl h⟩)
  | publish hlinked hready hstarted hended hpresent =>
    refine breaks_run_of_publish hlinked hready hstarted ?_
    exact Bindings.breaks_publish_iff.2 (Or.inr ⟨hended, Or.inr ⟨hpresent, h⟩⟩)

/-- No refusal of a request is reported. -/
theorem Makes.refuses {β : Type} {q : Job β} {s' : Session} (h : Makes host s t l q s') :
    Refuses q := by
  cases h with
  | removeOld | removeTemporary => exact refuses_removeFile _
  | findSources | findTemporary => exact refuses_isPresent _
  | makeOptionalFolder | makeBuildFolder | makeFolder => exact refuses_ensureFolders _
  | start => exact refuses_start _
  | nameTemporary => exact Bindings.refuses_temporaryPath _
  | listToolchains => exact refuses_ask _ _
  | publish => exact refuses_rename _ _

end Pipeline

/-! ## The command line -/

namespace CommandLine

variable {env : Environment} {disk : Disk} {parsed : Parsed}

theorem runCommand_of_problem {c : Command} {p : Problem}
    (h : (perform env parsed c).result host { disk } = .error (.problem p)) :
    (runCommand host env disk c parsed).1 =
      .ok (.ran ((perform env parsed c).left host { disk }).log (some p)) := by
  unfold runCommand
  unfold Job.result at h
  unfold Job.left
  cases hrun : ((perform env parsed c).run host).run { disk } with
  | ok a s' =>
    rw [hrun] at h
    cases h
  | error f s' =>
    rw [hrun] at h
    cases h
    rfl

/-- The command builds with the target and the layout that it has read, and fails as the run
fails. -/
theorem result_perform_build {s₁ : Session} {f : Failure}
    (htarget : Yields (target host.cwd env parsed) host { disk } t s₁)
    (hlayout : Yields (layoutOf host.cwd parsed t) host s₁ l s)
    (hproject : lacksProject parsed = false)
    (h : (Pipeline.run t l).result host s = .error f) :
    (perform env parsed .build).result host { disk } = .error f := by
  obtain ⟨htarget, rfl⟩ := htarget
  obtain ⟨hlayout, rfl⟩ := hlayout
  unfold perform
  rw [result_bind_of_ok result_read, left_read, result_bind_of_ok htarget,
    result_bind_of_ok hlayout, hproject]
  exact result_bind_of_error h _

end CommandLine

namespace Pipeline

/-- A machine on which a folder stands where the bindings go. -/
def blockedDisk : Disk := ⟨.folder [("out", .folder [("bindings.rs", .folder [])])]⟩

end Pipeline

end CrossBuild
