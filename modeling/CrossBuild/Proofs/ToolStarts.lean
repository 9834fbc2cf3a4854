-- The tools that a run starts. A run starts its tools one at a time, in sessions that are told
-- by the steps before, and every start of a run is one of those.
import CrossBuild.Proofs.DirectiveStreams
import CrossBuild.Proofs.SdkLookups

namespace CrossBuild

open Job

variable {host : Host} {s : Session} {t : Target} {l : Layout}

/-! ## The starts of a job -/

namespace Job

variable {α β : Type} {starts : Call → Session → Prop}

/-- Actions that start no tool. -/
def Idle (a : Action) : Prop := ∀ call, a ≠ .start call

/-- Every tool that the job starts is listed with the session in which it is started. -/
structure StartsAs (starts : Call → Session → Prop) (j : Job α) (host : Host) (s : Session) :
    Prop where
  within : Within (fun _ => True) j host s
  listed : ∀ before call after, callsOf (j.events host s) = before ++ call :: after →
    ∃ s', starts call s' ∧ callsOf s'.log = callsOf s.log ++ before

theorem startsAs_of_idle {j : Job α} (h : Within Idle j host s) : StartsAs starts j host s where
  within := h.any
  listed before call after hcalls := by
    have hmem : call ∈ callsOf (j.events host s) := by
      rw [hcalls]
      exact List.mem_append_right _ List.mem_cons_self
    exact absurd rfl (h.start_of_mem (mem_callsOf.1 hmem) call)

theorem startsAs_start {call : Call} (h : starts call s) :
    StartsAs starts (start call) host s where
  within := within_start trivial
  listed before call' after hcalls := by
    rw [events_start] at hcalls
    change [call] = before ++ call' :: after at hcalls
    cases before with
    | nil =>
      cases hcalls
      exact ⟨s, h, (List.append_nil _).symm⟩
    | cons first before => simp at hcalls

/-- The starts of the second job come after all those of the first one. -/
theorem StartsAs.bind {x : Job α} {f : α → Job β} (hx : StartsAs starts x host s)
    (hf : ∀ a, x.result host s = .ok a → StartsAs starts (f a) host (x.left host s)) :
    StartsAs starts (x >>= f) host s where
  within := hx.within.bind fun a ha => (hf a ha).within
  listed before call after hcalls := by
    cases hresult : x.result host s with
    | error e =>
      rw [events_bind_of_error hresult] at hcalls
      exact hx.listed before call after hcalls
    | ok a =>
      have hrest := hf a hresult
      rw [events_bind_of_ok hx.within hresult hrest.within, callsOf_append] at hcalls
      have hlater (before' : List Call) (hbefore : before = callsOf (x.events host s) ++ before')
          (hcalls : callsOf ((f a).events host (x.left host s)) = before' ++ call :: after) :
          ∃ s', starts call s' ∧ callsOf s'.log = callsOf s.log ++ before := by
        obtain ⟨s', hstarts, hlog⟩ := hrest.listed before' call after hcalls
        refine ⟨s', hstarts, ?_⟩
        rw [hlog, hx.within.log_left, callsOf_append, List.append_assoc, hbefore]
      rcases List.append_eq_append_iff.1 hcalls with
        ⟨before', hbefore, hcalls⟩ | ⟨between, hfirst, hcalls⟩
      · exact hlater before' hbefore hcalls
      · cases between with
        | nil =>
          rw [List.append_nil] at hfirst
          exact hlater [] (by rw [List.append_nil, hfirst]) hcalls.symm
        | cons first between =>
          obtain ⟨rfl, -⟩ := List.cons.inj hcalls
          exact hx.listed before call between hfirst

/-- What comes before a job starts no tool. -/
theorem StartsAs.after_idle {x : Job α} {f : α → Job β} (hx : Within Idle x host s)
    (hf : ∀ a, x.result host s = .ok a → StartsAs starts (f a) host (x.left host s)) :
    StartsAs starts (x >>= f) host s := (startsAs_of_idle hx).bind hf

theorem idle_emit (d : Directive) : Idle (.emit d) := nofun

end Job

/-! ## The sources -/

namespace Source

variable {starts : Call → Session → Prop} {projectDir : Path} {source git : String}

/-- What is said before the sources are fetched. -/
def announceFetch : Job Unit := Job.emit (.warning "fetching boringssl git submodule")

theorem startsAs_ensure
    (h : ∀ s', (isPresent (projectDir / source)).result host s = .ok false →
      Yields announceFetch host s () s' → starts (fetchCall projectDir source git) s') :
    StartsAs starts (ensure projectDir source git) host s := by
  unfold ensure
  refine StartsAs.after_idle (within_isPresent _) fun present hpresent => ?_
  cases present with
  | true => exact startsAs_of_idle (within_pure _)
  | false =>
    refine StartsAs.after_idle (within_emit (idle_emit _)) fun _ _ => ?_
    refine (startsAs_start (h _ hpresent ⟨rfl, ?_⟩)).bind fun answer _ => startsAs_of_idle ?_
    · exact congrArg (announceFetch.left host) (left_isPresent _).symm
    · cases answer with
      | error e => exact within_fail _
      | ok exit =>
        dsimp only
        split
        · rw [fail_bind]
          exact within_fail _
        · exact Within.bind (within_log _ _ _) fun _ _ => within_pure _

end Source

/-! ## The compilers -/

namespace Compilers

variable {starts : Call → Session → Prop} {required : String}

/-- The compilers that a search asks, with the sessions in which it does: the C compiler of each
candidate, and its partner if it reports the required text. -/
inductive Asks (required : String) (host : Host) :
    List Compilers → Session → String → Session → Prop
  | first (c : Compilers) (rest : List Compilers) (s : Session) :
      Asks required host (c :: rest) s c.c s
  | partner {c : Compilers} (rest : List Compilers) {s s' : Session} {found : String}
      (hfound : Yields (version c.c) host s found s')
      (hholds : Text.contains found required = true) :
      Asks required host (c :: rest) s c.cxx s'
  | later {c : Compilers} {rest : List Compilers} {s s₁ s' : Session} {found tool : String}
      (hfound : Yields (version c.c) host s found s₁)
      (hother : Text.contains found required = false)
      (hasks : Asks required host rest (passed required found s₁) tool s') :
      Asks required host (c :: rest) s tool s'

theorem startsAs_version {tool : String} (h : starts (probe tool) s) :
    StartsAs starts (version tool) host s := by
  unfold version
  refine (startsAs_start h).bind fun answer _ => startsAs_of_idle ?_
  cases answer with
  | error e => exact Within.bind (within_log _ _ _) fun _ _ => within_pure _
  | ok exit =>
    dsimp only
    split
    · rw [fail_bind]
      exact within_fail _
    · exact within_pure _

theorem startsAs_select {candidates : List Compilers}
    (h : ∀ tool s', Asks required host candidates s tool s' → starts (probe tool) s') :
    StartsAs starts (select required candidates) host s := by
  induction candidates generalizing s with
  | nil => exact startsAs_of_idle (within_fail _)
  | cons c rest ih =>
    rw [select]
    refine (startsAs_version (h _ _ (.first c rest s))).bind fun found hfound => ?_
    by_cases hholds : Text.contains found required = true
    · rw [if_pos hholds]
      have hasks := h _ _ (.partner rest ⟨hfound, rfl⟩ hholds)
      refine (startsAs_version hasks).bind fun partner _ => startsAs_of_idle ?_
      dsimp only
      split
      · rw [fail_bind]
        exact within_fail _
      · exact Within.bind (within_log _ _ _) fun _ _ => within_pure _
    · rw [if_neg hholds]
      split
      · exact startsAs_of_idle (within_fail _)
      · have hother : Text.contains found required = false := by simpa using hholds
        have hrest : StartsAs starts (select required rest) host
            (passed required found ((version c.c).left host s)) :=
          ih fun tool s' hasks => h tool s' (.later ⟨hfound, rfl⟩ hother hasks)
        unfold passed at hrest
        dsimp only
        split
        · rename_i hne
          rw [if_pos hne] at hrest
          exact StartsAs.after_idle (within_log _ _ _) fun _ _ => hrest
        · rename_i hne
          rw [if_neg hne] at hrest
          exact hrest

end Compilers

/-! ## CMake -/

namespace CMake

section

variable {starts : Call → Session → Prop} {c : Config} {target profile program : String}
  {outDir : Path}

/-- What is done before CMake is called. -/
def enter (c : Config) (target : String) (outDir : Path) (profile : String) : Job Unit := do
  Job.ensureFolders (buildDir outDir)
  Job.log .info .cmake
    ("Building " ++ target ++ " (" ++ profile ++ ") from " ++ c.sourceDir.text)

/-- What is said before a call of CMake. -/
def announce (call : Call) (folder : Path) : Job Unit :=
  Job.log .debug .cmake ("Running " ++ " ".intercalate call.words ++ " (cwd=" ++ folder.text ++ ")")

/-- The two calls by which CMake builds a library, with the sessions in which they are made. -/
inductive Starts (host : Host) (c : Config) (target : String) (outDir : Path)
    (profile program : String) (s : Session) : Call → Session → Prop
  | configure {s₁ s₂ : Session} (hentered : Yields (enter c target outDir profile) host s () s₁)
      (hannounced : Yields (announce (configureCall c outDir profile program) (buildDir outDir))
        host s₁ () s₂) :
      Starts host c target outDir profile program s (configureCall c outDir profile program) s₂
  | build {s₁ s₂ s₃ : Session} (hentered : Yields (enter c target outDir profile) host s () s₁)
      (hconfigured : Yields
        (runStep (configureCall c outDir profile program) (buildDir outDir) "configure")
        host s₁ () s₂)
      (hannounced : Yields (announce (buildCall target outDir profile program) (buildDir outDir))
        host s₂ () s₃) :
      Starts host c target outDir profile program s (buildCall target outDir profile program) s₃

theorem build_eq_enter :
    build c target outDir profile program = enter c target outDir profile >>= fun _ =>
      runStep (configureCall c outDir profile program) (buildDir outDir) "configure" >>= fun _ =>
        runStep (buildCall target outDir profile program) (buildDir outDir)
          ("build --target " ++ target) := by
  unfold build enter
  simp only [bind_assoc]
  rfl

theorem startsAs_runStep {call : Call} {folder : Path} {step : String}
    (h : ∀ s', Yields (announce call folder) host s () s' → starts call s') :
    StartsAs starts (runStep call folder step) host s := by
  unfold runStep
  refine StartsAs.after_idle (within_log _ _ _) fun _ _ => ?_
  refine (startsAs_start (h _ ⟨rfl, rfl⟩)).bind fun answer _ => startsAs_of_idle ?_
  cases answer with
  | error e => exact within_fail _
  | ok exit =>
    dsimp only
    split
    · rw [fail_bind]
      exact within_fail _
    · split
      · exact within_log _ _ _
      · exact within_pure _

theorem startsAs_build
    (h : ∀ call s', Starts host c target outDir profile program s call s' → starts call s') :
    StartsAs starts (build c target outDir profile program) host s := by
  rw [build_eq_enter]
  refine StartsAs.after_idle ?_ fun _ hentered => ?_
  · exact Within.bind (within_ensureFolders nofun) fun _ _ => within_log _ _ _
  · refine (startsAs_runStep fun s' hannounced => ?_).bind fun _ hconfigured => ?_
    · exact h _ _ (.configure ⟨hentered, rfl⟩ hannounced)
    · refine startsAs_runStep fun s' hannounced => ?_
      exact h _ _ (.build ⟨hentered, rfl⟩ ⟨hconfigured, rfl⟩ hannounced)

end

end CMake

/-! ## The native library -/

namespace Native

variable {starts : Call → Session → Prop} {c : CMake.Config} {p : Profile}

/-- What a build does before it knows what to configure: it fetches the sources and chooses the
compilers. -/
def configured (t : Target) (l : Layout) : Job CMake.Config := do
  let _ ← Source.ensure t.projectDir (l.sourceName (t.enables .fips)) l.git
  chooseCompilers t (withFuzzing t (← config t l))

theorem build_eq_configured (t : Target) (l : Layout) :
    build t l = configured t l >>= buildWith t l := by
  rw [build_eq]
  unfold configured
  simp only [bind_assoc]

/-- The build of one library. -/
def buildLibrary (t : Target) (l : Layout) (c : CMake.Config) (p : Profile) (name : String) :
    Job Unit := CMake.build c name t.outDir p.name l.cmake

/-- What is built before the library that every build needs. -/
def buildOptional (t : Target) (l : Layout) (c : CMake.Config) (p : Profile) : Job Unit := do
  if t.enables .ssl then buildLibrary t l c p "ssl"

theorem buildWith_eq (hprofile : t.profile = .ok p) :
    buildWith t l c = buildOptional t l c p >>= fun _ =>
      buildLibrary t l c p "crypto" >>= fun _ => pure t.outDir := by
  unfold buildWith buildOptional
  rw [hprofile]
  change (if t.enables .ssl = true then _ else _) = _
  split <;> rfl

/-- The tools of a native build, with the sessions in which they are started. -/
inductive Starts (host : Host) (s : Session) (t : Target) (l : Layout) : Call → Session → Prop
  | fetch {s' : Session} (hmissing : (Source.isPresent (sourceDir t l)).result host s = .ok false)
      (hannounced : Yields Source.announceFetch host s () s') :
      Starts host s t l
        (Source.fetchCall t.projectDir (l.sourceName (t.enables .fips)) l.git) s'
  | probe {s₁ s₂ s' : Session} {fetched : Bool} {c : CMake.Config} {tool : String}
      (hfetched : Yields (Source.ensure t.projectDir (l.sourceName (t.enables .fips)) l.git)
        host s fetched s₁)
      (hconfig : Yields (config t l) host s₁ c s₂) (hfips : t.enables .fips = true)
      (hasks : Compilers.Asks Compilers.requiredVersion host Compilers.candidates s₂ tool s') :
      Starts host s t l (Compilers.probe tool) s'
  | optional {s₁ s' : Session} {c : CMake.Config} {p : Profile} {call : Call}
      (hconfigured : Yields (configured t l) host s c s₁) (hprofile : t.profile = .ok p)
      (hssl : t.enables .ssl = true)
      (hstarts : CMake.Starts host c "ssl" t.outDir p.name l.cmake s₁ call s') :
      Starts host s t l call s'
  | library {s₁ s₂ s' : Session} {c : CMake.Config} {p : Profile} {call : Call}
      (hconfigured : Yields (configured t l) host s c s₁) (hprofile : t.profile = .ok p)
      (hbuilt : Yields (buildOptional t l c p) host s₁ () s₂)
      (hstarts : CMake.Starts host c "crypto" t.outDir p.name l.cmake s₂ call s') :
      Starts host s t l call s'

theorem startsAs_buildWith
    (hoptional : ∀ p call s', t.profile = .ok p → t.enables .ssl = true →
      CMake.Starts host c "ssl" t.outDir p.name l.cmake s call s' → starts call s')
    (hlibrary : ∀ p s₁ call s', t.profile = .ok p → Yields (buildOptional t l c p) host s () s₁ →
      CMake.Starts host c "crypto" t.outDir p.name l.cmake s₁ call s' → starts call s') :
    StartsAs starts (buildWith t l c) host s := by
  cases hprofile : t.profile with
  | error p =>
    unfold buildWith
    rw [hprofile]
    exact startsAs_of_idle (within_fail p)
  | ok p =>
    rw [buildWith_eq hprofile]
    refine StartsAs.bind ?_ fun _ hbuilt => StartsAs.bind ?_ fun _ _ => startsAs_of_idle ?_
    · unfold buildOptional
      by_cases hssl : t.enables .ssl = true
      · rw [if_pos hssl]
        exact CMake.startsAs_build fun call s' => hoptional p call s' hprofile hssl
      · rw [if_neg hssl]
        exact startsAs_of_idle (within_pure _)
    · exact CMake.startsAs_build fun call s' => hlibrary p _ call s' hprofile ⟨hbuilt, rfl⟩
    · exact within_pure _

theorem startsAs_configured
    (hfetch : ∀ s', (Source.isPresent (sourceDir t l)).result host s = .ok false →
      Yields Source.announceFetch host s () s' →
      starts (Source.fetchCall t.projectDir (l.sourceName (t.enables .fips)) l.git) s')
    (hprobe : ∀ fetched s₁ c s₂ tool s',
      Yields (Source.ensure t.projectDir (l.sourceName (t.enables .fips)) l.git) host s fetched s₁ →
      Yields (config t l) host s₁ c s₂ → t.enables .fips = true →
      Compilers.Asks Compilers.requiredVersion host Compilers.candidates s₂ tool s' →
      starts (Compilers.probe tool) s') :
    StartsAs starts (configured t l) host s := by
  unfold configured
  refine (Source.startsAs_ensure hfetch).bind fun fetched hfetched => ?_
  refine StartsAs.after_idle (within_config _ t l) fun c hconfig => ?_
  unfold chooseCompilers
  by_cases hfips : t.enables .fips = true
  · rw [if_pos hfips]
    refine StartsAs.bind ?_ fun _ _ => startsAs_of_idle (within_pure _)
    refine Compilers.startsAs_select fun tool s' hasks => ?_
    exact hprobe fetched _ c _ tool s' ⟨hfetched, rfl⟩ ⟨hconfig, rfl⟩ hfips hasks
  · rw [if_neg hfips]
    exact startsAs_of_idle (within_pure _)

theorem startsAs_build (h : ∀ call s', Starts host s t l call s' → starts call s') :
    StartsAs starts (build t l) host s := by
  rw [build_eq_configured]
  refine StartsAs.bind ?_ fun c hconfigured => ?_
  · refine startsAs_configured (fun s' hmissing hannounced => ?_) ?_
    · exact h _ _ (.fetch hmissing hannounced)
    · intro fetched s₁ c s₂ tool s' hfetched hconfig hfips hasks
      exact h _ _ (.probe hfetched hconfig hfips hasks)
  · refine startsAs_buildWith ?_ ?_
    · intro p call s' hprofile hssl hstarts
      exact h _ _ (.optional ⟨hconfigured, rfl⟩ hprofile hssl hstarts)
    · intro p s₁ call s' hprofile hbuilt hstarts
      exact h _ _ (.library ⟨hconfigured, rfl⟩ hprofile hbuilt hstarts)

end Native

/-! ## The bindings -/

namespace Bindings

variable {starts : Call → Session → Prop} {root temporary : Path} {c : Call}

theorem startsAs_sysrootArguments
    (h : ∀ sdk, t.platform = .ios ∨ t.platform = .macos → appleSdk t.triple = .ok sdk →
      starts (sdkCall sdk l.xcrun) s) : StartsAs starts (sysrootArguments t l) host s := by
  by_cases happle : t.platform = .ios ∨ t.platform = .macos
  · cases hsdk : appleSdk t.triple with
    | error p =>
      rw [sysrootArguments_apple happle, hsdk]
      exact startsAs_of_idle (within_fail p)
    | ok sdk =>
      rw [sysrootArguments_eq happle hsdk]
      refine (startsAs_start (h sdk happle hsdk)).bind fun answer _ => startsAs_of_idle ?_
      exact Within.bind (within_sysrootOf _ answer) fun _ _ => within_pure _
  · refine startsAs_of_idle ?_
    unfold sysrootArguments
    cases hplatform : t.platform with
    | ios => exact absurd (.inl hplatform) happle
    | macos => exact absurd (.inr hplatform) happle
    | android =>
      refine Within.bind (within_get _) fun home _ => ?_
      exact Within.bind (within_locate _ _) fun toolchain _ => within_pure _
    | wasi | windows | linux | other => exact within_pure _

theorem startsAs_getReady
    (h : ∀ temporary sdk, temporaryPath (outputPath t l) = .ok temporary →
      t.platform = .ios ∨ t.platform = .macos → appleSdk t.triple = .ok sdk →
      starts (sdkCall sdk l.xcrun) s) : StartsAs starts (getReady t l root) host s := by
  unfold getReady
  refine StartsAs.after_idle (within_ofExcept _) fun temporary htemporary => ?_
  rw [result_ofExcept] at htemporary
  rw [left_ofExcept]
  have hcall : StartsAs starts (call t l root temporary) host s :=
    (startsAs_sysrootArguments fun sdk => h temporary sdk htemporary).bind fun _ _ =>
      startsAs_of_idle (within_pure _)
  refine hcall.bind fun c _ => startsAs_of_idle ?_
  refine Within.bind (within_log _ _ _) fun _ _ => ?_
  refine Within.bind (within_log _ _ _) fun _ _ => ?_
  exact Within.bind (within_ensureFolders nofun) fun _ _ => within_pure _

theorem within_publish_idle (answer : Except SystemError Exit) :
    Within Idle (publish t l temporary c answer) host s := by
  unfold publish
  cases answer with
  | error e => exact Within.bind (within_removeFile nofun) fun _ _ => within_fail _
  | ok exit =>
    dsimp only
    split
    · refine Within.bind (within_removeFile nofun) fun _ _ => ?_
      rw [fail_bind]
      exact within_fail _
    · refine Within.bind (within_isPresent _) fun present _ => ?_
      split
      · rw [fail_bind]
        exact within_fail _
      · exact Within.bind (within_rename nofun) fun _ _ => within_pure _

theorem startsAs_generate
    (hsdk : ∀ temporary sdk, temporaryPath (outputPath t l) = .ok temporary →
      t.platform = .ios ∨ t.platform = .macos → appleSdk t.triple = .ok sdk →
      starts (sdkCall sdk l.xcrun) s)
    (hgenerate : ∀ temporary c s', Yields (getReady t l root) host s (temporary, c) s' →
      starts c s') : StartsAs starts (generate t l root) host s := by
  rw [generate_eq_publish]
  refine (startsAs_getReady hsdk).bind fun ready hready => ?_
  obtain ⟨temporary, c⟩ := ready
  refine (startsAs_start (hgenerate temporary c _ ⟨hready, rfl⟩)).bind fun answer _ => ?_
  exact startsAs_of_idle (within_publish_idle answer)

end Bindings

/-! ## The run -/

namespace Pipeline

/-- What a run does before it turns to the bindings. -/
def beforeBindings (t : Target) (l : Layout) : Job Unit := do
  prepare t l
  link t l

/-- The folder of all headers that the bindings of a run are made from. -/
def headerRoot (t : Target) (l : Layout) : Path := Bindings.headerRoot t (Native.sourceDir t l)

/-- Generating the bindings of a run. -/
def generateBindings (t : Target) (l : Layout) : Job Path :=
  Bindings.generate t l (headerRoot t l)

theorem run_eq_beforeBindings (t : Target) (l : Layout) :
    run t l = beforeBindings t l >>= fun _ => generateBindings t l := by
  unfold run beforeBindings generateBindings headerRoot
  simp only [bind_assoc]

/-- The tools of a run, with the sessions in which they are started. -/
inductive Starts (host : Host) (s : Session) (t : Target) (l : Layout) : Call → Session → Prop
  | native {s₁ s' : Session} {call : Call} (hprepared : Yields (prepare t l) host s () s₁)
      (hprebuilt : t.prebuilt = none) (hstarts : Native.Starts host s₁ t l call s') :
      Starts host s t l call s'
  | findSdk {s' : Session} {temporary : Path} {sdk : String}
      (hlinked : Yields (beforeBindings t l) host s () s')
      (htemporary : Bindings.temporaryPath (Bindings.outputPath t l) = .ok temporary)
      (happle : t.platform = .ios ∨ t.platform = .macos) (hsdk : appleSdk t.triple = .ok sdk) :
      Starts host s t l (Bindings.sdkCall sdk l.xcrun) s'
  | generate {s₁ s' : Session} {temporary : Path} {c : Call}
      (hlinked : Yields (beforeBindings t l) host s () s₁)
      (hready : Yields (Bindings.getReady t l (headerRoot t l)) host s₁ (temporary, c) s') :
      Starts host s t l c s'

theorem startsAs_run : StartsAs (Starts host s t l) (run t l) host s := by
  rw [run_eq_beforeBindings]
  refine StartsAs.bind ?_ fun _ hlinked => ?_
  · unfold beforeBindings
    refine StartsAs.after_idle (within_prepare nofun fun _ => idle_emit _) fun _ hprepared => ?_
    unfold link buildRoot
    have hrest (root : Path) (s' : Session) : StartsAs (Starts host s t l)
        (Link.emit root t >>= fun _ => emit headersVariable) host s' := by
      refine startsAs_of_idle ?_
      refine Within.bind (Link.within_emit fun _ d _ => idle_emit d) fun _ _ => ?_
      exact within_emit (idle_emit _)
    cases hprebuilt : t.prebuilt with
    | some root =>
      simp only [bind_assoc, pure_bind]
      exact StartsAs.after_idle (within_log _ _ _) fun _ _ => hrest root _
    | none =>
      refine (Native.startsAs_build fun call s' hstarts => ?_).bind fun root _ => hrest root _
      exact .native ⟨hprepared, rfl⟩ hprebuilt hstarts
  · refine Bindings.startsAs_generate ?_ fun temporary c s' hready => ?_
    · exact fun temporary sdk htemporary => .findSdk ⟨hlinked, rfl⟩ htemporary
    · exact .generate ⟨hlinked, rfl⟩ hready

end Pipeline

end CrossBuild
