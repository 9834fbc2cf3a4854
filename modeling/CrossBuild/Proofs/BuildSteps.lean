-- What each step of a run may do: the tools that it may start, the directives that
-- it may emit, and the files that it may touch. A run is made of these steps, so
-- that whatever holds of all of these actions holds of every run.
import CrossBuild.Pipeline
import CrossBuild.Proofs.CompilerSelection
import CrossBuild.Proofs.Configurations

namespace CrossBuild

open Job

variable {host : Host} {s : Session} {acts : Action → Prop} {t : Target} {l : Layout}

/-- A build without features for the machine that it runs on. -/
def linuxTarget : Target where
  architecture := "x86_64"
  system := "linux"
  host := "x86_64-unknown-linux-gnu"
  triple := "x86_64-unknown-linux-gnu"
  features := ⟨[]⟩
  environment := "gnu"
  debugInfo := false
  optLevel := "0"
  outDir := .ofString "/out"
  projectDir := .ofString "/crate"
  ndkHome := none
  prebuilt := none
  headers := none

/-- A machine whose tools all end well and write nothing. -/
def silentTools : Host where
  cwd := .ofString "/"
  tools _ _ := .ended {}

/-- A disk with a folder where the generator writes. -/
def cloggedDisk : Disk := ⟨.folder [("out", .folder [("bindings.rs.tmp", .folder [])])]⟩

/-! ## The sources -/

/-- Calls that fetch sources are told by their arguments up to the name of the folder. -/
def Call.isFetch (c : Call) : Bool :=
  ["submodule", "update", "--init", "--recursive"].isPrefixOf c.arguments

namespace Source

/-- The call of git that fetches the sources. -/
def fetchCall (projectDir : Path) (source git : String) : Call :=
  ⟨git, fetchArguments source, some projectDir⟩

theorem within_ensure {projectDir : Path} {source git : String}
    (hwarning : ∀ message, acts (.emit (.warning message)))
    (hfetch : acts (.start (fetchCall projectDir source git))) :
    Within acts (ensure projectDir source git) host s := by
  unfold ensure
  refine Within.bind (within_isPresent _) fun present _ => ?_
  dsimp only
  split
  · exact within_pure _
  · refine Within.bind (within_emit (hwarning _)) fun _ _ => ?_
    refine Within.bind (within_start hfetch) fun answer _ => ?_
    cases answer with
    | error e => exact within_fail _
    | ok exit =>
      dsimp only
      split
      · exact Within.bind (within_fail _) nofun
      · exact Within.bind (within_log _ _ _) fun _ _ => within_pure _

end Source

/-! ## CMake -/

namespace Call

/-- Configure commands are told by where the results are to be installed. -/
def isConfigure (c : Call) : Bool :=
  match c.arguments with
  | _ :: argument :: _ => Text.startsWith argument "-DCMAKE_INSTALL_PREFIX="
  | _ => false

/-- Build commands are told by the folder that they build. -/
def isBuild (c : Call) : Bool := ["--build", ".", "--target"].isPrefixOf c.arguments

/-- The value that a configure command gives to a name. The first argument is the folder of the
sources and defines nothing. -/
def setting? (c : Call) (name : String) : Option String :=
  CMake.lastValue? name (CMake.definitionsOf c.arguments.tail)

end Call

namespace CMake

/-- The call that configures a source tree. -/
def configureCall (c : Config) (outDir : Path) (profile program : String) : Call :=
  ⟨program, c.configureArguments outDir profile, some (buildDir outDir)⟩

/-- The call that builds a target of a configured source tree. -/
def buildCall (target : String) (outDir : Path) (profile program : String) : Call :=
  ⟨program, buildArguments target profile, some (buildDir outDir)⟩

theorem isConfigure_configureCall (c : Config) (outDir : Path) (profile program : String) :
    (configureCall c outDir profile program).isConfigure = true := by
  simp [Call.isConfigure, configureCall, Config.configureArguments, Text.startsWith,
    Config.defineArgument]

/-- What a configure command gives to a name: a definition counts more than what is collected. -/
theorem setting?_configureCall {c : Config} (hnames : ∀ d ∈ c.definitions, '=' ∉ d.1.toList)
    {outDir : Path} {profile program name : String} :
    (configureCall c outDir profile program).setting? name =
      (lastValue? name c.definitions).or
        (if name = "CMAKE_BUILD_TYPE" then some profile
        else if name = "CMAKE_C_FLAGS" ∧ c.cFlags ≠ [] then some (" ".intercalate c.cFlags)
        else if name = "CMAKE_CXX_FLAGS" ∧ c.cxxFlags ≠ [] then some (" ".intercalate c.cxxFlags)
        else if name = "CMAKE_INSTALL_PREFIX" then some outDir.text
        else none) :=
  c.lastValue?_configureArguments hnames outDir profile name

theorem within_runStep {call : Call} {folder : Path} {step : String} (h : acts (.start call)) :
    Within acts (runStep call folder step) host s := by
  unfold runStep
  refine Within.bind (within_log _ _ _) fun _ _ => ?_
  refine Within.bind (within_start h) fun answer _ => ?_
  cases answer with
  | error e => exact within_fail _
  | ok exit =>
    dsimp only
    split
    · exact Within.bind (within_fail _) nofun
    · split
      · exact within_log _ _ _
      · exact within_pure _

theorem within_build {c : Config} {target profile program : String} {outDir : Path}
    (hfolder : acts (.ensureFolders (buildDir outDir)))
    (hconfigure : acts (.start (configureCall c outDir profile program)))
    (hbuild : acts (.start (buildCall target outDir profile program))) :
    Within acts (build c target outDir profile program) host s := by
  unfold build
  refine Within.bind (within_ensureFolders hfolder) fun _ _ => ?_
  refine Within.bind (within_log _ _ _) fun _ _ => ?_
  exact Within.bind (within_runStep hconfigure) fun _ _ => within_runStep hbuild

end CMake

namespace Native

/-- The part of a build that comes once its compilers have been chosen. -/
def buildWith (t : Target) (l : Layout) (c : CMake.Config) : Job Path := do
  let profile ← Job.get t.profile
  if t.enables .ssl then CMake.build c "ssl" t.outDir profile.name l.cmake
  CMake.build c "crypto" t.outDir profile.name l.cmake
  return t.outDir

/-- A build fetches the sources, configures, chooses the compilers, and goes on with them. -/
theorem build_eq (t : Target) (l : Layout) :
    build t l =
      (Source.ensure t.projectDir (l.sourceName (t.enables .fips)) l.git >>= fun _ =>
        config t l >>= fun c => chooseCompilers t (withFuzzing t c) >>= buildWith t l) := rfl

theorem within_buildWith {c : CMake.Config}
    (hfolder : acts (.ensureFolders (CMake.buildDir t.outDir)))
    (hconfigure : ∀ profile, acts (.start (CMake.configureCall c t.outDir profile l.cmake)))
    (hbuild : ∀ target profile, acts (.start (CMake.buildCall target t.outDir profile l.cmake))) :
    Within acts (buildWith t l c) host s := by
  unfold buildWith
  refine Within.bind (within_get _) fun profile _ => ?_
  dsimp only
  split
  · refine Within.bind (CMake.within_build hfolder (hconfigure _) (hbuild _ _)) fun _ _ => ?_
    refine Within.bind (CMake.within_build hfolder (hconfigure _) (hbuild _ _)) fun _ _ => ?_
    exact within_pure _
  · refine Within.bind (CMake.within_build hfolder (hconfigure _) (hbuild _ _)) fun _ _ => ?_
    exact within_pure _

/-- The configurations that a build may have once nothing is added to them any more. -/
def IsComplete (t : Target) (l : Layout) (c : CMake.Config) : Prop :=
  c = withFuzzing t (configFor t l) ∨
    ∃ compilers, c = withCompilers compilers (withFuzzing t (configFor t l))

theorem IsComplete.noEqualsSign {c : CMake.Config} (h : IsComplete t l c) :
    ∀ d ∈ c.definitions, '=' ∉ d.1.toList := by
  rcases h with rfl | ⟨compilers, rfl⟩
  · exact noEqualsSign_withFuzzing
  · exact noEqualsSign_withCompilers compilers noEqualsSign_withFuzzing

/-- The flags of a complete configuration are those of the target and those for fuzzing. -/
theorem IsComplete.flags {c : CMake.Config} (h : IsComplete t l c) :
    (∀ name ∈ collectedNames, CMake.lastValue? name c.definitions =
        if IsCatalystCross t then some (iosFlags t) else none) ∧
      c.cFlags = cFlagsFor t ∧
      c.cxxFlags = if t.enables .fuzzing then fuzzingFlags else [] := by
  have hdisjoint : ∀ name ∈ collectedNames, name ∉ compilerNames := by decide
  rcases h with rfl | ⟨compilers, rfl⟩ <;> rw [withFuzzing_configFor]
  · exact ⟨fun name hname => lastValue?_flags_definitionsFor hname t l, rfl, rfl⟩
  · refine ⟨fun name hname => ?_, rfl, rfl⟩
    have hother : CMake.lastValue? name (compilerDefinitions compilers) = none :=
      CMake.lastValue?_eq_none.2 fun d hd heq =>
        hdisjoint name hname (heq ▸ mem_compilerNames_of_mem_compilerDefinitions hd)
    rw [definitions_withCompilers, CMake.lastValue?_append, hother, Option.none_or]
    exact lastValue?_flags_definitionsFor hname t l

theorem isComplete_of_chooseCompilers {c : CMake.Config}
    (h : (chooseCompilers t (withFuzzing t (configFor t l))).result host s = .ok c) :
    IsComplete t l c := by
  unfold chooseCompilers at h
  split at h
  · obtain ⟨compilers, -, h⟩ := result_bind_eq_ok.1 h
    exact Or.inr ⟨compilers, (Except.ok.inj h).symm⟩
  · exact Or.inl (Except.ok.inj h).symm

theorem within_build (hwarning : ∀ message, acts (.emit (.warning message)))
    (hfetch : acts (.start
      (Source.fetchCall t.projectDir (l.sourceName (t.enables .fips)) l.git)))
    (hprobe : ∀ tool, acts (.start (Compilers.probe tool)))
    (hbuild : ∀ c s, IsComplete t l c → Within acts (buildWith t l c) host s) :
    Within acts (build t l) host s := by
  have hchoice (c : CMake.Config) (s : Session) : Within acts (chooseCompilers t c) host s := by
    unfold chooseCompilers
    split
    · refine Within.bind (Compilers.within_select fun c _ => ⟨hprobe c.c, hprobe c.cxx⟩) ?_
      exact fun _ _ => within_pure _
    · exact within_pure _
  rw [build_eq]
  refine Within.bind (Source.within_ensure hwarning hfetch) fun _ _ => ?_
  refine Within.bind (within_config acts t l) fun c hc => ?_
  rw [eq_configFor hc]
  refine Within.bind (hchoice _ _) fun c hc => ?_
  exact hbuild c _ (isComplete_of_chooseCompilers hc)

/-- A build starts no configure command but those of complete configurations. -/
theorem exists_isComplete_of_configure {call : Call}
    (hcall : .started call ∈ (build t l).events host s) (hconfigure : call.isConfigure = true) :
    ∃ c profile, IsComplete t l c ∧ call = CMake.configureCall c t.outDir profile l.cmake := by
  have hwithin : Within (fun a => ∀ call, a = .start call → call.isConfigure = true →
      ∃ c profile, IsComplete t l c ∧ call = CMake.configureCall c t.outDir profile l.cmake)
      (build t l) host s := by
    apply within_build
    · rintro message call ⟨⟩
    · rintro call ⟨⟩ h
      cases h
    · rintro tool call ⟨⟩ h
      cases h
    · intro c s hc
      apply within_buildWith
      · rintro call ⟨⟩
      · rintro profile call ⟨⟩ -
        exact ⟨c, profile, hc, rfl⟩
      · rintro target profile call ⟨⟩ h
        cases h
  exact hwithin.start_of_mem hcall call rfl hconfigure

end Native

/-! ## Linking -/

/-- The directives that make the caller link something. -/
def Directive.isLink (d : Directive) : Bool :=
  ["rustc-link-search", "rustc-link-lib", "rustc-cdylib-link-arg"].contains d.key

namespace Link

theorem within_emit {root : Path} (h : ∀ a, ∀ d ∈ directives a t, acts (.emit d)) :
    Within acts (emit root t) host s := by
  unfold emit
  refine Within.bind (within_get _) fun a _ => ?_
  refine Within.bind (within_forM _ fun d hd s => Job.within_emit (h a d hd)) fun _ _ => ?_
  exact within_pure _

end Link

/-! ## The bindings -/

namespace Bindings

/-- The call that looks for an SDK. -/
def sdkCall (sdk xcrun : String) : Call := ⟨xcrun, ["--show-sdk-path", "--sdk", sdk], none⟩

/-- The call of the generator with system headers that are known. -/
def generatorCall (t : Target) (l : Layout) (root output : Path) (sysroot : List String) : Call :=
  ⟨l.bindgen, flags t ++ ["--output", output.text] ++
    headerArguments root (headerPaths root (t.enables .fips)) sysroot, none⟩

/-- What is made of the answer of the search for an SDK. -/
def sysrootOf : Except SystemError Exit → Job (Option String)
  | .error e => do
    Job.warn .sdkLookup ("xcrun failed: " ++ e.text)
    return none
  | .ok exit => do
    if exit.code = 0 then return some (Text.trimEnd exit.stdout)
    let detail := if exit.code < 0 then "killed" else "exit code " ++ toString exit.code
    Job.warn .sdkLookup ("xcrun failed: " ++ detail)
    if exit.stderr ≠ "" then Job.log .warning .bindings (Text.trimEnd exit.stderr)
    return none

theorem appleSysroot_eq (sdk xcrun : String) :
    appleSysroot sdk xcrun = Job.start (sdkCall sdk xcrun) >>= sysrootOf := by
  unfold appleSysroot
  refine bind_congr fun answer => ?_
  cases answer <;> rfl

theorem within_sysrootOf (acts : Action → Prop) (answer : Except SystemError Exit) :
    Within acts (sysrootOf answer) host s := by
  cases answer with
  | error e => exact Within.bind (within_warn _ _) fun _ _ => within_pure _
  | ok exit =>
    unfold sysrootOf
    dsimp only
    split
    · exact within_pure _
    · refine Within.bind (within_warn _ _) fun _ _ => ?_
      split
      · exact Within.bind (within_log _ _ _) fun _ _ => within_pure _
      · exact within_pure _

theorem within_appleSysroot {sdk xcrun : String} (h : acts (.start (sdkCall sdk xcrun))) :
    Within acts (appleSysroot sdk xcrun) host s := by
  rw [appleSysroot_eq]
  exact Within.bind (within_start h) fun answer _ => within_sysrootOf acts answer

theorem within_locate (acts : Action → Prop) (root : Path) :
    Within acts (Ndk.locate root) host s := by
  unfold Ndk.locate
  refine Within.bind (within_ask _ _) fun answer _ => ?_
  cases answer with
  | error code => exact within_fail _
  | ok entries =>
    dsimp only
    split
    · exact within_pure _
    · exact within_fail _

theorem within_sysrootArguments (h : ∀ sdk, acts (.start (sdkCall sdk l.xcrun))) :
    Within acts (sysrootArguments t l) host s := by
  unfold sysrootArguments
  split
  case h_1 | h_2 =>
    refine Within.bind (within_get _) fun sdk _ => ?_
    refine Within.bind (within_appleSysroot (h sdk)) fun sysroot _ => ?_
    cases sysroot <;> exact within_pure _
  · refine Within.bind (within_get _) fun home _ => ?_
    refine Within.bind (within_locate acts _) fun toolchain _ => ?_
    exact within_pure _
  · exact within_pure _
  · exact within_pure _

theorem within_call {root output : Path} (h : ∀ sdk, acts (.start (sdkCall sdk l.xcrun))) :
    Within acts (call t l root output) host s := by
  unfold call
  exact Within.bind (within_sysrootArguments h) fun _ _ => within_pure _

/-- A call of the generator differs from others only in the system headers, which are sought
first. -/
theorem exists_of_result_call {root output : Path} {c : Call}
    (h : (call t l root output).result host s = .ok c) :
    ∃ sysroot, (sysrootArguments t l).result host s = .ok sysroot ∧
      c = generatorCall t l root output sysroot := by
  obtain ⟨sysroot, hsysroot, hc⟩ := result_bind_eq_ok.1 h
  exact ⟨sysroot, hsysroot, (Except.ok.inj hc).symm⟩

/-- The generator is told of its file where no flag can be taken for it. -/
theorem output_not_mem_flags (t : Target) : "--output" ∉ flags t := by
  unfold flags
  split <;> decide

/-- Generating the bindings up to the point where they take their place. -/
def writeTemporary (t : Target) (l : Layout) (root : Path) : Job Path := do
  let output := outputPath t l
  let temporary ← MonadExcept.ofExcept (temporaryPath output)
  let call ← call t l root temporary
  Job.log .info .bindings ("Generating " ++ output.text)
  Job.log .debug .bindings ("Running " ++ " ".intercalate call.words)
  Job.ensureFolders output.parent
  match ← Job.start call with
  | .error e =>
    Job.removeFile temporary
    Job.fail (.bindgenNotStarted call.program e)
  | .ok exit =>
    if exit.code ≠ 0 then
      Job.removeFile temporary
      let said := if exit.stderr ≠ "" then exit.stderr else exit.stdout
      Job.fail (.bindgenFailed call.program exit.code said)
    if !(← Job.isPresent temporary) then
      Job.fail (.bindingsMissing call.program exit.stderr)
    return temporary

/-- The bindings take their place by the last thing that a generation does. -/
theorem generate_eq (t : Target) (l : Layout) (root : Path) :
    generate t l root = do
      let temporary ← writeTemporary t l root
      Job.rename temporary (outputPath t l)
      return outputPath t l := by
  unfold generate writeTemporary
  simp only [bind_assoc]
  refine bind_congr fun temporary => ?_
  refine bind_congr fun call => ?_
  refine bind_congr fun _ => ?_
  refine bind_congr fun _ => ?_
  refine bind_congr fun _ => ?_
  refine bind_congr fun answer => ?_
  cases answer with
  | error e => simp [fail_bind]
  | ok exit =>
    dsimp only
    split
    · simp [fail_bind]
    · simp only [bind_assoc]
      refine bind_congr fun present => ?_
      split
      · simp [fail_bind]
      · simp

/-- What a generation does before it starts the generator: the temporary file and the call. -/
def getReady (t : Target) (l : Layout) (root : Path) : Job (Path × Call) := do
  let output := outputPath t l
  let temporary ← MonadExcept.ofExcept (temporaryPath output)
  let call ← call t l root temporary
  Job.log .info .bindings ("Generating " ++ output.text)
  Job.log .debug .bindings ("Running " ++ " ".intercalate call.words)
  Job.ensureFolders output.parent
  return (temporary, call)

/-- The call that is made ready is one of the generator, with the system headers found. -/
theorem eq_of_getReady {root temporary : Path} {c : Call}
    (h : (getReady t l root).result host s = .ok (temporary, c)) :
    temporaryPath (outputPath t l) = .ok temporary ∧
      ∃ sysroot, (sysrootArguments t l).result host s = .ok sysroot ∧
        c = generatorCall t l root temporary sysroot := by
  unfold getReady at h
  obtain ⟨path, hpath, h⟩ := result_bind_eq_ok.1 h
  obtain ⟨c', hcall, h⟩ := result_bind_eq_ok.1 h
  obtain ⟨_, -, h⟩ := result_bind_eq_ok.1 h
  obtain ⟨_, -, h⟩ := result_bind_eq_ok.1 h
  obtain ⟨_, -, h⟩ := result_bind_eq_ok.1 h
  cases h
  rw [result_ofExcept] at hpath
  rw [left_ofExcept] at hcall
  exact ⟨hpath, exists_of_result_call hcall⟩

theorem within_getReady {root : Path} (hsdk : ∀ sdk, acts (.start (sdkCall sdk l.xcrun)))
    (hfolder : acts (.ensureFolders (outputPath t l).parent)) :
    Within acts (getReady t l root) host s := by
  unfold getReady
  refine Within.bind (within_ofExcept _) fun temporary _ => ?_
  refine Within.bind (within_call hsdk) fun call _ => ?_
  refine Within.bind (within_log _ _ _) fun _ _ => ?_
  refine Within.bind (within_log _ _ _) fun _ _ => ?_
  exact Within.bind (within_ensureFolders hfolder) fun _ _ => within_pure _

/-- What a generation does with the answer of the generator. -/
def publish (t : Target) (l : Layout) (temporary : Path) (call : Call) :
    Except SystemError Exit → Job Path
  | .error e => do
    Job.removeFile temporary
    Job.fail (.bindgenNotStarted call.program e)
  | .ok exit => do
    if exit.code ≠ 0 then
      Job.removeFile temporary
      let said := if exit.stderr ≠ "" then exit.stderr else exit.stdout
      Job.fail (.bindgenFailed call.program exit.code said)
    if !(← Job.isPresent temporary) then
      Job.fail (.bindingsMissing call.program exit.stderr)
    Job.rename temporary (outputPath t l)
    return outputPath t l

/-- A generation gets ready, starts the generator, and publishes what it has written. -/
theorem generate_eq_publish (t : Target) (l : Layout) (root : Path) :
    generate t l root =
      getReady t l root >>= fun r => Job.start r.2 >>= publish t l r.1 r.2 := by
  unfold generate getReady
  simp only [bind_assoc, pure_bind]
  refine bind_congr fun temporary => ?_
  refine bind_congr fun call => ?_
  refine bind_congr fun _ => ?_
  refine bind_congr fun _ => ?_
  refine bind_congr fun _ => ?_
  refine bind_congr fun answer => ?_
  cases answer <;> rfl

theorem within_writeTemporary {root : Path} (hsdk : ∀ sdk, acts (.start (sdkCall sdk l.xcrun)))
    (hfolder : acts (.ensureFolders (outputPath t l).parent))
    (hgenerator : ∀ temporary, temporaryPath (outputPath t l) = .ok temporary →
      ∀ sysroot, acts (.start (generatorCall t l root temporary sysroot)))
    (hremove : ∀ temporary, temporaryPath (outputPath t l) = .ok temporary →
      acts (.removeFile temporary)) :
    Within acts (writeTemporary t l root) host s := by
  unfold writeTemporary
  refine Within.bind (within_ofExcept _) fun temporary htemporary => ?_
  rw [result_ofExcept] at htemporary
  refine Within.bind (within_call hsdk) fun call hcall => ?_
  obtain ⟨sysroot, -, rfl⟩ := exists_of_result_call hcall
  refine Within.bind (within_log _ _ _) fun _ _ => ?_
  refine Within.bind (within_log _ _ _) fun _ _ => ?_
  refine Within.bind (within_ensureFolders hfolder) fun _ _ => ?_
  refine Within.bind (within_start (hgenerator temporary htemporary sysroot)) fun answer _ => ?_
  cases answer with
  | error e =>
    exact Within.bind (within_removeFile (hremove temporary htemporary)) fun _ _ => within_fail _
  | ok exit =>
    dsimp only
    split
    · refine Within.bind (within_removeFile (hremove temporary htemporary)) fun _ _ => ?_
      exact Within.bind (within_fail _) nofun
    · refine Within.bind (within_isPresent _) fun present _ => ?_
      split
      · exact Within.bind (within_fail _) nofun
      · exact within_pure _

/-- A generation that fails leaves what it has left before the bindings take their place. -/
theorem left_generate_of_error {root : Path} {f : Failure}
    (h : (generate t l root).result host s = .error f) :
    (generate t l root).left host s = (writeTemporary t l root).left host s := by
  rw [generate_eq] at h ⊢
  cases htemporary : (writeTemporary t l root).result host s with
  | error f' => rw [left_bind_of_error htemporary]
  | ok temporary =>
    rw [result_bind_of_ok htemporary] at h
    rw [left_bind_of_ok htemporary]
    cases hrename : (rename temporary (outputPath t l)).result host
        ((writeTemporary t l root).left host s) with
    | error f' => rw [left_bind_of_error hrename, left_rename_of_error hrename]
    | ok u =>
      rw [result_bind_of_ok hrename] at h
      cases h

theorem within_generate {root : Path} (h : Within acts (writeTemporary t l root) host s)
    (hrename : ∀ temporary, acts (.rename temporary (outputPath t l))) :
    Within acts (generate t l root) host s := by
  rw [generate_eq]
  refine Within.bind h fun temporary _ => ?_
  exact Within.bind (within_rename (hrename temporary)) fun _ _ => within_pure _

end Bindings

/-! ## The run -/

namespace Pipeline

theorem within_link (hwarning : ∀ message, acts (.emit (.warning message)))
    (hfetch : acts (.start
      (Source.fetchCall t.projectDir (l.sourceName (t.enables .fips)) l.git)))
    (hprobe : ∀ tool, acts (.start (Compilers.probe tool)))
    (hbuild : ∀ c s, Native.IsComplete t l c → Within acts (Native.buildWith t l c) host s)
    (hlink : ∀ a, ∀ d ∈ Link.directives a t, acts (.emit d))
    (hheaders : acts (.emit headersVariable)) :
    Within acts (link t l) host s := by
  unfold link
  refine Within.bind ?_ fun root _ => ?_
  · unfold buildRoot
    split
    · exact Within.bind (within_log _ _ _) fun _ _ => within_pure _
    · exact Native.within_build hwarning hfetch hprobe hbuild
  · refine Within.bind (Link.within_emit hlink) fun _ _ => ?_
    exact within_emit hheaders

/-- What a run does between removing old bindings and generating new ones. -/
def untilBindings (t : Target) (l : Layout) : Job Unit := do
  Job.emit prebuiltVariable
  if t.platform = .android ∧ t.isCross then Job.emit ndkVariable
  link t l

theorem within_untilBindings (hvariable : ∀ name, acts (.emit (.rerunIfEnvChanged name)))
    (hlink : ∀ s, Within acts (link t l) host s) : Within acts (untilBindings t l) host s := by
  unfold untilBindings
  refine Within.bind (within_emit (hvariable _)) fun _ _ => ?_
  dsimp only
  split
  · exact Within.bind (within_emit (hvariable _)) fun _ _ => hlink _
  · exact hlink _

/-- A run removes old bindings first and generates new ones last. -/
theorem run_eq_removeFile (t : Target) (l : Layout) :
    run t l =
      removeFile (Bindings.outputPath t l) >>= fun _ => untilBindings t l >>= fun _ =>
        Bindings.generate t l (Bindings.headerRoot t (Native.sourceDir t l)) := by
  unfold run prepare untilBindings
  simp only [bind_assoc]
  refine bind_congr fun _ => bind_congr fun _ => ?_
  split
  · simp only [bind_assoc]
  · simp only [pure_bind]

theorem within_prepare (hremove : acts (.removeFile (Bindings.outputPath t l)))
    (hvariable : ∀ name, acts (.emit (.rerunIfEnvChanged name))) :
    Within acts (prepare t l) host s := by
  unfold prepare
  refine Within.bind (within_removeFile hremove) fun _ _ => ?_
  refine Within.bind (within_emit (hvariable _)) fun _ _ => ?_
  split
  · exact within_emit (hvariable _)
  · exact within_pure _

/-- What a run does up to the choice of the compilers. -/
def untilCompilers (t : Target) (l : Layout) : Job CMake.Config := do
  prepare t l
  let _ ← Source.ensure t.projectDir (l.sourceName (t.enables .fips)) l.git
  return Native.withFuzzing t (← Native.config t l)

theorem within_untilCompilers (hremove : acts (.removeFile (Bindings.outputPath t l)))
    (hvariable : ∀ name, acts (.emit (.rerunIfEnvChanged name)))
    (hwarning : ∀ message, acts (.emit (.warning message)))
    (hfetch : acts (.start
      (Source.fetchCall t.projectDir (l.sourceName (t.enables .fips)) l.git))) :
    Within acts (untilCompilers t l) host s := by
  unfold untilCompilers
  refine Within.bind (within_prepare hremove hvariable) fun _ _ => ?_
  refine Within.bind (Source.within_ensure hwarning hfetch) fun _ _ => ?_
  exact Within.bind (Native.within_config acts t l) fun _ _ => within_pure _

/-- What a run does with a configuration to which nothing is added any more. -/
def afterCompilers (t : Target) (l : Layout) (c : CMake.Config) : Job Path := do
  let root ← Native.buildWith t l c
  let _ ← Link.emit root t
  Job.emit headersVariable
  Bindings.generate t l (Bindings.headerRoot t (Native.sourceDir t l))

theorem within_afterCompilers {c : CMake.Config}
    (hbuild : Within acts (Native.buildWith t l c) host s)
    (hlink : ∀ a, ∀ d ∈ Link.directives a t, acts (.emit d))
    (hheaders : acts (.emit headersVariable))
    (hgenerate : ∀ root s, Within acts (Bindings.generate t l root) host s) :
    Within acts (afterCompilers t l c) host s := by
  unfold afterCompilers
  refine Within.bind hbuild fun root _ => ?_
  refine Within.bind (Link.within_emit hlink) fun _ _ => ?_
  exact Within.bind (within_emit hheaders) fun _ _ => hgenerate _ _

/-- A run without a library chooses the compilers between preparing and building. -/
theorem run_eq (h : t.prebuilt = none) :
    run t l =
      untilCompilers t l >>= fun c => Native.chooseCompilers t c >>= afterCompilers t l := by
  unfold run link buildRoot untilCompilers afterCompilers
  rw [h]
  dsimp only
  rw [Native.build_eq]
  simp only [bind_assoc, pure_bind]

end Pipeline

end CrossBuild
