-- Running again. A second run on the disk that a first one has left does what the first
-- one has done, from the sources on: every step of a run can be repeated, and the bindings
-- of the first run, which are removed, are generated again with the same content.
import CrossBuild.Proofs.RepeatedSteps
import CrossBuild.Proofs.SystemHeaders

namespace CrossBuild

open Job

variable {r : FirstRun} {s s' : Session} {t : Target} {l : Layout}

/-! ## The sources -/

namespace Source

theorem isFetch_fetchCall (projectDir : Path) (source git : String) :
    (fetchCall projectDir source git).isFetch = true := by
  simp [Call.isFetch, fetchCall, fetchArguments]

theorem traces_ensure (projectDir : Path) (source git : String) :
    r.Traces (ensure projectDir source git) := by
  unfold ensure
  refine FirstRun.Traces.bind (fun s a _ h => ?_) fun present => ?_
  · rwa [isPresent, left_isPresent] at h
  · dsimp only
    split
    · exact (FirstRun.repeats_pure _).traces
    · refine FirstRun.Traces.bind (fun _ _ _ hpasses => hpasses.of_said) fun _ => ?_
      refine (FirstRun.traces_start _).bind fun answer => ?_
      cases answer with
      | error e => exact (FirstRun.repeats_fail _).traces
      | ok exit =>
        dsimp only
        split
        · rw [fail_bind]
          exact (FirstRun.repeats_fail _).traces
        · exact (FirstRun.repeats_log _ _ _).traces.bind fun _ => (FirstRun.repeats_pure _).traces

/-- Fetching the sources has no effects but its own. -/
theorem lastingOf_ensure {host : Host} (projectDir : Path) (source git : String) :
    lastingOf ((ensure projectDir source git).left host s).log = lastingOf s.log := by
  obtain ⟨fetches, hfetches⟩ : ∃ fetches : Bool, fetches = true ↔
      (isPresent (projectDir / source)).result host s = .ok false := by
    classical exact ⟨_, decide_eq_true_iff⟩
  have hfollows : Follows (fun _ => True) _ (ensure projectDir source git) host s :=
    follows_ensure hfetches
  have hscript : lastingOf (if fetches then fetchScript projectDir source git else []) = [] := by
    cases fetches with
    | false => rfl
    | true =>
      simp [lastingOf, fetchScript, Event.isLasting, fetchWarning, isFetch_fetchCall]
  rw [hfollows.within.log_left, lastingOf_append, ← lastingOf_effectsOf (Job.events _ _ _)]
  obtain ⟨rest, hrest⟩ := hfollows.effects
  rw [← hrest, lastingOf_append, List.append_eq_nil_iff] at hscript
  rw [hscript.1, List.append_nil]

/-- Once the sources are there a run goes on as if it had not fetched them. -/
theorem repeats_ensure_bind {α : Type} {k : Job α} {projectDir : Path} {source git : String}
    (hk : r.Repeats k)
    (hpresent : ∀ s s', r.Again s s' →
      (isPresent (projectDir / source)).result r.host s' = .ok true) :
    r.Repeats (ensure projectDir source git >>= fun _ => k) where
  traces := (traces_ensure projectDir source git).bind fun _ => hk.traces
  again := by
    intro s s' a ha hpasses hagain
    obtain ⟨fetched, hfetched, ha⟩ := result_bind_eq_ok.1 ha
    rw [left_bind_of_ok hfetched] at hpasses ⊢
    have hpresent' := hpresent s s' hagain
    have hdone : (ensure projectDir source git).result r.host s' = .ok false := by
      unfold ensure
      rw [result_bind_of_ok hpresent']
      rfl
    have hstill : (ensure projectDir source git).left r.host s' = s' := by
      unfold ensure
      rw [left_bind_of_ok hpresent']
      exact left_isPresent _
    rw [result_bind_of_ok hdone, left_bind_of_ok hdone, hstill]
    refine hk.again ha hpasses ⟨hagain.disk, hagain.free, ?_⟩
    rw [hagain.log, lastingOf_ensure]

end Source

/-! ## The compilers -/

namespace Compilers

theorem repeats_version (tool : String) : r.Repeats (version tool) := by
  unfold version
  refine FirstRun.repeats_start_or "" rfl rfl (fun exit => ?_) ?_ ?_
  · dsimp only
    split
    · rw [fail_bind]
      exact FirstRun.repeats_fail _
    · exact FirstRun.repeats_pure _
  · exact fun e s => Within.bind (within_log _ _ _) fun _ _ => within_pure _
  · exact fun e s => rfl

theorem repeats_select (required : String) (candidates : List Compilers) :
    r.Repeats (select required candidates) := by
  induction candidates with
  | nil => exact FirstRun.repeats_fail _
  | cons c rest ih =>
    rw [select]
    refine (repeats_version c.c).bind fun found => ?_
    split
    · refine (repeats_version c.cxx).bind fun partner => ?_
      dsimp only
      split
      · rw [fail_bind]
        exact FirstRun.repeats_fail _
      · exact (FirstRun.repeats_log _ _ _).bind fun _ => FirstRun.repeats_pure _
    · split
      · exact FirstRun.repeats_fail _
      · split
        · exact (FirstRun.repeats_log _ _ _).bind fun _ => ih
        · exact ih

end Compilers

/-! ## The native build -/

namespace CMake

theorem repeats_runStep {call : Call} (hfetch : call.isFetch = false) (folder : Path)
    (step : String) : r.Repeats (runStep call folder step) := by
  unfold runStep
  refine (FirstRun.repeats_log _ _ _).bind fun _ => ?_
  refine FirstRun.repeats_start_bind hfetch (fun exit => ?_) fun e s => ⟨_, rfl⟩
  dsimp only
  split
  · rw [fail_bind]
    exact FirstRun.repeats_fail _
  · split
    · exact FirstRun.repeats_log _ _ _
    · exact FirstRun.repeats_pure _

theorem repeats_build {outDir : Path} (hfolder : r.Repeats (Job.ensureFolders (buildDir outDir)))
    (c : Config) (library profile program : String) :
    r.Repeats (build c library outDir profile program) := by
  unfold build
  refine hfolder.bind fun _ => ?_
  refine (FirstRun.repeats_log _ _ _).bind fun _ => ?_
  refine (repeats_runStep (Bool.eq_false_iff.2 ?_) _ _).bind fun _ => repeats_runStep rfl _ _
  exact not_isFetch_configureCall

end CMake

namespace Native

theorem repeats_config (t : Target) (l : Layout) : r.Repeats (config t l) :=
  FirstRun.repeats_of_silent (fun _ => within_config _ t l) fun s s' => by
    rw [result_config, result_config]

theorem repeats_chooseCompilers (t : Target) (c : CMake.Config) :
    r.Repeats (chooseCompilers t c) := by
  unfold chooseCompilers
  split
  · exact (Compilers.repeats_select _ _).bind fun _ => FirstRun.repeats_pure _
  · exact FirstRun.repeats_pure _

theorem repeats_buildWith (hfolder : r.Repeats (Job.ensureFolders (CMake.buildDir t.outDir)))
    (c : CMake.Config) : r.Repeats (buildWith t l c) := by
  have hbuild (library profile : String) :=
    CMake.repeats_build hfolder c library profile l.cmake
  unfold buildWith
  refine (FirstRun.repeats_get _).bind fun profile => ?_
  dsimp only
  split
  · refine (hbuild _ _).bind fun _ => (hbuild _ _).bind fun _ => FirstRun.repeats_pure _
  · exact (hbuild _ _).bind fun _ => FirstRun.repeats_pure _

theorem repeats_build (hfolder : r.Repeats (Job.ensureFolders (CMake.buildDir t.outDir)))
    (hpresent : ∀ s s', r.Again s s' →
      (Source.isPresent (sourceDir t l)).result r.host s' = .ok true) :
    r.Repeats (build t l) := by
  rw [build_eq]
  refine Source.repeats_ensure_bind ?_ hpresent
  refine (repeats_config t l).bind fun c => ?_
  exact (repeats_chooseCompilers t _).bind fun c => repeats_buildWith hfolder c

end Native

/-! ## The bindings -/

namespace Link

/-- No directive that links is a warning. -/
theorem key_of_mem_directives {a : Artifacts} {d : Directive} (hd : d ∈ directives a t) :
    d.key ≠ "warning" := by
  unfold directives at hd
  simp only [List.mem_append, List.mem_map, List.mem_singleton] at hd
  rcases hd with ((⟨folder, -, rfl⟩ | rfl) | hd) | hd
  · exact (by decide : "rustc-link-search" ≠ "warning")
  · exact (by decide : "rustc-link-lib" ≠ "warning")
  · split at hd
    · rw [List.mem_singleton.1 hd]
      exact (by decide : "rustc-link-lib" ≠ "warning")
    · cases hd
  · split at hd
    · rw [List.mem_singleton.1 hd]
      exact (by decide : "rustc-cdylib-link-arg" ≠ "warning")
    · cases hd

theorem repeats_emit (root : Path) (t : Target) : r.Repeats (emit root t) := by
  unfold emit
  refine (FirstRun.repeats_get _).bind fun a => ?_
  refine FirstRun.Repeats.bind ?_ fun _ => FirstRun.repeats_pure _
  refine FirstRun.repeats_forM _ fun d hd => FirstRun.repeats_emit fun heq => ?_
  exact key_of_mem_directives hd (heq ▸ rfl)

end Link

namespace Bindings

theorem isGenerate_generatorCall (root output : Path) (sysroot : List String) :
    (generatorCall t l root output sysroot).isGenerate = true := by
  unfold Call.isGenerate generatorCall flags
  simp [List.isPrefixOf_iff_prefix, List.append_assoc]

theorem repeats_appleSysroot (sdk xcrun : String) : r.Repeats (appleSysroot sdk xcrun) := by
  rw [appleSysroot_eq]
  refine FirstRun.repeats_start_or none rfl rfl (fun exit => ?_) ?_ ?_
  · unfold sysrootOf
    dsimp only
    split
    · exact FirstRun.repeats_pure _
    · refine (FirstRun.repeats_warn _ _).bind fun _ => ?_
      split
      · exact (FirstRun.repeats_log _ _ _).bind fun _ => FirstRun.repeats_pure _
      · exact FirstRun.repeats_pure _
  · exact fun e s => within_sysrootOf _ _
  · exact fun e s => rfl

/-- The locations of the bindings and of the temporary file. -/
def locations (host : Host) (t : Target) (l : Layout) : List Location :=
  [Disk.target host.cwd.parts t.outDir ++ [l.bindingsFile],
    Disk.target host.cwd.parts t.outDir ++ [l.bindingsFile ++ ".tmp"]]

/-- The locations of the folders whose entries a run looks through. -/
def listedFolders (host : Host) (t : Target) : List Location :=
  match t.platform, t.ndkHome with
  | .android, some home => [Disk.target host.cwd.parts (Ndk.prebuiltDir home)]
  | _, _ => []

theorem repeats_sysrootArguments (hlisted : listedFolders r.host t ⊆ r.listed) :
    r.Repeats (sysrootArguments t l) := by
  unfold sysrootArguments
  split
  case h_1 | h_2 =>
    refine (FirstRun.repeats_get _).bind fun sdk => ?_
    refine (repeats_appleSysroot sdk l.xcrun).bind fun sysroot => ?_
    cases sysroot <;> exact FirstRun.repeats_pure _
  · rename_i hplatform
    unfold Target.requireNdkHome
    cases hhome : t.ndkHome with
    | none => exact FirstRun.repeats_fail _
    | some home =>
      have hroot : Disk.target r.host.cwd.parts (Ndk.prebuiltDir home) ∈ r.listed :=
        hlisted (by rw [listedFolders, hplatform, hhome]; exact List.mem_singleton.2 rfl)
      rw [show Job.get (Except.ok home) = pure home from rfl, pure_bind]
      exact (FirstRun.repeats_locate hroot).bind fun toolchain => FirstRun.repeats_pure _
  · exact FirstRun.repeats_pure _
  · exact FirstRun.repeats_pure _

/-! ### The bindings and the temporary file -/

section

variable {cwd : Location} {output temporary : Path}

/-- The temporary file has the name of the bindings with a suffix. -/
theorem of_temporaryPath (h : temporaryPath output = .ok temporary) :
    ∃ name, output.name? = some name ∧ temporary.name? = some (name ++ ".tmp") ∧
      temporary.parent = output.parent := by
  unfold temporaryPath Path.withSuffix? at h
  split at h
  · rename_i path hpath
    cases h
    split at hpath
    · cases hpath
    · rename_i name hname
      cases hpath
      refine ⟨name, hname, List.getLast?_concat .., Path.ext rfl ?_⟩
      exact List.dropLast_concat
  · cases h

theorem append_tmp_ne_dots (name : String) : name ++ ".tmp" ≠ ".." := by
  intro heq
  have hlength := congrArg String.length heq
  rw [String.length_append, show ".tmp".length = 4 from rfl, show "..".length = 2 from rfl]
    at hlength
  omega

/-- The bindings and the temporary file are two files in one folder. -/
theorem target_temporary (h : temporaryPath output = .ok temporary)
    (hdots : ".." ∉ Disk.base cwd output ++ output.parts) :
    ∃ name, Disk.target cwd output = Disk.target cwd output.parent ++ [name] ∧
      Disk.target cwd temporary = Disk.target cwd output.parent ++ [name ++ ".tmp"] := by
  obtain ⟨name, hname, hname', hparent⟩ := of_temporaryPath h
  have hlast : name ∈ output.parts := List.mem_of_getLast? hname
  refine ⟨name, Disk.target_of_name? hname ?_, ?_⟩
  · rintro rfl
    exact hdots (List.mem_append_right _ hlast)
  · rw [Disk.target_of_name? hname' (append_tmp_ne_dots name), hparent]

theorem target_temporary_outputPath (h : temporaryPath (outputPath t l) = .ok temporary)
    (hname : isPathPart l.bindingsFile = true) (hplain : l.bindingsFile ≠ "..")
    (hdots : ".." ∉ Disk.base cwd t.outDir ++ t.outDir.parts) :
    Disk.target cwd temporary =
      Disk.target cwd t.outDir ++ [l.bindingsFile ++ ".tmp"] := by
  obtain ⟨name, houtput, htemporary⟩ :=
    target_temporary h (Disk.straight_div_part hname hplain hdots)
  have hparent : (outputPath t l).parent = t.outDir := Path.parent_div hname
  rw [hparent] at houtput htemporary
  obtain ⟨-, hsame⟩ := List.append_inj' ((Disk.target_div_part hname hplain).symm.trans houtput) rfl
  rw [htemporary, List.singleton_inj.1 hsame]

theorem beside_temporary (h : temporaryPath output = .ok temporary)
    (hdots : ".." ∉ Disk.base cwd output ++ output.parts) :
    ¬Disk.target cwd temporary <+: Disk.target cwd output ∧
      ¬Disk.target cwd output <+: Disk.target cwd temporary := by
  obtain ⟨name, houtput, htemporary⟩ := target_temporary h hdots
  have hne : name ++ ".tmp" ≠ name := fun heq => by
    have hlength := congrArg String.length heq
    rw [String.length_append, show ".tmp".length = 4 from rfl] at hlength
    omega
  rw [houtput, htemporary, List.prefix_append_right_inj, List.prefix_append_right_inj]
  simp [hne, Ne.symm hne]

end

theorem repeats_getReady (hlisted : listedFolders r.host t ⊆ r.listed)
    (hfolder : r.Repeats (Job.ensureFolders (outputPath t l).parent)) (root : Path) :
    r.Repeats (getReady t l root) := by
  unfold getReady call
  refine (FirstRun.repeats_ofExcept _).bind fun temporary => ?_
  refine FirstRun.Repeats.bind ?_ fun c => ?_
  · exact (repeats_sysrootArguments hlisted).bind fun _ => FirstRun.repeats_pure _
  · refine (FirstRun.repeats_log _ _ _).bind fun _ => ?_
    refine (FirstRun.repeats_log _ _ _).bind fun _ => ?_
    exact hfolder.bind fun _ => FirstRun.repeats_pure _

/-! ### The last steps -/

/-- The temporary file, and a call of the generator that is to write it. -/
structure IsReady (t : Target) (l : Layout) (temporary : Path) (call : Call) : Prop where
  path : temporaryPath (outputPath t l) = .ok temporary
  generates : call.isGenerate = true
  output : call.outputPath? = some temporary

theorem isReady_of_getReady {host : Host} {root temporary : Path} {call : Call}
    (h : (getReady t l root).result host s = .ok (temporary, call)) :
    IsReady t l temporary call := by
  obtain ⟨htemporary, sysroot, -, rfl⟩ := eq_of_getReady h
  exact ⟨htemporary, isGenerate_generatorCall _ _ _, outputPath?_generatorCall _ _ _⟩

/-- Bindings have been published: once all was ready, the generator has been started in the session
`s₁` and its file has been moved in the session `s₂`. -/
structure Ending (host : Host) (s : Session) (j : Job (Path × Call)) (t : Target) (l : Layout)
    (temporary : Path) (call : Call) (exit : Exit) (s₁ s₂ : Session) (d : Disk) : Prop
    extends IsReady t l temporary call where
  ready : j.result host s = .ok (temporary, call)
  left_ready : j.left host s = s₁
  ended : (Job.start call).result host s₁ = .ok (.ok exit)
  left_start : (Job.start call).left host s₁ = s₂
  code : exit.code = 0
  present : (Job.isPresent temporary).result host s₂ = .ok true
  moved : s₂.disk.rename host.cwd.parts temporary (outputPath t l) = .ok d

section

variable {host : Host} {j : Job (Path × Call)} {s₁ s₂ : Session} {temporary path : Path}
  {call : Call} {exit : Exit} {d : Disk}

theorem Ending.publishes (e : Ending host s j t l temporary call exit s₁ s₂ d) :
    (j >>= fun r => Job.start r.2 >>= publish t l r.1 r.2).result host s =
        .ok (outputPath t l) ∧
      (j >>= fun r => Job.start r.2 >>= publish t l r.1 r.2).left host s =
        { s₂ with disk := d } := by
  rw [result_bind_of_ok e.ready, left_bind_of_ok e.ready, e.left_ready]
  dsimp only
  rw [result_bind_of_ok e.ended, left_bind_of_ok e.ended, e.left_start]
  exact publish_of_rename e.code e.present e.moved

theorem exists_ending (hready : ∀ temporary call, j.result host s = .ok (temporary, call) →
      IsReady t l temporary call)
    (hpath : (j >>= fun r => Job.start r.2 >>= publish t l r.1 r.2).result host s = .ok path) :
    path = outputPath t l ∧
      ∃ temporary call exit s₁ s₂ d, Ending host s j t l temporary call exit s₁ s₂ d := by
  obtain ⟨⟨temporary, call⟩, hdone, hpath⟩ := result_bind_eq_ok.1 hpath
  obtain ⟨answer, hstart, hpath⟩ := result_bind_eq_ok.1 hpath
  obtain ⟨exit, d, rfl, hcode, rfl, hpresent, hmoved, -⟩ := of_result_publish hpath
  exact ⟨rfl, temporary, call, exit, _, _, d, hready _ _ hdone, hdone, rfl, hstart, rfl, hcode,
    hpresent, hmoved⟩

theorem Ending.call_mem (e : Ending host s j t l temporary call exit s₁ s₂ d) :
    call ∈ callsOf s₂.log := by
  rw [← e.left_start, Job.left_start, mem_callsOf]
  exact List.mem_append_right _ (List.mem_singleton.2 rfl)

/-- A generator that writes its file whenever it ends well has written its text. -/
theorem Ending.exists_text (e : Ending host s j t l temporary call exit s₁ s₂ d)
    (hsteady : ∀ earlier call, host.tools earlier call = host.tools [] call)
    (hwrites : ∀ call ∈ callsOf s₂.log, call.isGenerate = true → ∀ exit,
      host.tools [] call = .ended exit → exit.code = 0 → call.outputText? host exit ≠ none) :
    ∃ text, call.outputText? host exit = some text := by
  refine Option.ne_none_iff_exists'.1 (hwrites call e.call_mem e.generates exit ?_ e.code)
  exact (hsteady _ _).symm.trans (tools_of_result_start e.ended)

variable {text : String} {apart listed : List Location}

/-- What is left has the bindings with the text of the generator, no temporary file, and all that
was there when the generator had ended. -/
theorem Ending.keeps (e : Ending host s j t l temporary call exit s₁ s₂ d)
    (hdots : ".." ∉ Disk.base host.cwd.parts (outputPath t l) ++ (outputPath t l).parts)
    (htext : call.outputText? host exit = some text)
    (hapart : Disk.target host.cwd.parts temporary ∈ apart)
    (hlisted : ∀ root ∈ listed, ∀ loc ∈ [Disk.target host.cwd.parts temporary,
      Disk.target host.cwd.parts (outputPath t l)], root <+: loc → loc = root) :
    s₂.disk.Keeps apart listed d ∧ d.at? (Disk.target host.cwd.parts temporary) = none ∧
      d.read host.cwd.parts (outputPath t l) = .ok text.toUTF8 := by
  obtain ⟨hbeside, hbeside'⟩ := beside_temporary e.path hdots
  have hat := at?_of_outputText e.output e.ended htext
  rw [e.left_start] at hat
  obtain ⟨hkeeps, hgone⟩ := Disk.keeps_rename e.moved hat hbeside hbeside' hapart hlisted
  exact ⟨hkeeps, hgone, Disk.read_of_rename e.moved hat⟩

/-- When the generator has written its text again, its file can be moved again. -/
theorem Ending.again {s' s₁' : Session} {j' : Job (Path × Call)}
    (e : Ending host s j t l temporary call exit s₁ s₂ d)
    (hdots : ".." ∉ Disk.base host.cwd.parts (outputPath t l) ++ (outputPath t l).parts)
    (htext : call.outputText? host exit = some text)
    (hready' : j'.result host s' = .ok (temporary, call))
    (hleft' : j'.left host s' = s₁')
    (hended' : (Job.start call).result host s₁' = .ok (.ok exit))
    (hkeeps : s₂.disk.KeepsFolders ((Job.start call).left host s₁').disk)
    (hfree : ¬((Job.start call).left host s₁').disk.HoldsFolder
      (Disk.target host.cwd.parts (outputPath t l))) :
    ∃ s₂' d', Ending host s' j' t l temporary call exit s₁' s₂' d' ∧
      s₂' = (Job.start call).left host s₁' ∧
      d'.read host.cwd.parts (outputPath t l) = .ok text.toUTF8 := by
  obtain ⟨hbeside, hbeside'⟩ := beside_temporary e.path hdots
  have hat := at?_of_outputText e.output e.ended htext
  have hat' := at?_of_outputText e.output hended' htext
  rw [e.left_start] at hat
  obtain ⟨d', hmoved'⟩ := hkeeps.rename e.moved hat hat' hbeside hbeside' hfree
  have hpresent' : (Job.isPresent temporary).result host ((Job.start call).left host s₁') =
      .ok true := by
    obtain ⟨folder, name, found, -, -, -, hplace, -, -⟩ := Disk.places_of_rename hmoved'
    exact result_isPresent_eq_ok_true.2 ⟨(result_isPresent_eq_ok_true.1 e.present).1,
      Disk.isPresent_of_find (Disk.find_of_place hplace)⟩
  exact ⟨_, d', ⟨e.toIsReady, hready', hleft', hended', rfl, e.code, hpresent', hmoved'⟩, rfl,
    Disk.read_of_rename hmoved' hat'⟩

end

end Bindings

/-! ## The run -/

namespace Pipeline

/-- A run that can be repeated, by its calls: what comes of them does not depend on the calls
before, only the generator touches the bindings and the temporary file, which it writes, and
nothing is touched in the toolchains of the NDK, which are away from the output folder. A folder
that a tool makes for its files is touched like the files: a file in a folder with the name of the
bindings counts as one of the bindings. -/
structure IsRepeatable (host : Host) (t : Target) (l : Layout) (calls : List Call) : Prop
    extends SteadyCalls host (Bindings.locations host t l) (Bindings.listedFolders host t)
      calls where
  straight : ".." ∉ (host.cwd / t.outDir).parts
  plain : isPathPart l.bindingsFile = true ∧ l.bindingsFile ≠ ".."
  apartFromSources : Path.resolve host.cwd (Native.sourceDir t l / "CMakeLists.txt") ≠
    Path.resolve host.cwd (Bindings.outputPath t l)
  outsideNdk : ∀ root ∈ Bindings.listedFolders host t,
    ¬root <+: Disk.target host.cwd.parts t.outDir
  writes : ∀ call ∈ calls, call.isGenerate = true → ∀ exit, host.tools [] call = .ended exit →
    exit.code = 0 → call.outputText? host exit ≠ none

namespace IsRepeatable

variable {host : Host} {calls : List Call} (h : IsRepeatable host t l calls)

include h

theorem target_outputPath : Disk.target host.cwd.parts (Bindings.outputPath t l) =
    Disk.target host.cwd.parts t.outDir ++ [l.bindingsFile] :=
  Disk.target_div_part h.plain.1 h.plain.2

theorem eq_of_prefix_concat {root : Location} {name : String}
    (hroot : root ∈ Bindings.listedFolders host t)
    (hunder : root <+: Disk.target host.cwd.parts t.outDir ++ [name]) :
    Disk.target host.cwd.parts t.outDir ++ [name] = root := by
  rcases List.prefix_concat_iff.1 hunder with heq | hout
  · exact heq.symm
  · exact absurd hout (h.outsideNdk root hroot)

theorem base_straight : ".." ∉ Disk.base host.cwd.parts t.outDir ++ t.outDir.parts := by
  rw [← Disk.parts_div]
  exact h.straight

theorem output_straight : ".." ∉ Disk.base host.cwd.parts (Bindings.outputPath t l) ++
    (Bindings.outputPath t l).parts :=
  Disk.straight_div_part h.plain.1 h.plain.2 h.base_straight

theorem not_prefix_of_mem_way {root loc : Location} (hroot : root ∈ Bindings.listedFolders host t)
    (hloc : loc ∈ Disk.way host.cwd.parts t.outDir) : ¬root <+: loc := fun hunder =>
  h.outsideNdk root hroot (hunder.trans (Disk.prefix_target_of_mem_way h.base_straight hloc))

/-- Making the folder for the bindings touches nothing in the NDK. -/
theorem eq_of_mem_way_parent {root loc : Location} (hroot : root ∈ Bindings.listedFolders host t)
    (hloc : loc ∈ Disk.way host.cwd.parts (Bindings.outputPath t l).parent)
    (hunder : root <+: loc) : loc = root := by
  unfold Bindings.outputPath at hloc
  rw [Path.parent_div h.plain.1] at hloc
  exact absurd hunder (h.not_prefix_of_mem_way hroot hloc)

/-- Making the folder for CMake touches nothing in the NDK. -/
theorem eq_of_mem_way_buildDir {root loc : Location}
    (hroot : root ∈ Bindings.listedFolders host t)
    (hloc : loc ∈ Disk.way host.cwd.parts (CMake.buildDir t.outDir)) (hunder : root <+: loc) :
    loc = root := by
  have hpart : isPathPart "build" = true := by decide
  have hstraight : ".." ∉ Disk.base host.cwd.parts (CMake.buildDir t.outDir) ++
      (CMake.buildDir t.outDir).parts :=
    Disk.straight_div_part hpart (by decide) h.base_straight
  have hdown := Disk.prefix_target_of_mem_way hstraight hloc
  rw [CMake.buildDir, Disk.target_div_part hpart (by decide)] at hdown
  rcases List.prefix_concat_iff.1 hdown with rfl | hout
  · exact h.eq_of_prefix_concat hroot hunder
  · exact absurd (hunder.trans hout) (h.outsideNdk root hroot)

/-- The file by which the sources are told is none of those that the bindings need. -/
theorem sources_not_mem_locations :
    Disk.target host.cwd.parts (Native.sourceDir t l / "CMakeLists.txt") ∉
      Bindings.locations host t l := by
  have hpart : isPathPart "CMakeLists.txt" = true := by decide
  intro hmem
  simp only [Bindings.locations, List.mem_cons, List.not_mem_nil, or_false] at hmem
  rcases hmem with heq | heq
  · rw [← h.target_outputPath] at heq
    refine h.apartFromSources (Path.ext rfl ?_)
    rw [Disk.parts_resolve, Disk.parts_resolve, heq]
  · rw [Disk.target_div_part hpart (by decide)] at heq
    have hlast := congrArg List.getLast? heq
    rw [List.getLast?_concat, List.getLast?_concat, Option.some.injEq] at hlast
    have hchar := congrArg (fun text => text.toList.getLast?) hlast
    simp at hchar

end IsRepeatable

/-- What a run does between removing old bindings and starting the generator. -/
def untilGenerator (t : Target) (l : Layout) : Job (Path × Call) := do
  untilBindings t l
  Bindings.getReady t l (Bindings.headerRoot t (Native.sourceDir t l))

/-- The run that has left a session, as one that is to be repeated. -/
def firstRun {host : Host} (last : Session) (h : IsRepeatable host t l (callsOf last.log)) :
    FirstRun where
  host := host
  last := last
  apart := Bindings.locations host t l
  listed := Bindings.listedFolders host t
  calls := h.toSteadyCalls

/-- Everything between the removal of old bindings and the start of the generator is done
again. -/
theorem repeats_untilGenerator {host : Host} (last : Session)
    (h : IsRepeatable host t l (callsOf last.log))
    (hpresent : t.prebuilt = none →
      (Source.isPresent (Native.sourceDir t l)).result host last = .ok true) :
    (firstRun last h).Repeats (untilGenerator t l) := by
  have hbuildDir : (firstRun last h).Repeats (Job.ensureFolders (CMake.buildDir t.outDir)) :=
    FirstRun.repeats_ensureFolders fun root hroot loc hloc => h.eq_of_mem_way_buildDir hroot hloc
  have hparent : (firstRun last h).Repeats (Job.ensureFolders (Bindings.outputPath t l).parent) :=
    FirstRun.repeats_ensureFolders fun root hroot loc hloc => h.eq_of_mem_way_parent hroot hloc
  have hname : (Native.sourceDir t l / "CMakeLists.txt").name? = some "CMakeLists.txt" :=
    Path.name?_div (by decide)
  have hroot : (firstRun last h).Repeats (buildRoot t l) := by
    unfold buildRoot
    cases hprebuilt : t.prebuilt with
    | some root => exact (FirstRun.repeats_log _ _ _).bind fun _ => FirstRun.repeats_pure _
    | none =>
      exact Native.repeats_build hbuildDir fun s s' hagain =>
        hagain.isPresent hname (by decide) h.sources_not_mem_locations (hpresent hprebuilt)
  have hlink : (firstRun last h).Repeats (link t l) := by
    unfold link
    refine hroot.bind fun root => ?_
    exact (Link.repeats_emit root t).bind fun _ => FirstRun.repeats_emit (by decide)
  refine FirstRun.Repeats.bind ?_ fun _ =>
    Bindings.repeats_getReady (List.Subset.refl _) hparent _
  unfold untilBindings
  refine (FirstRun.repeats_emit (by decide)).bind fun _ => ?_
  dsimp only
  split
  · exact (FirstRun.repeats_emit (by decide)).bind fun _ => hlink
  · exact hlink

/-- A run removes old bindings, gets ready, starts the generator, and publishes what it has
written. -/
theorem run_eq_untilGenerator (t : Target) (l : Layout) :
    run t l = removeFile (Bindings.outputPath t l) >>= fun _ => untilGenerator t l >>= fun ready =>
      Job.start ready.2 >>= Bindings.publish t l ready.1 ready.2 := by
  rw [run_eq_removeFile]
  simp only [untilGenerator, bind_assoc, Bindings.generate_eq_publish]

theorem isReady_of_untilGenerator {host : Host} {temporary : Path} {call : Call}
    (h : (untilGenerator t l).result host s = .ok (temporary, call)) :
    Bindings.IsReady t l temporary call := by
  obtain ⟨_, -, hready⟩ := result_bind_eq_ok.1 h
  exact Bindings.isReady_of_getReady hready

section

variable {host : Host} {s₁ s₂ : Session} {temporary path : Path} {call : Call} {exit : Exit}
  {d : Disk}

/-- The last steps of a run that has succeeded, once old bindings have been removed. -/
abbrev Ending (host : Host) (s : Session) (t : Target) (l : Layout) : Path → Call → Exit → Session →
    Session → Disk → Prop :=
  Bindings.Ending host ((removeFile (Bindings.outputPath t l)).left host s) (untilGenerator t l) t l

theorem run_of_ending (e : Ending host s t l temporary call exit s₁ s₂ d)
    (hremoved : (removeFile (Bindings.outputPath t l)).result host s = .ok ()) :
    (run t l).result host s = .ok (Bindings.outputPath t l) ∧
      (run t l).left host s = { s₂ with disk := d } := by
  rw [run_eq_untilGenerator, result_bind_of_ok hremoved, left_bind_of_ok hremoved]
  exact e.publishes

theorem exists_ending (hpath : (run t l).result host s = .ok path) :
    (removeFile (Bindings.outputPath t l)).result host s = .ok () ∧
      path = Bindings.outputPath t l ∧
      ∃ temporary call exit s₁ s₂ d, Ending host s t l temporary call exit s₁ s₂ d := by
  rw [run_eq_untilGenerator] at hpath
  obtain ⟨_, hremoved, hpath⟩ := result_bind_eq_ok.1 hpath
  exact ⟨hremoved, Bindings.exists_ending (fun _ _ => isReady_of_untilGenerator) hpath⟩

theorem IsRepeatable.target_of_temporaryPath {calls : List Call} (h : IsRepeatable host t l calls)
    (htemporary : Bindings.temporaryPath (Bindings.outputPath t l) = .ok temporary) :
    Disk.target host.cwd.parts temporary =
      Disk.target host.cwd.parts t.outDir ++ [l.bindingsFile ++ ".tmp"] :=
  Bindings.target_temporary_outputPath htemporary h.plain.1 h.plain.2 h.base_straight

/-- What a run that has succeeded has left: its bindings, with the text of the generator, no
temporary file, and all that was there when the generator had ended. -/
theorem passes_of_ending (e : Ending host s t l temporary call exit s₁ s₂ d)
    (h : IsRepeatable host t l (callsOf s₂.log)) {text : String}
    (htext : call.outputText? host exit = some text) :
    (firstRun { s₂ with disk := d } h).Passes s₂ ∧
      d.at? (Disk.target host.cwd.parts temporary) = none ∧
      d.read host.cwd.parts (Bindings.outputPath t l) = .ok text.toUTF8 := by
  have htarget := h.target_of_temporaryPath e.path
  have hlisted : ∀ root ∈ Bindings.listedFolders host t,
      ∀ loc ∈ [Disk.target host.cwd.parts temporary,
        Disk.target host.cwd.parts (Bindings.outputPath t l)], root <+: loc → loc = root := by
    intro root hroot loc hloc
    rw [htarget, h.target_outputPath, List.mem_cons, List.mem_singleton] at hloc
    rcases hloc with rfl | rfl <;> exact h.eq_of_prefix_concat hroot
  have hapart : Disk.target host.cwd.parts temporary ∈ Bindings.locations host t l := by
    rw [htarget]
    simp [Bindings.locations]
  obtain ⟨hkeeps, hleft⟩ := e.keeps h.output_straight htext hapart hlisted
  exact ⟨⟨List.prefix_rfl, hkeeps⟩, hleft⟩

/-- With the bindings removed, nothing is at their locations if no temporary file is. -/
theorem IsRepeatable.at?_erase_outputPath {calls : List Call} (h : IsRepeatable host t l calls)
    (htemporary : Bindings.temporaryPath (Bindings.outputPath t l) = .ok temporary)
    (hgone : d.at? (Disk.target host.cwd.parts temporary) = none) {loc : Location}
    (hloc : loc ∈ Bindings.locations host t l) :
    (d.erase (Disk.target host.cwd.parts (Bindings.outputPath t l))).at? loc = none := by
  obtain ⟨hbeside, hbeside'⟩ := Bindings.beside_temporary htemporary h.output_straight
  rw [Bindings.locations, List.mem_cons, List.mem_singleton] at hloc
  rcases hloc with rfl | rfl
  · rw [← h.target_outputPath]
    refine Entry.at?_erase_self fun hnil => ?_
    rw [hnil] at hbeside'
    exact hbeside' List.nil_prefix
  · rw [← h.target_of_temporaryPath htemporary]
    exact (Entry.at?_erase_beside hbeside' hbeside).trans hgone

/-- The second run removes the bindings of the first one. -/
theorem again_removeFile (last : Session) (h : IsRepeatable host t l (callsOf last.log))
    {content : ByteArray} {disk : Disk}
    (hremoved : (removeFile (Bindings.outputPath t l)).result host { disk := disk } = .ok ())
    (htemporary : Bindings.temporaryPath (Bindings.outputPath t l) = .ok temporary)
    (hgone : last.disk.at? (Disk.target host.cwd.parts temporary) = none)
    (hread : last.disk.read host.cwd.parts (Bindings.outputPath t l) = .ok content) :
    (removeFile (Bindings.outputPath t l)).result host { disk := last.disk } = .ok () ∧
      (firstRun last h).Again ((removeFile (Bindings.outputPath t l)).left host { disk := disk })
        ((removeFile (Bindings.outputPath t l)).left host { disk := last.disk }) := by
  let output := Disk.target host.cwd.parts (Bindings.outputPath t l)
  have houtput : output = Disk.target host.cwd.parts t.outDir ++ [l.bindingsFile] :=
    h.target_outputPath
  have hnul : (Bindings.outputPath t l).hasNul = false := by
    rw [result_removeFile] at hremoved
    cases hnul : (Bindings.outputPath t l).hasNul with
    | true => simp [hnul] at hremoved
    | false => rfl
  have hfind := Disk.find_of_read hread
  have hname : (Bindings.outputPath t l).name? = some l.bindingsFile := Path.name?_div h.plain.1
  obtain ⟨d, hunlink⟩ :=
    Disk.exists_unlink_of_isFile hname h.plain.2 (Disk.isFile_of_find hfind)
  obtain ⟨rfl, -⟩ := Disk.eq_erase_of_unlink hunlink
  have hlog : ((removeFile (Bindings.outputPath t l)).left host { disk := disk }).log = [] := by
    rw [left_removeFile, hnul]
    cases disk.unlink host.cwd.parts (Bindings.outputPath t l) <;> rfl
  have hleft : (removeFile (Bindings.outputPath t l)).left host { disk := last.disk } =
      { disk := last.disk.erase output } := by
    rw [left_removeFile, hnul, hunlink]
    rfl
  refine ⟨by rw [result_removeFile, hnul, hunlink]; rfl, ?_⟩
  rw [hleft]
  refine ⟨Disk.keeps_erase ⟨content, Disk.at?_target_of_find hfind⟩ ?_ ?_, ?_, ?_⟩
  · change output ∈ Bindings.locations host t l
    rw [Bindings.locations, houtput]
    exact List.mem_cons_self
  · intro root hroot hunder
    rw [houtput] at hunder ⊢
    exact h.eq_of_prefix_concat hroot hunder
  · rintro loc hloc ⟨children, hfolder⟩
    have hnone := h.at?_erase_outputPath htemporary hgone hloc
    rw [hfolder] at hnone
    cases hnone
  · rw [hlog]
    rfl

/-- Up to the end of the generator a run does again what it has done. -/
theorem again_start {s' : Session}
    (e : Ending r.host s t l temporary call exit s₁ s₂ d) (hpasses : r.Passes s₂)
    (hrepeats : r.Repeats (untilGenerator t l))
    (hagain : r.Again ((removeFile (Bindings.outputPath t l)).left r.host s) s') :
    (untilGenerator t l).result r.host s' = .ok (temporary, call) ∧
      (Job.start call).result r.host ((untilGenerator t l).left r.host s') = .ok (.ok exit) ∧
      r.Again s₂ ((Job.start call).left r.host ((untilGenerator t l).left r.host s')) := by
  have hfetch : call.isFetch = false := by
    cases hfetch : call.isFetch with
    | false => rfl
    | true =>
      have hsecond := Call.second_of_isFetch hfetch
      rw [Call.second_of_isGenerate e.generates] at hsecond
      exact absurd (Option.some.inj hsecond) (by decide)
  have hstarted : r.Passes ((Job.start call).left r.host s₁) := by rwa [e.left_start]
  have hbefore : r.Passes ((untilGenerator t l).left r.host
      ((removeFile (Bindings.outputPath t l)).left r.host s)) := by
    rw [e.left_ready]
    exact hstarted.of_start.2
  obtain ⟨hready', hagain₁⟩ := hrepeats.again e.ready hbefore hagain
  rw [e.left_ready] at hagain₁
  obtain ⟨hended', hagain₂⟩ := hagain₁.start hfetch e.ended hstarted
  rw [e.left_start] at hagain₂
  exact ⟨hready', hended', hagain₂⟩

/-- What a run that has succeeded has done is done again on the disk that it has left. -/
theorem again_of_ending {disk : Disk}
    (e : Ending host { disk := disk } t l temporary call exit s₁ s₂ d)
    (hremoved : (removeFile (Bindings.outputPath t l)).result host { disk := disk } = .ok ())
    (h : IsRepeatable host t l (callsOf s₂.log))
    (hpresent : t.prebuilt = none →
      (Source.isPresent (Native.sourceDir t l)).result host { s₂ with disk := d } = .ok true) :
    (removeFile (Bindings.outputPath t l)).result host { disk := d } = .ok () ∧
      ∃ s₁' s₂' d', Ending host { disk := d } t l temporary call exit s₁' s₂' d' ∧
        effectsOf s₂'.log = lastingOf s₂.log ∧
        ∃ content, d.read host.cwd.parts (Bindings.outputPath t l) = .ok content ∧
          d'.read host.cwd.parts (Bindings.outputPath t l) = .ok content := by
  obtain ⟨text, htext⟩ := e.exists_text h.steady h.writes
  obtain ⟨hpasses, hgone, hread⟩ := passes_of_ending e h htext
  have hrepeats := repeats_untilGenerator { s₂ with disk := d } h hpresent
  obtain ⟨hremoved', hagain⟩ :=
    again_removeFile { s₂ with disk := d } h hremoved e.path hgone hread
  obtain ⟨hready', hended', hagain₂⟩ :=
    again_start (r := firstRun { s₂ with disk := d } h) e hpasses hrepeats hagain
  have hfree := hagain₂.free (Disk.target host.cwd.parts (Bindings.outputPath t l)) (by
    rw [h.target_outputPath]
    exact List.mem_cons_self)
  obtain ⟨_, d', e', rfl, hread'⟩ := e.again h.output_straight htext hready' rfl hended'
    (hpasses.disk.trans hagain₂.disk).folders hfree
  exact ⟨hremoved', _, _, d', e', hagain₂.log, text.toUTF8, hread, hread'⟩

end

/-- A second run on the disk that a first one has left gives the same path and the same bindings.
It does not fetch the sources, and apart from that it starts the same tools in the same order and
emits the same directives. -/
theorem a_second_run_repeats_the_first {host : Host} {disk : Disk} {t : Target} {l : Layout}
    {path : Path} (hpath : (run t l).result host { disk := disk } = .ok path)
    (hrepeatable : IsRepeatable host t l
      (callsOf ((run t l).left host { disk := disk }).log))
    (hsources : t.prebuilt.isSome = true ∨ (Source.isPresent (Native.sourceDir t l)).result host
      ((run t l).left host { disk := disk }) = .ok true) :
    let first := (run t l).left host { disk := disk }
    let second := (run t l).left host { disk := first.disk }
    (run t l).result host { disk := first.disk } = .ok path ∧
      (∀ call ∈ callsOf second.log, call.isFetch = false) ∧
      callsOf second.log = (callsOf first.log).filter (fun call => !call.isFetch) ∧
      directivesOf second.log = (directivesOf first.log).filter (· ≠ Source.fetchWarning) ∧
      ∃ content, first.disk.read host.cwd.parts path = .ok content ∧
        second.disk.read host.cwd.parts path = .ok content := by
  intro first second
  obtain ⟨hremoved, rfl, temporary, call, exit, s₁, s₂, d, e⟩ := exists_ending hpath
  have hfirst : first = { s₂ with disk := d } := (run_of_ending e hremoved).2
  have h : IsRepeatable host t l (callsOf s₂.log) := by
    have hlog : first.log = s₂.log := by rw [hfirst]
    rw [← hlog]
    exact hrepeatable
  have hpresent (hprebuilt : t.prebuilt = none) :
      (Source.isPresent (Native.sourceDir t l)).result host { s₂ with disk := d } = .ok true := by
    rw [← hfirst]
    exact hsources.resolve_left (by simp [hprebuilt])
  obtain ⟨hremoved', s₁', s₂', d', e', heffects, hcontent⟩ := again_of_ending e hremoved h hpresent
  have hsecond : second = { s₂' with disk := d' } := by
    change (run t l).left host { disk := first.disk } = _
    rw [hfirst]
    exact (run_of_ending e' hremoved').2
  have hcalls : callsOf s₂'.log = (callsOf s₂.log).filter fun call => !call.isFetch := by
    rw [← callsOf_effectsOf, heffects, callsOf_lastingOf]
  have hdirectives : directivesOf s₂'.log =
      (directivesOf s₂.log).filter (· ≠ Source.fetchWarning) := by
    rw [← directivesOf_effectsOf, heffects, directivesOf_lastingOf]
  rw [hsecond, hfirst]
  refine ⟨(run_of_ending e' hremoved').1, fun call hcall => ?_, hcalls, hdirectives, hcontent⟩
  rw [hcalls] at hcall
  simpa using (List.mem_filter.1 hcall).2

/-- A machine on which git fetches the sources and the generator writes its file. -/
def fetchingTools : Host where
  cwd := .ofString "/"
  tools _ call :=
    .ended {
      written :=
        if call.isFetch then [(.ofString "/crate/deps/boringssl/CMakeLists.txt", "")]
        else (call.outputPath?.map fun path => (path, "bindings")).toList }

/-- A build for Android fetches the sources the first time only, and does all else again. -/
theorem an_android_build_is_repeated :
    let first := (run Bindings.androidTarget .default).left fetchingTools
      { disk := Bindings.macNdkDisk }
    let second := (run Bindings.androidTarget .default).left fetchingTools { disk := first.disk }
    (∃ call ∈ callsOf first.log, call.isFetch = true) ∧
      (∀ call ∈ callsOf second.log, call.isFetch = false) ∧
      callsOf second.log = (callsOf first.log).filter (fun call => !call.isFetch) ∧
      directivesOf second.log = (directivesOf first.log).filter (· ≠ Source.fetchWarning) ∧
      ∃ path content, first.disk.read fetchingTools.cwd.parts path = .ok content ∧
        second.disk.read fetchingTools.cwd.parts path = .ok content := by
  intro first second
  have hresult : ((run Bindings.androidTarget .default).result fetchingTools
      { disk := Bindings.macNdkDisk }).isOk = true := by decide +kernel
  have hrepeatable :
      IsRepeatable fetchingTools Bindings.androidTarget .default (callsOf first.log) := by
    have hwrites : ∀ call ∈ callsOf first.log, call.isGenerate = true →
        call.outputText? fetchingTools { written :=
          if call.isFetch then [(.ofString "/crate/deps/boringssl/CMakeLists.txt", "")]
          else (call.outputPath?.map fun path => (path, "bindings")).toList } ≠ none := by
      decide +kernel
    refine ⟨⟨fun _ _ => rfl, by decide, by decide +kernel, by decide +kernel⟩, by decide +kernel,
      by decide, by decide +kernel, by decide +kernel, ?_⟩
    intro call hcall hgenerate exit hexit _
    cases hexit
    exact hwrites call hcall hgenerate
  have hfound : (first.disk.find fetchingTools.cwd.parts
      (Native.sourceDir Bindings.androidTarget .default / "CMakeLists.txt")).isOk = true := by
    decide +kernel
  obtain ⟨path, hpath⟩ := exists_of_isOk hresult
  obtain ⟨entry, hfind⟩ := exists_of_isOk hfound
  have hpresent : (Source.isPresent (Native.sourceDir Bindings.androidTarget .default)).result
      fetchingTools first = .ok true :=
    result_isPresent_eq_ok_true.2 ⟨by decide +kernel, Disk.isPresent_of_find hfind⟩
  obtain ⟨-, hfetches, hcalls, hdirectives, hcontent⟩ :=
    a_second_run_repeats_the_first hpath hrepeatable (Or.inr hpresent)
  exact ⟨by decide +kernel, hfetches, hcalls, hdirectives, path, hcontent⟩

end Pipeline

end CrossBuild
