-- Where published bindings come from. They are what the generator of the same run has
-- written, with one exception: a temporary file that an earlier run has left is
-- published if the generator ends well and writes nothing.
import CrossBuild.Proofs.BuildSteps
import CrossBuild.Proofs.DiskContents

namespace CrossBuild

open Job

variable {host : Host} {s : Session} {t : Target} {l : Layout}

/-! ## What a tool writes -/

/-- The last text that a tool writes to the file named after `--output`. -/
def Call.outputText? (call : Call) (host : Host) (exit : Exit) : Option String :=
  call.outputPath?.bind fun path =>
    ((exit.written.filter fun w =>
      Path.resolve host.cwd (host.cwd / call.folder.getD .here / w.1) =
        Path.resolve host.cwd path).getLast?).map (·.2)

namespace Job

variable {cwd loc : Location} {base : Path} {written : List (Path × String)} {d : Disk}

/-- Writing comes down to the first file and the rest of them. -/
theorem exists_of_writeAll {w : Path × String}
    (h : (writeAll cwd base (w :: written) d).2 = .ok ()) :
    ∃ d', (d.ensureFolders cwd (base / w.1).parent).2 = .ok () ∧
      (d.ensureFolders cwd (base / w.1).parent).1.write cwd (base / w.1) w.2.toUTF8 = .ok d' ∧
      writeAll cwd base (w :: written) d = writeAll cwd base written d' := by
  obtain ⟨p, text⟩ := w
  rw [writeAll] at h ⊢
  dsimp only at h ⊢
  split at h
  · cases h
  · rename_i d₁ hfolders
    split at h
    · cases h
    · rename_i d₂ hwrite
      exact ⟨d₂, by rw [hfolders], by rw [hfolders]; exact hwrite, rfl⟩

/-- A file stays as it is when a tool writes other files, whatever it comes to. -/
theorem file_of_writeAll {content : ByteArray} (hfile : d.at? loc = some (.file content))
    (hother : ∀ w ∈ written, Disk.target cwd (base / w.1) ≠ loc) :
    (writeAll cwd base written d).1.at? loc = some (.file content) := by
  induction written generalizing d with
  | nil => exact hfile
  | cons w rest ih =>
    obtain ⟨p, text⟩ := w
    rw [List.forall_mem_cons] at hother
    have hkept : (d.ensureFolders cwd (base / p).parent).1.at? loc = some (.file content) :=
      Disk.file_of_ensureFolders hfile
    rw [writeAll]
    split
    · rename_i hmade
      rw [hmade] at hkept
      exact hkept
    · rename_i hmade
      rw [hmade] at hkept
      split
      · exact hkept
      · rename_i hwrite
        exact ih (Disk.file_of_write hwrite hkept (Ne.symm hother.1)) hother.2

/-- Of the texts that a tool writes to a file, the last one is its content. -/
theorem at?_of_writeAll {text : String} (h : (writeAll cwd base written d).2 = .ok ())
    (htext : ((written.filter fun w => Disk.target cwd (base / w.1) = loc).getLast?).map (·.2) =
      some text) :
    (writeAll cwd base written d).1.at? loc = some (.file text.toUTF8) := by
  induction written generalizing d with
  | nil => cases htext
  | cons w rest ih =>
    obtain ⟨d', -, hwrite, heq⟩ := exists_of_writeAll h
    rw [heq] at h ⊢
    cases hrest : rest.filter fun w => Disk.target cwd (base / w.1) = loc with
    | nil =>
      by_cases hw : Disk.target cwd (base / w.1) = loc
      · rw [List.filter_cons_of_pos (by simpa using hw), hrest] at htext
        cases htext
        have hother : ∀ w ∈ rest, Disk.target cwd (base / w.1) ≠ loc := by
          simpa [List.filter_eq_nil_iff] using hrest
        exact file_of_writeAll (hw ▸ Disk.at?_of_write hwrite) hother
      · rw [List.filter_cons_of_neg (by simpa using hw), hrest] at htext
        cases htext
    | cons first later =>
      refine ih h ?_
      rw [← htext, List.filter_cons]
      split
      · rw [hrest, List.getLast?_cons_cons]
      · rfl

end Job

/-! ## Running the generator -/

namespace Bindings

theorem outputPath?_generatorCall (root output : Path) (sysroot : List String) :
    (generatorCall t l root output sysroot).outputPath? = some output := by
  unfold Call.outputPath? generatorCall
  rw [List.append_assoc, List.cons_append, Text.dropWhile_ne_append (output_not_mem_flags t)]
  exact congrArg some (Path.ofString_text output)

/-- Runs the generator once everything is ready. Gives the temporary file, the call, and what
has come of it. -/
def runGenerator (t : Target) (l : Layout) (root : Path) :
    Job (Path × Call × Except SystemError Exit) := do
  let (temporary, call) ← getReady t l root
  return (temporary, call, ← Job.start call)

theorem generate_eq_runGenerator (root : Path) :
    generate t l root = runGenerator t l root >>= fun r => publish t l r.1 r.2.1 r.2.2 := by
  rw [generate_eq_publish]
  simp only [runGenerator, bind_assoc, pure_bind]

end Bindings

/-- The part of a run that ends with the run of the generator. -/
def Pipeline.untilPublish (t : Target) (l : Layout) :
    Job (Path × Call × Except SystemError Exit) := do
  Job.removeFile (Bindings.outputPath t l)
  untilBindings t l
  Bindings.runGenerator t l (Bindings.headerRoot t (Native.sourceDir t l))

theorem Pipeline.run_eq_untilPublish :
    run t l = untilPublish t l >>= fun r => Bindings.publish t l r.1 r.2.1 r.2.2 := by
  rw [run_eq_removeFile]
  simp only [untilPublish, bind_assoc, Bindings.generate_eq_runGenerator]

namespace Bindings

/-- What is published has been written by the generator that has been run, and a generator that
ends well without writing is told of. -/
structure PublishesFresh (host : Host) (s : Session)
    (ran : Job (Path × Call × Except SystemError Exit)) (job : Job Path) : Prop where
  fresh : ∀ path, job.result host s = .ok path → ∃ temporary call exit text,
    ran.result host s = .ok (temporary, call, .ok exit) ∧
      call.outputText? host exit = some text ∧
      (job.left host s).disk.read host.cwd.parts path = .ok text.toUTF8
  missing : ∀ temporary call exit, ran.result host s = .ok (temporary, call, .ok exit) →
    exit.code = 0 → call.outputText? host exit = none →
      job.result host s = .error (.problem (.bindingsMissing call.program exit.stderr))

/-- A generator that ends well without writing finds no temporary file. -/
def NothingStale (host : Host) (s : Session)
    (ran : Job (Path × Call × Except SystemError Exit)) : Prop :=
  ∀ temporary call exit, ran.result host s = .ok (temporary, call, .ok exit) →
    exit.code = 0 → call.outputText? host exit = none →
      (Job.isPresent temporary).result host (ran.left host s) = .ok false

/-- The job ends with a start of the generator, which is to write the temporary file. -/
def EndsWithGenerator (host : Host) (s : Session)
    (ran : Job (Path × Call × Except SystemError Exit)) : Prop :=
  ∀ temporary call answer, ran.result host s = .ok (temporary, call, answer) →
    call.outputPath? = some temporary ∧
    ∃ s₀, (Job.start call).result host s₀ = .ok answer ∧
      ran.left host s = (Job.start call).left host s₀

theorem endsWithGenerator_runGenerator (host : Host) (s : Session) (t : Target) (l : Layout)
    (root : Path) : EndsWithGenerator host s (runGenerator t l root) := by
  intro temporary call answer h
  unfold runGenerator at h ⊢
  obtain ⟨r, hready, h⟩ := result_bind_eq_ok.1 h
  obtain ⟨answer', hanswer, h⟩ := result_bind_eq_ok.1 h
  cases h
  obtain ⟨-, sysroot, -, hcall⟩ := eq_of_getReady hready
  refine ⟨?_, (getReady t l root).left host s, hanswer, ?_⟩
  · rw [hcall]
    exact outputPath?_generatorCall _ _ _
  · rw [left_bind_of_ok hready, left_bind_of_ok hanswer]
    rfl

theorem EndsWithGenerator.after {α : Type} {x : Job α}
    {ran : Job (Path × Call × Except SystemError Exit)}
    (h : EndsWithGenerator host (x.left host s) ran) :
    EndsWithGenerator host s (x >>= fun _ => ran) := by
  intro temporary call answer hran
  obtain ⟨a, ha, hran⟩ := result_bind_eq_ok.1 hran
  rw [left_bind_of_ok ha]
  exact h temporary call answer hran

/-! ## Publishing -/

/-- What is done once the generator has ended well. -/
theorem publish_eq {temporary : Path} {call : Call} {exit : Exit} (hcode : exit.code = 0) :
    publish t l temporary call (.ok exit) =
      Job.isPresent temporary >>= fun present =>
        if present then Job.rename temporary (outputPath t l) >>= fun _ => pure (outputPath t l)
        else Job.fail (.bindingsMissing call.program exit.stderr) := by
  unfold publish
  dsimp only
  rw [if_neg (not_not_intro hcode)]
  refine bind_congr fun present => ?_
  cases present <;> rfl

/-- What is there and can be moved is published. -/
theorem publish_of_rename {temporary : Path} {call : Call} {exit : Exit} {d : Disk}
    (hcode : exit.code = 0) (hpresent : (Job.isPresent temporary).result host s = .ok true)
    (hrename : s.disk.rename host.cwd.parts temporary (outputPath t l) = .ok d) :
    (publish t l temporary call (.ok exit)).result host s = .ok (outputPath t l) ∧
      (publish t l temporary call (.ok exit)).left host s = { s with disk := d } := by
  have hnul := (result_isPresent_eq_ok_true.1 hpresent).1
  have hmoved : (Job.rename temporary (outputPath t l)).result host s = .ok () := by
    rw [result_rename, hnul, hrename]
    rfl
  rw [publish_eq hcode, result_bind_of_ok hpresent, left_bind_of_ok hpresent, left_isPresent,
    if_pos rfl, result_bind_of_ok hmoved, left_bind_of_ok hmoved, left_rename, hnul, hrename]
  exact ⟨rfl, rfl⟩

/-- What is published was there, and it has been moved to its place. -/
theorem of_result_publish {temporary path : Path} {call : Call}
    {answer : Except SystemError Exit}
    (h : (publish t l temporary call answer).result host s = .ok path) :
    ∃ exit d, answer = .ok exit ∧ exit.code = 0 ∧ path = outputPath t l ∧
      (Job.isPresent temporary).result host s = .ok true ∧
      s.disk.rename host.cwd.parts temporary path = .ok d ∧
      (publish t l temporary call answer).left host s = { s with disk := d } := by
  cases answer with
  | error e =>
    obtain ⟨f, hf⟩ := exists_result_bind_fail (Job.removeFile temporary)
      (.bindgenNotStarted call.program e)
    rw [show (publish t l temporary call (.error e)).result host s = .error f from hf] at h
    cases h
  | ok exit =>
    by_cases hcode : exit.code = 0
    · rw [publish_eq hcode] at h
      obtain ⟨present, hpresent, h⟩ := result_bind_eq_ok.1 h
      rw [left_isPresent] at h
      cases present with
      | false => cases h
      | true =>
        obtain ⟨_, hmoved, h⟩ := result_bind_eq_ok.1 h
        cases h
        rw [result_rename] at hmoved
        cases hrename : s.disk.rename host.cwd.parts temporary (outputPath t l) with
        | error code =>
          rw [hrename] at hmoved
          split at hmoved <;> cases hmoved
        | ok d =>
          exact ⟨exit, d, rfl, hcode, rfl, hpresent, rfl,
            (publish_of_rename hcode hpresent hrename).2⟩
    · unfold publish at h
      dsimp only at h
      rw [if_pos hcode] at h
      simp only [fail_bind] at h
      obtain ⟨f, hf⟩ := exists_result_bind_fail (Job.removeFile temporary) _
      rw [hf] at h
      cases h

theorem result_publish_missing_iff {temporary : Path} {call : Call} {exit : Exit}
    (hcode : exit.code = 0) :
    (publish t l temporary call (.ok exit)).result host s =
        .error (.problem (.bindingsMissing call.program exit.stderr)) ↔
      (Job.isPresent temporary).result host s = .ok false := by
  have hask (p : Problem) : (Job.isPresent temporary).result host s ≠ .error (.problem p) := by
    rw [result_isPresent]
    cases temporary.hasNul with
    | true => simp
    | false =>
      cases s.disk.isPresent host.cwd.parts temporary <;> simp [mapError_ok, mapError_error]
  have hmove (p : Problem) : (Job.rename temporary (outputPath t l)).result host s ≠
      .error (.problem p) := by
    rw [result_rename]
    cases temporary.hasNul with
    | true => simp
    | false => cases s.disk.rename host.cwd.parts temporary (outputPath t l) <;> simp
  rw [publish_eq hcode, result_bind, left_isPresent]
  cases hpresent : (Job.isPresent temporary).result host s with
  | error f =>
    rw [hpresent] at hask
    simpa using hask _
  | ok present =>
    cases present with
    | false => simp
    | true =>
      dsimp only
      rw [if_pos rfl, result_bind]
      cases hrename : (Job.rename temporary (outputPath t l)).result host s with
      | error f =>
        rw [hrename] at hmove
        simpa using hmove _
      | ok u => simp

/-- The file named after `--output` is told by where its path leads. -/
theorem outputText?_eq {call : Call} {output : Path} (houtput : call.outputPath? = some output)
    (exit : Exit) :
    call.outputText? host exit =
      ((exit.written.filter fun w =>
        Disk.target host.cwd.parts (host.cwd / call.folder.getD .here / w.1) =
          Disk.target host.cwd.parts output).getLast?).map (·.2) := by
  have hresolve (p q : Path) : (Path.resolve host.cwd p = Path.resolve host.cwd q) ↔
      Disk.target host.cwd.parts p = Disk.target host.cwd.parts q := by
    rw [← Disk.parts_resolve, ← Disk.parts_resolve]
    exact ⟨congrArg Path.parts, fun h => Path.ext rfl h⟩
  unfold Call.outputText?
  rw [houtput]
  simp only [Option.bind_some, hresolve]

/-- The text that the generator has written is in the temporary file when it has ended. -/
theorem at?_of_outputText {call : Call} {exit : Exit} {temporary : Path} {text : String}
    (houtput : call.outputPath? = some temporary)
    (hstart : (Job.start call).result host s = .ok (.ok exit))
    (htext : call.outputText? host exit = some text) :
    ((Job.start call).left host s).disk.at? (Disk.target host.cwd.parts temporary) =
      some (.file text.toUTF8) := by
  obtain ⟨-, -, hwritten⟩ := result_start_eq_ok_ok.1 hstart
  rw [left_start, writtenOn_of_result_start hstart]
  rw [outputText?_eq houtput] at htext
  exact at?_of_writeAll hwritten htext

theorem publishesFresh_iff {ran : Job (Path × Call × Except SystemError Exit)}
    (h : EndsWithGenerator host s ran) :
    PublishesFresh host s ran (ran >>= fun r => publish t l r.1 r.2.1 r.2.2) ↔
      NothingStale host s ran := by
  constructor
  · intro hfresh temporary call exit hran hcode hnone
    have hmissing := hfresh.missing temporary call exit hran hcode hnone
    rw [result_bind_of_ok hran] at hmissing
    exact (result_publish_missing_iff hcode).1 hmissing
  · intro hstale
    constructor
    · intro path hpath
      obtain ⟨⟨temporary, call, answer⟩, hran, hpublish⟩ := result_bind_eq_ok.1 hpath
      obtain ⟨exit, d, rfl, hcode, -, hpresent, hrename, hleft⟩ := of_result_publish hpublish
      obtain ⟨houtput, s₀, hstart, hran'⟩ := h temporary call _ hran
      cases htext : call.outputText? host exit with
      | none =>
        rw [hstale temporary call exit hran hcode htext] at hpresent
        cases hpresent
      | some text =>
        refine ⟨temporary, call, exit, text, hran, htext, ?_⟩
        rw [left_bind_of_ok hran, hleft]
        refine Disk.read_of_rename hrename ?_
        rw [hran']
        exact at?_of_outputText houtput hstart htext
    · intro temporary call exit hran hcode hnone
      rw [result_bind_of_ok hran]
      exact (result_publish_missing_iff hcode).2 (hstale temporary call exit hran hcode hnone)

end Bindings

namespace Pipeline

open Bindings

theorem endsWithGenerator_untilPublish (host : Host) (s : Session) (t : Target) (l : Layout) :
    EndsWithGenerator host s (untilPublish t l) :=
  EndsWithGenerator.after (EndsWithGenerator.after (endsWithGenerator_runGenerator _ _ _ _ _))

/-- A generation, alone or at the end of a run, publishes exactly what its generator has written,
and tells of a generator that writes nothing, if and only if no temporary file is there that the
generator has not written. -/
theorem bindings_are_fresh_iff (host : Host) (s : Session) (t : Target) (l : Layout)
    (root : Path) :
    (PublishesFresh host s (runGenerator t l root) (generate t l root) ↔
      NothingStale host s (runGenerator t l root)) ∧
    (PublishesFresh host s (untilPublish t l) (run t l) ↔
      NothingStale host s (untilPublish t l)) := by
  constructor
  · rw [generate_eq_runGenerator]
    exact publishesFresh_iff (endsWithGenerator_runGenerator host s t l root)
  · rw [run_eq_untilPublish]
    exact publishesFresh_iff (endsWithGenerator_untilPublish host s t l)

/-- A disk on which an earlier run has been interrupted before it published its bindings. -/
def interruptedDisk : Disk := ⟨.folder [("out", .folder [("bindings.rs.tmp", .file "old".toUTF8)])]⟩

/-- The bindings of the earlier run are published though the generator has written nothing. -/
theorem stale_bindings_are_published :
    ¬PublishesFresh silentTools { disk := interruptedDisk } (untilPublish linuxTarget .default)
      (run linuxTarget .default) := by
  intro h
  have hresult : ((run linuxTarget .default).result silentTools { disk := interruptedDisk }).isOk =
      true := by decide +kernel
  cases hpath : (run linuxTarget .default).result silentTools { disk := interruptedDisk } with
  | error f =>
    rw [hpath] at hresult
    cases hresult
  | ok path =>
    obtain ⟨temporary, call, exit, text, hran, htext, -⟩ := h.fresh path hpath
    obtain ⟨houtput, s₀, hstart, -⟩ := endsWithGenerator_untilPublish _ _ _ _ temporary call _ hran
    have hexit : Reply.ended {} = .ended exit := tools_of_result_start hstart
    cases hexit
    rw [Call.outputText?, houtput] at htext
    cases htext

end Pipeline

end CrossBuild
