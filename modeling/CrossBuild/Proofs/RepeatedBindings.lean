-- Generating bindings again. The bindings alone are generated on the disk that a run has left by
-- the same calls and with the same content, as long as the toolchains of the NDK stay as they are
-- and the generator writes its file again.
import CrossBuild.Proofs.RepeatedRuns

namespace CrossBuild

open Job

variable {host : Host} {s s' : Session} {t : Target} {l : Layout}

theorem Ndk.left_locate (root : Path) : (locate root).left host s = s := by
  unfold locate
  rw [left_bind, left_ask]
  split
  · rename_i answer _
    cases answer with
    | error code => rfl
    | ok entries =>
      dsimp only
      cases choose? entries <;> rfl
  · rfl

/-- A toolchain that has been found is found again as long as its folder keeps its entries. -/
theorem Ndk.locate_again {root : Path} {name : String} {apart listed : List Location}
    (h : (locate root).result host s = .ok name) (hkeeps : s.disk.Keeps apart listed s'.disk)
    (hroot : Disk.target host.cwd.parts root ∈ listed) :
    (locate root).result host s' = .ok name := by
  unfold locate at h ⊢
  obtain ⟨answer, hanswer, h⟩ := result_bind_eq_ok.1 h
  cases answer with
  | error code => cases h
  | ok entries =>
    have hagain : (ask root fun d cwd => d.list cwd root).result host s' = .ok (.ok entries) := by
      rw [result_ask] at hanswer ⊢
      split at hanswer
      · cases hanswer
      · rename_i hnul
        rw [if_neg hnul, hkeeps.list hroot (Except.ok.inj hanswer)]
    rw [result_bind_of_ok hagain]
    dsimp only at h ⊢
    cases hchosen : choose? entries with
    | none => rw [hchosen] at h; cases h
    | some found => rw [hchosen] at h; exact h

/-- A call that looks for an SDK. -/
def Call.isSdkQuery (c : Call) : Bool := ["--show-sdk-path", "--sdk"].isPrefixOf c.arguments

namespace Bindings

/-- Calls that do not disturb the bindings: what comes of a call does not depend on the calls
before, the generator writes its file whenever it ends well, and nothing is written into the
toolchains of the NDK. -/
structure IsUndisturbed (host : Host) (t : Target) (l : Layout) (calls : List Call) : Prop where
  steady : ∀ earlier call, host.tools earlier call = host.tools [] call
  absolute : host.cwd.isAbsolute = true
  straight : ".." ∉ (host.cwd / outputPath t l).parts
  writes : ∀ call ∈ calls, call.isGenerate = true → ∀ exit, host.tools [] call = .ended exit →
    exit.code = 0 → call.outputText? host exit ≠ none
  outsideNdk : ∀ call ∈ calls, ∀ loc ∈ call.touched host, ∀ root ∈ listedFolders host t,
    root <+: loc → loc = root

/-- Wherever bindings are generated from the session on, the temporary file is there once the
generator has been started. -/
def GeneratorWrites (host : Host) (s : Session) (t : Target) (l : Layout) (root : Path) : Prop :=
  ∀ temporary call s₁, Yields (getReady t l root) host s (temporary, call) s₁ →
    ((Job.start call).left host s₁).disk.HoldsFile (Disk.target host.cwd.parts temporary)

instance (host : Host) (s : Session) (t : Target) (l : Layout) (root : Path) :
    Decidable (GeneratorWrites host s t l root) :=
  match hready : (getReady t l root).result host s with
  | .error _ => isTrue fun _ _ _ h => nomatch hready.symm.trans h.1
  | .ok (temporary, call) =>
    decidable_of_iff (((Job.start call).left host ((getReady t l root).left host s)).disk.HoldsFile
        (Disk.target host.cwd.parts temporary)) <| by
      constructor
      · rintro hfile temporary' call' s₁ ⟨hready', rfl⟩
        cases hready.symm.trans hready'
        exact hfile
      · exact fun h => h temporary call _ ⟨hready, rfl⟩

/-- Nothing of what is on a disk is gone, and no folder is at a location. -/
structure StillHas (loc : Location) (d d' : Disk) : Prop where
  keeps : d.Keeps [] [] d'
  free : ¬d'.HoldsFolder loc

/-! ## The system headers -/

/-- The folder that the answer of the search for an SDK gives. -/
def sdkFolder : Except SystemError Exit → Option String
  | .error _ => none
  | .ok exit => if exit.code = 0 then some (Text.trimEnd exit.stdout) else none

theorem result_sysrootOf (answer : Except SystemError Exit) :
    (sysrootOf answer).result host s = .ok (sdkFolder answer) := by
  cases answer with
  | error e => rfl
  | ok exit =>
    unfold sysrootOf sdkFolder
    dsimp only
    by_cases hcode : exit.code = 0
    · rw [if_pos hcode, if_pos hcode]
      rfl
    · rw [if_neg hcode, if_neg hcode]
      by_cases hstderr : exit.stderr ≠ ""
      · rw [if_pos hstderr]
        rfl
      · rw [if_neg hstderr]
        rfl

theorem disk_sysrootOf (answer : Except SystemError Exit) (s : Session) :
    ((sysrootOf answer).left host s).disk = s.disk := by
  obtain ⟨said, -, hleft⟩ := FirstRun.left_of_silent (within_sysrootOf _ answer)
  rw [hleft]

variable {calls : List Call} {temporary : Path} {listed : List Location}

theorem exists_appleSysroot_again (h : IsUndisturbed host t l calls) {sdk : String}
    {found : Option String} (hresult : (appleSysroot sdk l.xcrun).result host s = .ok found)
    (s' : Session) : ∃ found', (appleSysroot sdk l.xcrun).result host s' = .ok found' := by
  rw [appleSysroot_eq] at *
  obtain ⟨answer, hanswer, -⟩ := result_bind_eq_ok.1 hresult
  obtain ⟨answer', hanswer'⟩ := exists_result_start_again h.steady hanswer s'
  exact ⟨_, (result_bind_of_ok hanswer' _).trans (result_sysrootOf answer')⟩

/-- The search for an SDK finds again what it has found, or again finds nothing, if it makes no
folder in the place of the temporary file. -/
theorem appleSysroot_again (h : IsUndisturbed host t l calls) {sdk : String}
    {found : Option String} (hresult : (appleSysroot sdk l.xcrun).result host s = .ok found)
    (hkeeps : ((appleSysroot sdk l.xcrun).left host s).disk.Keeps
      [Disk.target host.cwd.parts temporary] listed s'.disk)
    (hfree : ¬((appleSysroot sdk l.xcrun).left host s').disk.HoldsFolder
      (Disk.target host.cwd.parts temporary)) :
    (appleSysroot sdk l.xcrun).result host s' = .ok found := by
  rw [appleSysroot_eq] at *
  obtain ⟨answer, hanswer, hfound⟩ := result_bind_eq_ok.1 hresult
  obtain ⟨answer', hanswer'⟩ := exists_result_start_again h.steady hanswer s'
  rw [left_bind_of_ok hanswer, disk_sysrootOf] at hkeeps
  rw [left_bind_of_ok hanswer', disk_sysrootOf] at hfree
  rw [result_sysrootOf] at hfound
  rw [result_bind_of_ok hanswer', result_sysrootOf, ← hfound]
  cases answer with
  | ok exit =>
    have hbefore : ¬s'.disk.HoldsFolder (Disk.target host.cwd.parts temporary) := by
      rintro ⟨children, hat⟩
      exact hfree ((grows_start h.steady s' _).folders _ children hat)
    obtain ⟨hagain, -⟩ := start_again h.steady hanswer hkeeps (by simpa using hbefore)
    rw [hagain] at hanswer'
    cases hanswer'
    rfl
  | error e =>
    cases answer' with
    | error e' => rfl
    | ok exit =>
      have hbeside : ∀ loc ∈ (sdkCall sdk l.xcrun).folders host,
          loc ∉ [Disk.target host.cwd.parts temporary] := by
        intro loc hloc hapart
        rw [List.mem_singleton.1 hapart] at hloc
        exact hfree (holdsFolder_of_mem_folders h.steady hanswer' hloc)
      have hbefore : s.disk.Keeps [Disk.target host.cwd.parts temporary] [] s'.disk :=
        Disk.Keeps.trans ((grows_start h.steady s _).keeps nofun)
          (hkeeps.mono (List.Subset.refl _) (List.nil_subset _))
      obtain ⟨e', hagain⟩ := start_again_of_error h.steady h.absolute hanswer hbefore hbeside
      rw [hagain] at hanswer'
      cases hanswer'

theorem sysrootArguments_apple (happle : t.platform = .ios ∨ t.platform = .macos) :
    sysrootArguments t l = Job.get (appleSdk t.triple) >>= fun sdk =>
      appleSysroot sdk l.xcrun >>= fun found =>
        pure (found.elim [] fun sysroot => ["-isysroot", sysroot]) := by
  unfold sysrootArguments
  rcases happle with hplatform | hplatform <;> rw [hplatform] <;>
    exact bind_congr fun sdk => bind_congr fun found => by cases found <;> rfl

theorem sysrootArguments_android (handroid : t.platform = .android) {home : Path}
    (hhome : t.ndkHome = some home) :
    sysrootArguments t l = Ndk.locate (Ndk.prebuiltDir home) >>= fun toolchain =>
      pure ["--sysroot", (Ndk.prebuiltDir home / toolchain / "sysroot").text] := by
  unfold sysrootArguments Target.requireNdkHome
  rw [handroid, hhome]
  rfl

/-- The search for the system headers only adds to a disk. -/
theorem keeps_sysrootArguments (h : IsUndisturbed host t l calls) (s : Session) :
    s.disk.Keeps [] [] ((sysrootArguments t l).left host s).disk := by
  have hstarts : Within (fun a => ∃ call, a = .start call) (sysrootArguments t l) host s :=
    within_sysrootArguments fun sdk => ⟨_, rfl⟩
  have hrefl (d : Disk) : d.Keeps [] [] d := (Disk.Grows.refl d : Disk.Grows [] [] d d).keeps nofun
  refine hstarts.keeps (R := fun s s' => s.disk.Keeps [] [] s'.disk) (fun s => hrefl s.disk)
    (fun _ _ _ => .trans) fun a ha s => ?_
  rcases ha with ha | ⟨call, rfl⟩
  · cases a with
    | record e h => exact hrefl s.disk
    | _ => cases ha
  · exact (grows_start h.steady s call).keeps nofun

/-- The arguments for the system headers are found again, if this makes no folder in the place of
the temporary file. -/
theorem sysrootArguments_again (h : IsUndisturbed host t l calls) {sysroot : List String}
    (hresult : (sysrootArguments t l).result host s = .ok sysroot)
    (hkeeps : ((sysrootArguments t l).left host s).disk.Keeps
      [Disk.target host.cwd.parts temporary] (listedFolders host t) s'.disk) :
    (∃ sysroot', (sysrootArguments t l).result host s' = .ok sysroot') ∧
      (¬((sysrootArguments t l).left host s').disk.HoldsFolder
          (Disk.target host.cwd.parts temporary) →
        (sysrootArguments t l).result host s' = .ok sysroot) := by
  by_cases happle : t.platform = .ios ∨ t.platform = .macos
  · cases hsdk : appleSdk t.triple with
    | error p =>
      rw [sysrootArguments_apple happle, hsdk] at hresult
      cases hresult
    | ok sdk =>
      have heq : sysrootArguments t l = appleSysroot sdk l.xcrun >>= fun found =>
          pure (found.elim [] fun sysroot => ["-isysroot", sysroot]) := by
        rw [sysrootArguments_apple happle, hsdk]
        rfl
      rw [heq] at hresult hkeeps ⊢
      obtain ⟨found, hfound, hresult⟩ := result_bind_eq_ok.1 hresult
      rw [left_bind_of_ok hfound, left_pure] at hkeeps
      obtain ⟨found', hfound'⟩ := exists_appleSysroot_again h hfound s'
      rw [result_bind_of_ok hfound', left_bind_of_ok hfound', left_pure]
      refine ⟨⟨_, rfl⟩, fun hfree => ?_⟩
      have hagain := appleSysroot_again h hfound hkeeps hfree
      rw [hagain] at hfound'
      cases hfound'
      exact hresult
  · suffices hagain : (sysrootArguments t l).result host s' = .ok sysroot from
      ⟨⟨_, hagain⟩, fun _ => hagain⟩
    cases hplatform : t.platform with
    | ios => exact absurd (.inl hplatform) happle
    | macos => exact absurd (.inr hplatform) happle
    | android =>
      cases hhome : t.ndkHome with
      | none =>
        unfold sysrootArguments Target.requireNdkHome at hresult
        rw [hplatform, hhome] at hresult
        cases hresult
      | some home =>
        rw [sysrootArguments_android hplatform hhome] at *
        obtain ⟨toolchain, hfound, hresult⟩ := result_bind_eq_ok.1 hresult
        rw [left_bind_of_ok hfound, left_pure, Ndk.left_locate] at hkeeps
        have hlisted : Disk.target host.cwd.parts (Ndk.prebuiltDir home) ∈
            listedFolders host t := by
          rw [listedFolders, hplatform, hhome]
          exact List.mem_singleton.2 rfl
        rw [result_bind_of_ok (Ndk.locate_again hfound hkeeps hlisted)]
        exact hresult
    | wasi | windows | linux | other =>
      unfold sysrootArguments at hresult ⊢
      rw [hplatform] at hresult ⊢
      exact hresult

/-! ## The generator -/

/-- What the user is told before the generator is started. -/
def announce (t : Target) (l : Layout) (call : Call) : Job Unit := do
  Job.log .info .bindings ("Generating " ++ (outputPath t l).text)
  Job.log .debug .bindings ("Running " ++ " ".intercalate call.words)

/-- What is done once the system headers are known. -/
def makeReady (t : Target) (l : Layout) (root temporary : Path) (sysroot : List String) :
    Job (Path × Call) := do
  let call := generatorCall t l root temporary sysroot
  announce t l call
  Job.ensureFolders (outputPath t l).parent
  return (temporary, call)

theorem getReady_eq {root temporary : Path}
    (htemporary : temporaryPath (outputPath t l) = .ok temporary) :
    getReady t l root = sysrootArguments t l >>= makeReady t l root temporary := by
  unfold getReady call makeReady announce
  simp only [htemporary, bind_assoc, pure_bind]
  rfl

variable {root : Path} {sysroot : List String}

theorem within_makeReady : Within (fun a => a = .ensureFolders (outputPath t l).parent)
    (makeReady t l root temporary sysroot) host s := by
  unfold makeReady announce
  refine Within.bind ?_ fun _ _ => Within.bind (within_ensureFolders rfl) fun _ _ => within_pure _
  exact Within.bind (within_log _ _ _) fun _ _ => within_log _ _ _

theorem grows_makeReady : Disk.Grows [] (Disk.way host.cwd.parts (outputPath t l).parent) s.disk
    ((makeReady t l root temporary sysroot).left host s).disk := by
  refine within_makeReady.keeps
    (R := fun s s' =>
      Disk.Grows [] (Disk.way host.cwd.parts (outputPath t l).parent) s.disk s'.disk)
    (fun s => .refl _) (fun _ _ _ => .trans) fun a ha s => ?_
  rcases ha with ha | rfl
  · cases a with
    | record e h => exact .refl _
    | _ => cases ha
  · simp only [Action.after, left_ensureFolders]
    split
    · exact .refl _
    · exact Disk.grows_ensureFolders _ _ _

theorem eq_of_makeReady {ready : Path × Call}
    (h : (makeReady t l root temporary sysroot).result host s = .ok ready) :
    ready = (temporary, generatorCall t l root temporary sysroot) := by
  unfold makeReady at h
  obtain ⟨_, -, h⟩ := result_bind_eq_ok.1 h
  obtain ⟨_, -, h⟩ := result_bind_eq_ok.1 h
  exact (Except.ok.inj h).symm

/-- All is ready at once, whatever system headers there are, if the folder for the bindings is
there. -/
theorem makeReady_again {ready : Path × Call}
    (h : (makeReady t l root temporary sysroot).result host s = .ok ready)
    (hkeeps : ((makeReady t l root temporary sysroot).left host s).disk.KeepsFolders s'.disk)
    (sysroot' : List String) :
    (makeReady t l root temporary sysroot').result host s' =
        .ok (temporary, generatorCall t l root temporary sysroot') ∧
      ((makeReady t l root temporary sysroot').left host s').disk = s'.disk := by
  unfold makeReady at h hkeeps ⊢
  obtain ⟨_, hannounced, h⟩ := result_bind_eq_ok.1 h
  obtain ⟨_, hmade, h⟩ := result_bind_eq_ok.1 h
  rw [left_bind_of_ok hannounced, left_bind_of_ok hmade, left_pure] at hkeeps
  have hannounced' : (announce t l (generatorCall t l root temporary sysroot')).result host s' =
      .ok () := rfl
  obtain ⟨hmade', hleft'⟩ : (ensureFolders (outputPath t l).parent).result host
        ((announce t l (generatorCall t l root temporary sysroot')).left host s') = .ok () ∧
      (ensureFolders (outputPath t l).parent).left host
        ((announce t l (generatorCall t l root temporary sysroot')).left host s') =
          (announce t l (generatorCall t l root temporary sysroot')).left host s' :=
    ensureFolders_again hmade hkeeps
  rw [result_bind_of_ok hannounced', left_bind_of_ok hannounced', result_bind_of_ok hmade',
    left_bind_of_ok hmade', hleft']
  exact ⟨rfl, rfl⟩

/-- A generator that has its file in its place has had no folder there. -/
theorem GeneratorWrites.free {call : Call} (h : IsUndisturbed host t l calls)
    (hwrites : GeneratorWrites host s t l root)
    (hready : (getReady t l root).result host s = .ok (temporary, call)) :
    ¬((getReady t l root).left host s).disk.HoldsFolder (Disk.target host.cwd.parts temporary) := by
  rintro ⟨children, hat⟩
  refine (hwrites temporary call _ ⟨hready, rfl⟩).not_holdsFolder ?_
  exact (grows_start h.steady _ call).folders _ children hat

theorem getReady_again {call : Call} (h : IsUndisturbed host t l calls)
    (hready : (getReady t l root).result host s = .ok (temporary, call))
    (hlisted : ∀ root ∈ listedFolders host t,
      ∀ loc ∈ Disk.way host.cwd.parts (outputPath t l).parent, root <+: loc → loc = root)
    (hkeeps : ((getReady t l root).left host s).disk.Keeps [Disk.target host.cwd.parts temporary]
      (listedFolders host t) s'.disk)
    (hwrites : GeneratorWrites host s' t l root) :
    (getReady t l root).result host s' = .ok (temporary, call) ∧
      StillHas (Disk.target host.cwd.parts temporary) s'.disk
        ((getReady t l root).left host s').disk := by
  have htemporary := (isReady_of_getReady hready).path
  have hfree {call : Call} (hready : (getReady t l root).result host s' = .ok (temporary, call)) :
      ¬((getReady t l root).left host s').disk.HoldsFolder
        (Disk.target host.cwd.parts temporary) := hwrites.free h hready
  rw [getReady_eq htemporary] at *
  obtain ⟨sysroot, hsysroot, hready⟩ := result_bind_eq_ok.1 hready
  rw [left_bind_of_ok hsysroot] at hkeeps
  have hadded := keeps_sysrootArguments h s'
  obtain ⟨⟨sysroot', hsysroot'⟩, hagain⟩ := sysrootArguments_again h hsysroot
    ((grows_makeReady.keeps (by simpa using hlisted)).trans hkeeps)
  have hmade := makeReady_again hready (hkeeps.folders.trans hadded.folders)
  rw [result_bind_of_ok hsysroot', left_bind_of_ok hsysroot', (hmade sysroot').2] at hfree
  have hnone := hfree (hmade sysroot').1
  have hsame := hagain hnone
  rw [result_bind_of_ok hsame, left_bind_of_ok hsame, (hmade sysroot).1, (hmade sysroot).2,
    eq_of_makeReady hready]
  exact ⟨rfl, hadded, hnone⟩

/-! ## The bindings -/

theorem IsUndisturbed.output_straight (h : IsUndisturbed host t l calls) :
    ".." ∉ Disk.base host.cwd.parts (outputPath t l) ++ (outputPath t l).parts := by
  rw [← Disk.parts_div]
  exact h.straight

section

variable {j : Job (Path × Call)} {s₁ s₂ : Session} {call : Call} {exit : Exit} {d : Disk}
  {text : String}

/-- Nothing about the bindings is in the toolchains of the NDK, since the generator writes beside
them. -/
theorem IsUndisturbed.eq_of_prefix (h : IsUndisturbed host t l calls) (hcall : call ∈ calls)
    (hready : IsReady t l temporary call) (hwritten : writtenOn host [] call = exit.written)
    (htext : call.outputText? host exit = some text) :
    ∀ root ∈ listedFolders host t, ∀ loc ∈ Disk.way host.cwd.parts (outputPath t l).parent ++
      [Disk.target host.cwd.parts temporary, Disk.target host.cwd.parts (outputPath t l)],
        root <+: loc → loc = root := by
  obtain ⟨name, houtput, hname⟩ := target_temporary hready.path h.output_straight
  have hfile := files_subset_touched (Call.target_mem_files hready.output hwritten htext)
  intro root hroot
  have houtside : ¬root <+: Disk.target host.cwd.parts (outputPath t l).parent := by
    intro hunder
    have heq := h.outsideNdk call hcall _ hfile root hroot
      (hname ▸ hunder.trans (List.prefix_append _ _))
    have hlength := hunder.length_le
    rw [← heq, hname, List.length_append, List.length_singleton] at hlength
    omega
  have hin {name : String} (hunder : root <+: Disk.target host.cwd.parts (outputPath t l).parent ++
      [name]) : Disk.target host.cwd.parts (outputPath t l).parent ++ [name] = root :=
    (List.prefix_concat_iff.1 hunder).elim Eq.symm fun hunder => absurd hunder houtside
  have hparent := Disk.straight_parent h.output_straight
  intro loc hloc hunder
  rcases List.mem_append.1 hloc with hloc | hloc
  · exact absurd (hunder.trans (Disk.prefix_target_of_mem_way hparent hloc)) houtside
  · rw [houtput, hname, List.mem_cons, List.mem_singleton] at hloc
    rcases hloc with rfl | rfl <;> exact hin hunder

/-- What bindings have been left with: all that was there when everything was ready, but for the
temporary file. -/
theorem IsUndisturbed.keeps_of_ending (h : IsUndisturbed host t l (callsOf s₂.log))
    (e : Ending host s j t l temporary call exit s₁ s₂ d)
    (htext : call.outputText? host exit = some text) :
    s₁.disk.Keeps [Disk.target host.cwd.parts temporary] (listedFolders host t) s₂.disk ∧
      s₂.disk.Keeps [Disk.target host.cwd.parts temporary] (listedFolders host t) d ∧
      d.read host.cwd.parts (outputPath t l) = .ok text.toUTF8 := by
  have hwritten := (writtenOn_eq h.steady _ _).symm.trans (writtenOn_of_result_start e.ended)
  have hmoved := h.eq_of_prefix e.call_mem e.toIsReady hwritten htext
  obtain ⟨hkeeps, -, hread⟩ := e.keeps h.output_straight htext (List.mem_singleton.2 rfl)
    fun root hroot loc hloc => hmoved root hroot loc (List.mem_append_right _ hloc)
  refine ⟨?_, hkeeps, hread⟩
  rw [← e.left_start]
  refine (grows_start h.steady s₁ call).keeps fun root hroot loc hloc => ?_
  refine h.outsideNdk call e.call_mem loc ?_ root hroot
  exact (List.mem_append.1 hloc).elim (files_subset_touched ·) (folders_subset_touched ·)

/-- What has led to bindings leads to them again on the disk that it has left. -/
theorem IsUndisturbed.again_of_ending (h : IsUndisturbed host t l (callsOf s₂.log))
    (e : Ending host s (getReady t l root) t l temporary call exit s₁ s₂ s'.disk)
    (htext : call.outputText? host exit = some text) (hwrites : GeneratorWrites host s' t l root) :
    ∃ s₁' s₂' d', Ending host s' (getReady t l root) t l temporary call exit s₁' s₂' d' ∧
      d'.read host.cwd.parts (outputPath t l) = .ok text.toUTF8 := by
  obtain ⟨hstarted, hkeeps, hread⟩ := h.keeps_of_ending e htext
  have hwritten := (writtenOn_eq h.steady _ _).symm.trans (writtenOn_of_result_start e.ended)
  have hway := h.eq_of_prefix e.call_mem e.toIsReady hwritten htext
  obtain ⟨hready', hstill⟩ := getReady_again h e.ready
    (fun root hroot loc hloc => hway root hroot loc (List.mem_append_left _ hloc))
    (e.left_ready ▸ hstarted.trans hkeeps) hwrites
  have hkeeps' := (hkeeps.mono (List.Subset.refl _) (List.nil_subset _)).trans
    (hstill.keeps.mono (List.nil_subset _) (List.Subset.refl _))
  obtain ⟨hended', hgrows⟩ :=
    start_again h.steady e.ended (e.left_start ▸ hkeeps') (by simpa using hstill.free)
  have hthere : s'.disk.HoldsFile (Disk.target host.cwd.parts (outputPath t l)) :=
    ⟨_, Disk.at?_target_of_find (Disk.find_of_read hread)⟩
  have hfile := hgrows.files _ (hstill.keeps.files _ nofun hthere)
  obtain ⟨s₂', d', e', -, hread'⟩ := e.again h.output_straight htext hready' rfl hended'
    (hkeeps'.folders.trans hgrows.folders) hfile.not_holdsFolder
  exact ⟨_, s₂', d', e', hread'⟩

end

theorem callsOf_generate {call : Call} {path : Path} {sdk : String}
    (hsdk : ∀ name, appleSdk t.triple = .ok name → sdk = name)
    (hready : (getReady t l root).result host s = .ok (temporary, call))
    (hpath : (generate t l root).result host s = .ok path) :
    callsOf ((generate t l root).events host s) = sdkCalls t l sdk ++ [call] := by
  obtain ⟨htemporary, sysroot, hsysroot, rfl⟩ := eq_of_getReady hready
  have hfollows : Follows (fun _ => False)
      ((sdkCalls t l sdk ++ [generatorCall t l root temporary sysroot]).map .started)
      (generate t l root) host s :=
    follows_generate (fun path hpath => Except.ok.inj (htemporary.symm.trans hpath)) hsdk
      (fun arguments harguments => Except.ok.inj (hsysroot.symm.trans harguments)) not_false
  rw [← callsOf_effectsOf, hfollows.complete path hpath, callsOf_map_started]

/-- On the disk that bindings have been left on, they are generated again by the same calls and
with the same content, if the generator writes its file again. -/
theorem generate_again {path : Path}
    (h : IsUndisturbed host t l (callsOf ((generate t l root).left host s).log))
    (hpath : (generate t l root).result host s = .ok path)
    (hdisk : s'.disk = ((generate t l root).left host s).disk)
    (hwrites : GeneratorWrites host s' t l root) :
    (generate t l root).result host s' = .ok path ∧
      callsOf ((generate t l root).events host s') =
        callsOf ((generate t l root).events host s) ∧
      ∃ content, s'.disk.read host.cwd.parts path = .ok content ∧
        ((generate t l root).left host s').disk.read host.cwd.parts path = .ok content := by
  have hpublish := hpath
  rw [generate_eq_publish] at hpublish
  obtain ⟨rfl, temporary, call, exit, s₁, s₂, d, e⟩ :=
    exists_ending (fun _ _ => isReady_of_getReady) hpublish
  rw [show (generate t l root).left host s = { s₂ with disk := d } from
    generate_eq_publish t l root ▸ e.publishes.2] at h hdisk
  change IsUndisturbed host t l (callsOf s₂.log) at h
  subst hdisk
  obtain ⟨text, htext⟩ := e.exists_text h.steady h.writes
  obtain ⟨-, -, hread⟩ := h.keeps_of_ending e htext
  obtain ⟨s₁', s₂', d', e', hread'⟩ := h.again_of_ending e htext hwrites
  obtain ⟨hpath', hleft'⟩ := e'.publishes
  rw [← generate_eq_publish] at hpath' hleft'
  obtain ⟨sdk, hsdk⟩ := exists_of_ok (appleSdk t.triple) id ""
  refine ⟨hpath', ?_, text.toUTF8, hread, ?_⟩
  · rw [callsOf_generate hsdk e'.ready hpath', callsOf_generate hsdk e.ready hpath]
  · rw [hleft']
    exact hread'

end Bindings

end CrossBuild
