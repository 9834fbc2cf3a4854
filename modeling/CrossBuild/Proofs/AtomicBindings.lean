-- What a generation of bindings leaves when it fails. The bindings of an earlier run stay
-- as they are, and no temporary file is left behind, as long as the generator writes
-- nothing but its own file.
import CrossBuild.Proofs.FailedRuns
import CrossBuild.Proofs.RepeatedBindings
import CrossBuild.Proofs.ToolchainFolders
import CrossBuild.Proofs.TouchedFiles
import CrossBuild.Proofs.UnreportedFailures

namespace CrossBuild

open Job

/-! ## The disk -/

namespace Disk

variable {d d' : Disk} {cwd loc folder : Location} {p q : Path} {name : String} {e : Option Entry}
  {written made : List Location}

/-- What is at a location stays as it is, a whole folder included, when a disk grows elsewhere. -/
theorem Grows.at?_eq (h : Grows written made d d') (halone : LeavesAlone loc d d')
    (hclear : ∀ loc' ∈ written ++ made, ¬loc <+: loc') : d'.at? loc = d.at? loc := by
  cases hat : d.at? loc with
  | some found =>
    cases found with
    | file content => exact halone.file content hat
    | folder children =>
      exact h.beside loc children hat fun loc' hmem hunder => absurd hunder (hclear loc' hmem)
  | none =>
    cases hat' : d'.at? loc with
    | none => rfl
    | some found =>
      cases found with
      | file content =>
        obtain ⟨content', hold⟩ := halone.newFile ⟨content, hat'⟩
        rw [hat] at hold
        cases hold
      | folder children =>
        rcases h.newFolder loc ⟨children, hat'⟩ with ⟨children', hold⟩ | hmade
        · rw [hat] at hold
          cases hold
        · exact absurd List.prefix_rfl (hclear loc (List.mem_append_right _ hmade))

theorem at?_of_ensureFolders (d : Disk) (hclear : ∀ loc' ∈ way cwd p, ¬loc <+: loc') :
    (d.ensureFolders cwd p).1.at? loc = d.at? loc :=
  (grows_ensureFolders d cwd p).at?_eq (leavesAlone_ensureFolders loc d cwd p) hclear

theorem at?_of_unlink_beside (h : d.unlink cwd p = .ok d') (hbeside : ¬target cwd p <+: loc)
    (hbeside' : ¬loc <+: target cwd p) : d'.at? loc = d.at? loc := by
  obtain ⟨rfl, -, -⟩ := eq_erase_of_unlink h
  exact Entry.at?_erase_beside hbeside hbeside'

/-! ### Nothing is there -/

theorem isPresent_of_find_error {code : ErrorCode} (h : d.find cwd p = .error code)
    (hcode : code = .noEntry ∨ code = .notFolder) : d.isPresent cwd p = .ok false := by
  unfold isPresent find?
  rw [h]
  dsimp only
  rw [if_pos hcode]
  rfl

/-- The names on the way of a path that has named a place are all short enough. -/
theorem short_of_place (hplace : d.place cwd p = .ok (.named folder name e))
    (hdots : ".." ∉ base cwd p ++ p.parts) :
    p.text.utf8ByteSize ≤ longestPath ∧
      ∀ part ∈ base cwd p ++ p.parts, part.utf8ByteSize ≤ longestName := by
  obtain ⟨hname, -⟩ := name?_of_place hplace
  obtain ⟨s, hwalk, -, hchild⟩ := spot_of_place hplace
  rw [start_bind_follow] at hwalk
  split at hwalk
  · cases hwalk
  · refine ⟨Nat.not_lt.1 ‹_›, fun part hpart => ?_⟩
    have hne : part ≠ ".." := fun heq => hdots (heq ▸ hpart)
    rw [parts_eq_append hname, ← List.append_assoc] at hpart
    rcases List.mem_append.1 hpart with hpart | hpart
    · exact (short_of_follow .root hwalk part hpart).resolve_left hne
    · rw [List.mem_singleton.1 hpart]
      exact (Spot.lookup_of_child? hchild).2

/-- Under a path that has named a place nothing is found once the entry is gone, whatever has
happened to the folders on the way. -/
theorem isPresent_of_gone (hplace : d.place cwd p = .ok (.named folder name e))
    (hdots : ".." ∉ base cwd p ++ p.parts) (hgone : d'.at? (target cwd p) = none) :
    d'.isPresent cwd p = .ok false := by
  obtain ⟨hshort, hnames⟩ := short_of_place hplace hdots
  cases hfind : d'.find cwd p with
  | ok found =>
    rw [at?_target_of_find hfind] at hgone
    cases hgone
  | error code => exact isPresent_of_find_error hfind (code_of_find hshort hnames hfind)

theorem find_of_walk_error {code : ErrorCode} (hname : p.name? = some name)
    (h : (d.start cwd p >>= fun s => s.follow p.parts.dropLast) = .error code) :
    d.find cwd p = .error code := by
  rw [start_bind_follow] at h
  rw [find_eq]
  split
  · rw [if_pos ‹_›] at h
    cases h
    rfl
  · rw [if_neg ‹_›] at h
    rw [parts_eq_append hname, ← List.append_assoc, Spot.follow_append, h]
    rfl

/-- Where a removal finds nothing, nothing is found. -/
theorem isPresent_of_unlink_noEntry (hname : p.name? = some name) (hdots : name ≠ "..")
    (h : d.unlink cwd p = .error .noEntry) : d.isPresent cwd p = .ok false := by
  refine isPresent_of_find_error ?_ (.inl rfl)
  have hplace : d.place cwd p = _ := place_eq hname hdots
  unfold unlink at h
  cases hwalk : d.start cwd p >>= fun s => s.follow p.parts.dropLast with
  | error code =>
    rw [hplace, hwalk] at h
    cases h
    exact find_of_walk_error hname hwalk
  | ok s =>
    rw [hwalk] at hplace
    cases hchild : s.child? name with
    | error code =>
      simp only [hplace, hchild, bind, Except.bind, Except.error.injEq] at h
      exact absurd (h ▸ hchild) Spot.child?_ne_noEntry
    | ok e =>
      simp only [hchild, bind, Except.bind] at hplace
      rw [hplace] at h
      rw [find_eq_of_place hplace]
      cases e with
      | none => rfl
      | some found => cases found <;> cases h

theorem isPresent_of_unlink (h : d.unlink cwd p = .ok d') (hdots : ".." ∉ base cwd p ++ p.parts) :
    d'.isPresent cwd p = .ok false := by
  obtain ⟨rfl, hne, -⟩ := eq_erase_of_unlink h
  unfold unlink at h
  cases hplace : d.place cwd p with
  | error code => rw [hplace] at h; cases h
  | ok place =>
    rw [hplace] at h
    cases place with
    | unnamed => cases h
    | named folder name e => exact isPresent_of_gone hplace hdots (Entry.at?_erase_self hne)

/-- Nothing is left where an entry has been moved from. -/
theorem isPresent_of_rename (h : d.rename cwd p q = .ok d')
    (hdots : ".." ∉ base cwd p ++ p.parts) (hbeside : ¬target cwd p <+: target cwd q)
    (hbeside' : ¬target cwd q <+: target cwd p) : d'.isPresent cwd p = .ok false := by
  obtain ⟨folder, name, found, folder', name', old, hplace, hplace', hmoved⟩ := places_of_rename h
  refine isPresent_of_gone hplace hdots ?_
  rw [(target_of_place hplace).1, (target_of_place hplace').1] at hmoved
  rcases hmoved with ⟨hsame, -⟩ | ⟨-, rfl⟩
  · exact absurd (hsame ▸ List.prefix_rfl) hbeside
  · have hne : target cwd p ≠ [] := fun hnil => hbeside (hnil ▸ List.nil_prefix)
    exact (Entry.at?_put_beside hbeside' hbeside).trans (Entry.at?_erase_self hne)

end Disk

/-! ## Tools that write their output -/

/-- Where the file named after `--output` is. -/
def Call.outputLocation? (call : Call) (host : Host) : Option Location :=
  call.outputPath?.map (Disk.target host.cwd.parts)

/-- A tool writes nothing but the file named after `--output`, for which it makes the folders above
it. A tool that is told of no such file writes nothing. -/
structure Call.WritesOutputOnly (call : Call) (host : Host) (written : List (Path × String)) :
    Prop where
  file : ∀ loc ∈ filesOf host.cwd.parts (host.cwd / call.folder.getD .here) written,
    call.outputLocation? host = some loc
  folder : ∀ loc ∈ foldersOf host.cwd.parts (host.cwd / call.folder.getD .here) written,
    ∃ output ∈ call.outputLocation? host, loc <+: output

instance (call : Call) (host : Host) (written : List (Path × String)) :
    Decidable (call.WritesOutputOnly host written) :=
  decidable_of_iff (_ ∧ _) ⟨fun ⟨hfile, hfolder⟩ => ⟨hfile, hfolder⟩, fun h => ⟨h.file, h.folder⟩⟩

variable {host : Host} {s s' s₁ s₂ s₃ : Session} {t : Target} {l : Layout} {loc : Location}

/-- Between two sessions all stays as it is at a location, and below it, if the tools write nothing
but what they are told. -/
def KeepsWhole (host : Host) (loc : Location) (s s' : Session) : Prop :=
  ∃ events, s'.log = s.log ++ events ∧
    ((∀ r ∈ host.writings (callsOf s.log) (callsOf events), r.1.WritesOutputOnly host r.2) →
      s'.disk.at? loc = s.disk.at? loc)

theorem KeepsWhole.refl (loc : Location) (s : Session) : KeepsWhole host loc s s :=
  ⟨[], (List.append_nil _).symm, fun _ => rfl⟩

theorem KeepsWhole.trans (h : KeepsWhole host loc s₁ s₂) (h' : KeepsWhole host loc s₂ s₃) :
    KeepsWhole host loc s₁ s₃ := by
  obtain ⟨events, hlog, hkept⟩ := h
  obtain ⟨events', hlog', hkept'⟩ := h'
  refine ⟨events ++ events', by rw [hlog', hlog, List.append_assoc], fun hwrites => ?_⟩
  rw [callsOf_append, Host.writings_append, List.forall_mem_append] at hwrites
  rw [hlog, callsOf_append] at hkept'
  exact (hkept' hwrites.2).trans (hkept hwrites.1)

/-- Actions that do nothing at a location or below it: no tool is told to write there, no folder is
made there, nothing on the way there or below it is removed, and nothing is moved. -/
def ClearOf (host : Host) (loc : Location) : Action → Prop
  | .start call => ∀ output, call.outputLocation? host = some output → ¬loc <+: output
  | .ensureFolders p => ∀ loc' ∈ Disk.way host.cwd.parts p, ¬loc <+: loc'
  | .removeFile p =>
    ¬Disk.target host.cwd.parts p <+: loc ∧ ¬loc <+: Disk.target host.cwd.parts p
  | .rename _ _ => False
  | .record _ _ => True

theorem keepsWhole_start {call : Call}
    (hcall : ∀ output, call.outputLocation? host = some output → ¬loc <+: output) (s : Session) :
    KeepsWhole host loc s ((Job.start call).left host s) := by
  refine ⟨[.started call], by rw [left_start], fun hwrites => ?_⟩
  rw [show callsOf [.started call] = [call] from rfl] at hwrites
  rw [left_start]
  obtain ⟨hfile, hfolder⟩ := hwrites (call, writtenOn host (callsOf s.log) call) List.mem_cons_self
  have hclear : ∀ loc' ∈
      filesOf host.cwd.parts (host.cwd / call.folder.getD .here)
          (writtenOn host (callsOf s.log) call) ++
        foldersOf host.cwd.parts (host.cwd / call.folder.getD .here)
          (writtenOn host (callsOf s.log) call),
      ¬loc <+: loc' := by
    intro loc' hloc' hunder
    rcases List.mem_append.1 hloc' with hloc' | hloc'
    · exact hcall loc' (hfile loc' hloc') hunder
    · obtain ⟨output, houtput, habove⟩ := hfolder loc' hloc'
      exact hcall output houtput (hunder.trans habove)
  refine (grows_writeAll _ _ _ _).at?_eq (leavesAlone_writeAll s.disk fun hloc => ?_) hclear
  exact hclear loc (List.mem_append_left _ hloc) List.prefix_rfl

theorem keepsWhole_after {a : Action} (ha : a.IsMessage ∨ ClearOf host loc a) (s : Session) :
    KeepsWhole host loc s (a.after host s) := by
  have hsame {s' : Session} (hlog : s'.log = s.log) (hat : s'.disk.at? loc = s.disk.at? loc) :
      KeepsWhole host loc s s' := ⟨[], by rw [hlog, List.append_nil], fun _ => hat⟩
  cases a with
  | record e h => exact ⟨[e], rfl, fun _ => rfl⟩
  | start call => exact keepsWhole_start (ha.resolve_left id) s
  | ensureFolders p =>
    simp only [Action.after, left_ensureFolders]
    split
    · exact .refl loc s
    · exact hsame rfl (Disk.at?_of_ensureFolders s.disk (ha.resolve_left id))
  | removeFile p =>
    obtain ⟨hbeside, hbeside'⟩ : ClearOf host loc (.removeFile p) := ha.resolve_left id
    simp only [Action.after, left_removeFile]
    split
    · exact .refl loc s
    · split
      · exact hsame rfl (Disk.at?_of_unlink_beside ‹_› hbeside hbeside')
      · exact .refl loc s
  | rename p q => exact (ha.resolve_left id).elim

theorem keepsWhole_of_within {α : Type} {j : Job α} (h : Within (ClearOf host loc) j host s) :
    KeepsWhole host loc s (j.left host s) :=
  h.keeps (KeepsWhole.refl loc) (fun _ _ _ => KeepsWhole.trans) fun _ ha s => keepsWhole_after ha s

/-! ## What is gone -/

/-- What has been removed is not there any more. -/
theorem gone_of_removeFile {p : Path} {name : String} (hname : p.name? = some name)
    (hdots : ".." ∉ Disk.base host.cwd.parts p ++ p.parts)
    (h : (removeFile p).result host s = .ok ()) :
    (isPresent p).result host ((removeFile p).left host s) = .ok false := by
  rw [result_removeFile] at h
  rw [left_removeFile, result_isPresent]
  split at h
  · cases h
  · rename_i hnul
    rw [if_neg hnul, if_neg hnul]
    cases hunlink : s.disk.unlink host.cwd.parts p with
    | ok d =>
      rw [Disk.isPresent_of_unlink hunlink hdots]
      rfl
    | error code =>
      rw [hunlink] at h
      by_cases hcode : code = .noEntry
      · subst hcode
        have hlast : name ≠ ".." := by
          rintro rfl
          exact hdots (List.mem_append_right _ (List.mem_of_getLast? hname))
        rw [Disk.isPresent_of_unlink_noEntry hname hlast hunlink]
        rfl
      · simp [hcode] at h

/-! ## Problems -/

/-- A problem in a sequence does not come from a step that only passes on refusals. -/
theorem Job.Refuses.result_bind_eq_problem {α β : Type} {x : Job α} {k : α → Job β} {p : Problem}
    (hx : Refuses x) (h : (x >>= k).result host s = .error (.problem p)) :
    ∃ a, x.result host s = .ok a ∧ (k a).result host (x.left host s) = .error (.problem p) := by
  cases hresult : x.result host s with
  | ok a => exact ⟨a, rfl, (result_bind_of_ok hresult k).symm.trans h⟩
  | error f =>
    rw [result_bind_of_error hresult] at h
    cases h
    cases hx host s _ hresult

/-- The kind of the problem that a job ends in, if it ends in one. -/
def Job.problemKind? {α : Type} : Except Failure α → Option ProblemKind
  | .error (.problem p) => some p.kind
  | _ => none

theorem Job.exists_of_problemKind? {α : Type} {result : Except Failure α} {kind : ProblemKind}
    (h : problemKind? result = some kind) : ∃ p, result = .error (.problem p) ∧ p.kind = kind := by
  cases result with
  | ok a => cases h
  | error f =>
    cases f with
    | problem p => exact ⟨p, rfl, Option.some.inj h⟩
    | _ => cases h

/-! ## Before the generator is started -/

/-- The kinds of the problems for which nothing is started. -/
def ProblemKind.ofRefusals : List ProblemKind := [.configuration, .fileSystem, .toolchainNotFound]

theorem kind_of_appleSdk {triple : String} {p : Problem} (h : appleSdk triple = .error p) :
    p.kind = .configuration := by
  unfold appleSdk at h
  split at h <;> cases h
  rfl

theorem Ndk.kind_of_locate {root : Path} {p : Problem}
    (h : (locate root).result host s = .error (.problem p)) : p.kind ∈ ProblemKind.ofRefusals := by
  cases hnul : root.hasNul with
  | true =>
    rw [result_locate_of_nul hnul] at h
    cases h
  | false =>
    cases hlist : s.disk.list host.cwd.parts root with
    | error code =>
      rw [result_locate_of_refused hnul hlist] at h
      cases h
      exact List.mem_cons_of_mem _ List.mem_cons_self
    | ok entries =>
      rw [result_locate_of_listed hnul hlist] at h
      cases hchoose : choose? entries with
      | some name => rw [hchoose] at h; cases h
      | none =>
        rw [hchoose] at h
        cases h
        exact List.mem_cons_of_mem _ (List.mem_cons_of_mem _ List.mem_cons_self)

namespace Bindings

variable {root : Path}

/-- The search for the system headers comes to a problem only before it starts anything. -/
theorem sysrootArguments_of_problem {p : Problem}
    (h : (sysrootArguments t l).result host s = .error (.problem p)) :
    (sysrootArguments t l).left host s = s ∧ p.kind ∈ ProblemKind.ofRefusals := by
  cases hplatform : t.platform with
  | ios | macos =>
    have happle : t.platform = .ios ∨ t.platform = .macos := by simp [hplatform]
    cases hsdk : appleSdk t.triple with
    | error p' =>
      rw [sysrootArguments_apple happle, hsdk] at h ⊢
      cases h
      refine ⟨rfl, ?_⟩
      rw [kind_of_appleSdk hsdk]
      decide
    | ok sdk =>
      rw [sysrootArguments_eq happle hsdk] at h
      obtain ⟨answer, -, h⟩ := (refuses_start _).result_bind_eq_problem h
      rw [result_bind_of_ok (result_sysrootOf answer)] at h
      cases h
  | android =>
    cases hhome : t.ndkHome with
    | none =>
      unfold sysrootArguments Target.requireNdkHome at h ⊢
      rw [hplatform, hhome] at h ⊢
      cases h
      exact ⟨rfl, by decide⟩
    | some home =>
      rw [sysrootArguments_android hplatform hhome] at *
      cases hfound : (Ndk.locate (Ndk.prebuiltDir home)).result host s with
      | ok toolchain => rw [result_bind_of_ok hfound] at h; cases h
      | error f =>
        rw [result_bind_of_error hfound] at h
        cases h
        rw [left_bind_of_error hfound, Ndk.left_locate]
        exact ⟨rfl, Ndk.kind_of_locate hfound⟩
  | wasi | windows | linux | other =>
    unfold sysrootArguments at h
    rw [hplatform] at h
    cases h

/-- What keeps the folder for the bindings from being made is no problem. -/
theorem result_makeReady_ne_problem {temporary : Path} {sysroot : List String} (p : Problem) :
    (makeReady t l root temporary sysroot).result host s ≠ .error (.problem p) := by
  intro h
  unfold makeReady announce at h
  obtain ⟨_, -, h⟩ := (refuses_ensureFolders _).result_bind_eq_problem h
  cases h

/-- A generation that comes to a problem before its generator is started has started nothing. -/
theorem getReady_of_problem {p : Problem}
    (h : (getReady t l root).result host s = .error (.problem p)) :
    (getReady t l root).left host s = s ∧ p.kind ∈ ProblemKind.ofRefusals := by
  obtain ⟨temporary, htemporary, -⟩ :=
    (refuses_temporaryPath (outputPath t l)).result_bind_eq_problem h
  rw [result_ofExcept] at htemporary
  rw [getReady_eq htemporary] at h ⊢
  cases hsysroot : (sysrootArguments t l).result host s with
  | error f =>
    rw [result_bind_of_error hsysroot] at h
    rw [left_bind_of_error hsysroot]
    cases h
    exact sysrootArguments_of_problem hsysroot
  | ok sysroot =>
    rw [result_bind_of_ok hsysroot] at h
    exact absurd h (result_makeReady_ne_problem p)

/-! ## After the generator has ended -/

section

variable {temporary : Path} {name : String} {call : Call} {answer : Except SystemError Exit}
  {p : Problem}

/-- What ends in a problem by removing a file leaves none. -/
theorem gone_of_removeFile_fail {α : Type} {path : Path} (hname : path.name? = some name)
    (hdots : ".." ∉ Disk.base host.cwd.parts path ++ path.parts) (p' : Problem)
    (h : (removeFile path >>= fun _ => (Job.fail p' : Job α)).result host s =
      .error (.problem p)) :
    p = p' ∧ (isPresent path).result host
      ((removeFile path >>= fun _ => (Job.fail p' : Job α)).left host s) = .ok false := by
  obtain ⟨_, hremoved, hfail⟩ := (refuses_removeFile path).result_bind_eq_problem h
  cases hfail
  rw [left_bind_of_ok hremoved]
  exact ⟨rfl, gone_of_removeFile hname hdots hremoved⟩

/-- When a generation comes to a problem of its generator, its temporary file is gone. -/
theorem publish_of_problem (hname : temporary.name? = some name)
    (hdots : ".." ∉ Disk.base host.cwd.parts temporary ++ temporary.parts)
    (h : (publish t l temporary call answer).result host s = .error (.problem p)) :
    p.kind = .externalTool ∧
      (isPresent temporary).result host ((publish t l temporary call answer).left host s) =
        .ok false := by
  cases answer with
  | error e =>
    obtain ⟨rfl, hgone⟩ := gone_of_removeFile_fail hname hdots _ h
    exact ⟨rfl, hgone⟩
  | ok exit =>
    by_cases hcode : exit.code = 0
    · rw [publish_eq hcode] at h ⊢
      obtain ⟨present, hpresent, h⟩ := (refuses_isPresent temporary).result_bind_eq_problem h
      rw [left_bind_of_ok hpresent]
      rw [left_isPresent] at h ⊢
      cases present with
      | false =>
        cases h
        exact ⟨rfl, hpresent⟩
      | true =>
        obtain ⟨_, -, h⟩ := (refuses_rename temporary (outputPath t l)).result_bind_eq_problem h
        cases h
    · unfold publish at h ⊢
      simp only [if_pos hcode, fail_bind] at h ⊢
      obtain ⟨rfl, hgone⟩ := gone_of_removeFile_fail hname hdots _ h
      exact ⟨rfl, hgone⟩

end

/-! ## Generations -/

theorem straight_temporary {cwd : Location} {output temporary : Path}
    (h : temporaryPath output = .ok temporary)
    (hdots : ".." ∉ Disk.base cwd output ++ output.parts) :
    ".." ∉ Disk.base cwd temporary ++ temporary.parts := by
  obtain ⟨name, hname, hname', hparent⟩ := of_temporaryPath h
  have hbase : Disk.base cwd temporary = Disk.base cwd output := by
    change Disk.base cwd temporary.parent = Disk.base cwd output.parent
    rw [hparent]
  have hparts : temporary.parts.dropLast = output.parts.dropLast := congrArg Path.parts hparent
  rw [Disk.parts_eq_append hname, ← List.append_assoc, List.mem_append, not_or] at hdots
  rw [hbase, Disk.parts_eq_append hname', hparts, ← List.append_assoc, List.mem_append, not_or]
  exact ⟨hdots.1, by simpa using (append_tmp_ne_dots name).symm⟩

theorem outputLocation?_sdkCall (sdk : String) :
    (sdkCall sdk l.xcrun).outputLocation? host = none := by
  have hpath : (sdkCall sdk l.xcrun).outputPath? = none := by
    unfold Call.outputPath? sdkCall
    by_cases hsdk : sdk = "--output" <;> simp [hsdk]
  rw [Call.outputLocation?, hpath]
  rfl

/-- A generation does nothing at its bindings, or below them, before they take their place. -/
theorem keepsWhole_writeTemporary (s : Session) (root : Path) {temporary : Path}
    (htemporary : temporaryPath (outputPath t l) = .ok temporary)
    (hdots : ".." ∉ Disk.base host.cwd.parts (outputPath t l) ++ (outputPath t l).parts) :
    KeepsWhole host (Disk.target host.cwd.parts (outputPath t l)) s
      ((writeTemporary t l root).left host s) := by
  have hsame {path : Path} (hpath : temporaryPath (outputPath t l) = .ok path) :
      path = temporary := Except.ok.inj (hpath.symm.trans htemporary)
  obtain ⟨hbeside, hbeside'⟩ := beside_temporary htemporary hdots
  refine keepsWhole_of_within (within_writeTemporary ?_ ?_ ?_ ?_)
  · intro sdk output houtput
    rw [outputLocation?_sdkCall] at houtput
    cases houtput
  · intro loc hloc hunder
    obtain ⟨name, houtput, -⟩ := target_temporary htemporary hdots
    have habove := Disk.prefix_target_of_mem_way (Disk.straight_parent hdots) hloc
    have hlength := (hunder.trans habove).length_le
    rw [houtput, List.length_append, List.length_singleton] at hlength
    omega
  · intro path hpath sysroot output houtput
    rw [Call.outputLocation?, outputPath?_generatorCall, hsame hpath] at houtput
    cases houtput
    exact hbeside'
  · intro path hpath
    rw [hsame hpath]
    exact ⟨hbeside, hbeside'⟩

/-- A problem of a generation comes up before anything is started, or its temporary file is gone. -/
theorem generate_of_problem {p : Problem}
    (hdots : ".." ∉ Disk.base host.cwd.parts (outputPath t l) ++ (outputPath t l).parts)
    (h : (generate t l root).result host s = .error (.problem p)) :
    ((generate t l root).left host s = s ∧ p.kind ∈ ProblemKind.ofRefusals) ∨
      p.kind = .externalTool ∧ ∃ temporary, temporaryPath (outputPath t l) = .ok temporary ∧
        (isPresent temporary).result host ((generate t l root).left host s) = .ok false := by
  rw [generate_eq_publish] at h ⊢
  cases hready : (getReady t l root).result host s with
  | error f =>
    rw [result_bind_of_error hready] at h
    rw [left_bind_of_error hready]
    cases h
    exact .inl (getReady_of_problem hready)
  | ok ready =>
    obtain ⟨temporary, call⟩ := ready
    rw [result_bind_of_ok hready] at h
    obtain ⟨answer, hanswer, h⟩ := (refuses_start call).result_bind_eq_problem h
    rw [left_bind_of_ok hready, left_bind_of_ok hanswer]
    have htemporary := (isReady_of_getReady hready).path
    obtain ⟨name, -, hname, -⟩ := of_temporaryPath htemporary
    obtain ⟨hkind, hgone⟩ := publish_of_problem hname (straight_temporary htemporary hdots) h
    exact .inr ⟨hkind, temporary, htemporary, hgone⟩

/-- What a generation of bindings leaves, told by what comes of it. When a tool is to blame for a
problem, there is no temporary file and the bindings are as they were, if there were any; for any
other problem nothing has been started and nothing has changed; and when there are new bindings,
there is no temporary file either. -/
structure IsAtomic (host : Host) (s : Session) (t : Target) (l : Layout) (root : Path) : Prop where
  failed : ∀ p, (generate t l root).result host s = .error (.problem p) →
    p.kind = .externalTool →
      (∃ temporary, temporaryPath (outputPath t l) = .ok temporary ∧
        (isPresent temporary).result host ((generate t l root).left host s) = .ok false) ∧
      ((generate t l root).left host s).disk.at? (Disk.target host.cwd.parts (outputPath t l)) =
        s.disk.at? (Disk.target host.cwd.parts (outputPath t l))
  refused : ∀ p, (generate t l root).result host s = .error (.problem p) →
    p.kind ∈ ProblemKind.ofRefusals →
      callsOf ((generate t l root).events host s) = [] ∧
      ((generate t l root).left host s).disk = s.disk
  done : ∀ path, (generate t l root).result host s = .ok path →
    ∃ temporary, temporaryPath (outputPath t l) = .ok temporary ∧
      (isPresent temporary).result host ((generate t l root).left host s) = .ok false

/-- A generation that fails leaves the bindings of an earlier run as they are, if its tools write
nothing but what they are told. -/
theorem a_failed_generation_keeps_the_bindings (host : Host) (s : Session) (t : Target) (l : Layout)
    (root : Path) (hstraight : ".." ∉ (host.cwd / outputPath t l).parts)
    (htools : ∀ r ∈ host.writings (callsOf s.log) (callsOf ((generate t l root).events host s)),
      r.1.WritesOutputOnly host r.2) :
    IsAtomic host s t l root := by
  rw [Disk.parts_div] at hstraight
  constructor
  · intro p hp hkind
    rcases generate_of_problem hstraight hp with ⟨-, hrefusal⟩ | ⟨-, hgone⟩
    · rw [hkind] at hrefusal
      exact absurd hrefusal (by decide)
    · refine ⟨hgone, ?_⟩
      obtain ⟨temporary, htemporary, -⟩ := hgone
      have hleft := left_generate_of_error hp
      obtain ⟨events, hlog, hkept⟩ := keepsWhole_writeTemporary s root htemporary hstraight
      have hevents : (generate t l root).events host s = events := by
        unfold Job.events
        rw [hleft, hlog, List.drop_left]
      rw [hleft]
      exact hkept (hevents ▸ htools)
  · intro p hp hkind
    rcases generate_of_problem hstraight hp with ⟨hleft, -⟩ | ⟨htool, -⟩
    · unfold Job.events
      rw [hleft, List.drop_length]
      exact ⟨rfl, rfl⟩
    · rw [htool] at hkind
      exact absurd hkind (by decide)
  · intro path hpath
    rw [generate_eq_publish] at hpath ⊢
    obtain ⟨rfl, temporary, call, exit, s₁, s₂, d, e⟩ :=
      exists_ending (fun _ _ => isReady_of_getReady) hpath
    rw [e.publishes.2]
    obtain ⟨hbeside, hbeside'⟩ := beside_temporary e.path hstraight
    have hgone := Disk.isPresent_of_rename e.moved (straight_temporary e.path hstraight) hbeside
      hbeside'
    have hnul := (result_isPresent_eq_ok_true.1 e.present).1
    refine ⟨temporary, e.path, ?_⟩
    rw [result_isPresent, hnul, hgone]
    rfl

/-- A disk with the bindings of an earlier run, and with the temporary file of one that has been
interrupted. -/
def halfDoneDisk : Disk :=
  ⟨.folder [("out", .folder [("bindings.rs", .file "old".toUTF8),
    ("bindings.rs.tmp", .file "new".toUTF8)])]⟩

/-- A generator that writes half of its file and gives up leaves the old bindings and no temporary
file. -/
theorem old_bindings_outlive_a_broken_generator :
    let job := generate linuxTarget .default (.ofString "/include")
    let last := job.left Pipeline.brokenGenerator { disk := halfDoneDisk }
    (∃ p, job.result Pipeline.brokenGenerator { disk := halfDoneDisk } = .error (.problem p) ∧
        p.kind = .externalTool) ∧
      (isPresent (.ofString "/out/bindings.rs.tmp")).result Pipeline.brokenGenerator last =
        .ok false ∧
      last.disk.at? ["out", "bindings.rs"] = some (.file "old".toUTF8) := by
  intro job last
  have hatomic : IsAtomic Pipeline.brokenGenerator { disk := halfDoneDisk } linuxTarget .default
      (.ofString "/include") :=
    a_failed_generation_keeps_the_bindings Pipeline.brokenGenerator { disk := halfDoneDisk }
      linuxTarget .default (.ofString "/include") (by decide) (by decide +kernel)
  obtain ⟨p, hp, hkind⟩ : ∃ p, job.result Pipeline.brokenGenerator { disk := halfDoneDisk } =
      .error (.problem p) ∧ p.kind = .externalTool := exists_of_problemKind? (by decide +kernel)
  obtain ⟨⟨temporary, htemporary, hgone⟩, hkept⟩ := hatomic.failed p hp hkind
  have hpath : temporaryPath (outputPath linuxTarget .default) =
      .ok (.ofString "/out/bindings.rs.tmp") := eq_ok_of_toOption (by decide +kernel)
  obtain rfl := Except.ok.inj (hpath.symm.trans htemporary)
  exact ⟨⟨p, hp, hkind⟩, hgone, hkept.trans rfl⟩

end Bindings

end CrossBuild
