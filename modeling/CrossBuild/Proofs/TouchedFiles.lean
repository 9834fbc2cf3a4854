-- What a run touches. Besides the bindings and the temporary file a run makes the folder
-- of its build and those on the way there, and all else that happens to a disk is done by
-- tools, with one exception: a folder at the temporary path becomes the bindings.
import CrossBuild.Proofs.UntouchedFiles

namespace CrossBuild

open Job

/-! ## The disk -/

namespace Disk

variable {d d' d'' : Disk} {cwd loc : Location} {p q : Path} {e : Entry}
  {own written written' made made' : Location → Prop}

/-- A disk changes only where it may: a file that is neither at a location of one's own nor written
is the same as before or is missing as before, a folder is gone only from a location of one's own,
and a folder comes up only where one is made. -/
structure ChangesWithin (own written made : Location → Prop) (d d' : Disk) : Prop where
  file : ∀ loc, ¬own loc → ¬written loc → ∀ content,
    d'.at? loc = some (.file content) ↔ d.at? loc = some (.file content)
  folder : ∀ loc, ¬own loc → d.HoldsFolder loc → d'.HoldsFolder loc
  newFolder : ∀ loc, d'.HoldsFolder loc → d.HoldsFolder loc ∨ made loc

namespace ChangesWithin

theorem refl (d : Disk) : ChangesWithin own written made d d where
  file _ _ _ _ := Iff.rfl
  folder _ _ h := h
  newFolder _ h := Or.inl h

theorem trans (h : ChangesWithin own written made d d')
    (h' : ChangesWithin own written made d' d'') : ChangesWithin own written made d d'' where
  file loc hown hwritten content :=
    (h'.file loc hown hwritten content).trans (h.file loc hown hwritten content)
  folder loc hown hloc := h'.folder loc hown (h.folder loc hown hloc)
  newFolder loc hloc := (h'.newFolder loc hloc).elim (h.newFolder loc) Or.inr

theorem mono (h : ChangesWithin own written made d d')
    (hwritten : ∀ loc, written loc → written' loc) (hmade : ∀ loc, made loc → made' loc) :
    ChangesWithin own written' made' d d' where
  file loc hown hloc := h.file loc hown fun h => hloc (hwritten loc h)
  folder := h.folder
  newFolder loc hloc := (h.newFolder loc hloc).imp_right (hmade loc)

end ChangesWithin

/-- What only grows changes where it grows. -/
theorem Grows.changesWithin {files folders : List Location} (h : Grows files folders d d')
    (hfiles : ∀ loc, loc ∉ files → LeavesAlone loc d d') (hwritten : ∀ loc ∈ files, written loc)
    (hmade : ∀ loc ∈ folders, made loc) : ChangesWithin own written made d d' where
  file loc _ hloc content := by
    have halone := hfiles loc fun hmem => hloc (hwritten loc hmem)
    exact ⟨halone.at?_of_at?, halone.file content⟩
  folder loc _ := fun ⟨children, hloc⟩ => h.folders loc children hloc
  newFolder loc hloc := (h.newFolder loc hloc).imp_right (hmade loc)

theorem changesWithin_ensureFolders (d : Disk) (hmade : ∀ loc ∈ way cwd p, made loc) :
    ChangesWithin own written made d (d.ensureFolders cwd p).1 :=
  (grows_ensureFolders d cwd p).changesWithin
    (fun loc _ => leavesAlone_ensureFolders loc d cwd p) nofun hmade

/-- Erasing an entry changes only what is at its location and below. -/
theorem changesWithin_erase (hat : d.at? loc = some e) (hne : loc ≠ [])
    (hown : ∀ loc', loc <+: loc' → own loc') : ChangesWithin own written made d (d.erase loc) where
  file loc' hloc' _ content := by
    have hbelow : ¬loc <+: loc' := fun h => hloc' (hown loc' h)
    refine ⟨Entry.at?_erase, fun hfile => ?_⟩
    refine (Entry.at?_erase_beside hbelow ?_).trans hfile
    refine Entry.not_prefix_of_not_folder ?_ hat ?_
    · rw [show d.root.at? loc' = _ from hfile]
      nofun
    · rintro rfl
      exact hbelow List.prefix_rfl
  folder loc' hloc' := fun ⟨children, hfolder⟩ =>
    Entry.folder_of_erase hfolder fun h => hloc' (hown loc' h)
  newFolder loc' := by
    rintro ⟨children, hfolder⟩
    refine Or.inl ?_
    by_cases hbelow : loc <+: loc'
    · obtain ⟨rest, rfl⟩ := hbelow
      rw [at?, erase, Entry.at?_append, Entry.at?_erase_self hne] at hfolder
      cases hfolder
    · by_cases habove : loc' <+: loc
      · obtain ⟨rest, rfl⟩ := habove
        cases rest with
        | nil => exact absurd (by simp) hbelow
        | cons name rest => exact Entry.folder_of_at?_append hat
      · exact ⟨children, (Entry.at?_erase_beside hbelow habove).symm.trans hfolder⟩

/-- Putting an entry into a folder changes only what is at its location and below. -/
theorem changesWithin_put {folder : Location} {name : String} {children : List (String × Entry)}
    (hat : d.at? folder = some (.folder children)) (new : Entry)
    (hown : ∀ loc, folder ++ [name] <+: loc → own loc)
    (hmade : ∀ loc, folder ++ [name] <+: loc → made loc) :
    ChangesWithin own written made d (d.put (folder ++ [name]) new) where
  file loc hloc _ content := by
    have hbelow : ¬folder ++ [name] <+: loc := fun h => hloc (hown loc h)
    refine ⟨fun hfile => ?_, fun hfile => Entry.file_of_put hfile hat hbelow⟩
    rcases Entry.at?_put hfile with hold | ⟨rest, rfl, -⟩
    · exact hold
    · exact absurd (List.prefix_append _ _) hbelow
  folder loc hloc := fun ⟨children, hfolder⟩ =>
    Entry.folder_of_put hfolder fun h => hloc (hown loc h)
  newFolder loc := by
    rintro ⟨children', hfolder⟩
    by_cases hbelow : folder ++ [name] <+: loc
    · exact Or.inr (hmade loc hbelow)
    · refine Or.inl ?_
      by_cases habove : loc <+: folder ++ [name]
      · rcases List.prefix_concat_iff.1 habove with rfl | habove
        · exact absurd List.prefix_rfl hbelow
        · exact HoldsFolder.of_prefix ⟨children, hat⟩ habove
      · exact ⟨children', (Entry.at?_put_beside hbelow habove).symm.trans hfolder⟩

theorem changesWithin_unlink (h : d.unlink cwd p = .ok d')
    (hown : ∀ loc, target cwd p <+: loc → own loc) : ChangesWithin own written made d d' := by
  obtain ⟨rfl, hne, content, hat⟩ := eq_erase_of_unlink h
  exact changesWithin_erase hat hne hown

/-- A move, be it of a file or of a folder, changes only what is at its two locations and below. -/
theorem changesWithin_rename (h : d.rename cwd p q = .ok d')
    (hbeside : ¬target cwd p <+: target cwd q) (hp : ∀ loc, target cwd p <+: loc → own loc)
    (hq : ∀ loc, target cwd q <+: loc → own loc) (hmade : ∀ loc, target cwd q <+: loc → made loc) :
    ChangesWithin own written made d d' := by
  obtain ⟨folder, name, e, folder', name', old, hplace, hplace', hmoved⟩ := places_of_rename h
  obtain ⟨htarget, hat⟩ := target_of_place hplace
  obtain ⟨htarget', -⟩ := target_of_place hplace'
  rcases hmoved with ⟨-, rfl⟩ | ⟨-, rfl⟩
  · exact .refl d'
  · obtain ⟨children, hfolder⟩ := folder_of_place hplace'
    rw [htarget]
    rw [← htarget'] at hbeside hq hmade
    have hkept : (d.erase (target cwd p)).HoldsFolder folder' :=
      Entry.folder_of_erase hfolder fun hunder => hbeside (hunder.trans (List.prefix_append _ _))
    obtain ⟨children', hfolder'⟩ := hkept
    have hne : target cwd p ≠ [] := by simp [← htarget]
    exact (changesWithin_erase hat hne hp).trans (changesWithin_put hfolder' e hq hmade)

end Disk

/-! ## What tools do -/

namespace Host

variable {host : Host} {earlier calls calls' : List Call} {loc : Location}

/-- The calls, each with the files that its tool writes. -/
def writings (host : Host) : List Call → List Call → List (Call × List (Path × String))
  | _, [] => []
  | earlier, call :: rest =>
    (call, Job.writtenOn host earlier call) :: writings host (earlier ++ [call]) rest

/-- The locations of the files that the tools of the calls write. -/
def filesWritten (host : Host) (earlier calls : List Call) : List Location :=
  (host.writings earlier calls).flatMap fun (call, written) =>
    filesOf host.cwd.parts (host.cwd / call.folder.getD .here) written

/-- The locations of the folders that the tools of the calls need for their files. -/
def foldersNeeded (host : Host) (earlier calls : List Call) : List Location :=
  (host.writings earlier calls).flatMap fun (call, written) =>
    foldersOf host.cwd.parts (host.cwd / call.folder.getD .here) written

theorem writings_append (host : Host) (earlier calls calls' : List Call) :
    host.writings earlier (calls ++ calls') =
      host.writings earlier calls ++ host.writings (earlier ++ calls) calls' := by
  induction calls generalizing earlier with
  | nil => simp [writings]
  | cons call rest ih =>
    rw [List.cons_append, writings, writings, ih, List.append_assoc, List.singleton_append]
    rfl

theorem filesWritten_append (host : Host) (earlier calls calls' : List Call) :
    host.filesWritten earlier (calls ++ calls') =
      host.filesWritten earlier calls ++ host.filesWritten (earlier ++ calls) calls' := by
  rw [filesWritten, writings_append, List.flatMap_append]
  rfl

theorem foldersNeeded_append (host : Host) (earlier calls calls' : List Call) :
    host.foldersNeeded earlier (calls ++ calls') =
      host.foldersNeeded earlier calls ++ host.foldersNeeded (earlier ++ calls) calls' := by
  rw [foldersNeeded, writings_append, List.flatMap_append]
  rfl

end Host

/-! ## What actions touch -/

variable {host : Host} {s s' s₁ s₂ s₃ : Session} {t : Target} {l : Layout} {loc : Location}
  {own made made' : Location → Prop}

/-- Between two sessions the disk changes only at the locations of one's own and where folders are
made, tools apart. -/
def Touches (host : Host) (own made : Location → Prop) (s s' : Session) : Prop :=
  ∃ events, s'.log = s.log ++ events ∧
    s.disk.ChangesWithin own (· ∈ host.filesWritten (callsOf s.log) (callsOf events))
      (fun loc => made loc ∨ loc ∈ host.foldersNeeded (callsOf s.log) (callsOf events)) s'.disk

theorem Touches.of_disk (hlog : s'.log = s.log)
    (h : s.disk.ChangesWithin own (fun _ => False) made s'.disk) : Touches host own made s s' :=
  ⟨[], by rw [hlog, List.append_nil], h.mono (fun _ => False.elim) fun _ => Or.inl⟩

theorem Touches.refl (s : Session) : Touches host own made s s := .of_disk rfl (.refl _)

theorem Touches.trans (h : Touches host own made s₁ s₂) (h' : Touches host own made s₂ s₃) :
    Touches host own made s₁ s₃ := by
  obtain ⟨events, hlog, hchanges⟩ := h
  obtain ⟨events', hlog', hchanges'⟩ := h'
  refine ⟨events ++ events', by rw [hlog', hlog, List.append_assoc], ?_⟩
  rw [hlog, callsOf_append] at hchanges'
  rw [callsOf_append, Host.filesWritten_append, Host.foldersNeeded_append]
  refine (hchanges.mono ?_ ?_).trans (hchanges'.mono ?_ ?_)
  · exact fun _ => List.mem_append_left _
  · exact fun _ h => h.imp_right (List.mem_append_left _)
  · exact fun _ => List.mem_append_right _
  · exact fun _ h => h.imp_right (List.mem_append_right _)

theorem Touches.mono (h : Touches host own made s s') (hmade : ∀ loc, made loc → made' loc) :
    Touches host own made' s s' := by
  obtain ⟨events, hlog, hchanges⟩ := h
  exact ⟨events, hlog, hchanges.mono (fun _ h => h) fun loc h => h.imp_left (hmade loc)⟩

/-- Actions that remove only what is one's own, make only folders that are to be made, and move
nothing. -/
def KeepsTo (host : Host) (own made : Location → Prop) : Action → Prop
  | .ensureFolders p => ∀ loc ∈ Disk.way host.cwd.parts p, made loc
  | .removeFile p => ∀ loc, Disk.target host.cwd.parts p <+: loc → own loc
  | .rename _ _ => False
  | _ => True

/-- A tool touches what it writes and the folders that it needs. -/
theorem touches_start (s : Session) (call : Call) :
    Touches host own made s ((Job.start call).left host s) := by
  refine ⟨[.started call], by rw [left_start], ?_⟩
  rw [left_start, show callsOf [.started call] = [call] from rfl]
  have hgrows := grows_writeAll host.cwd.parts (host.cwd / call.folder.getD .here)
    (writtenOn host (callsOf s.log) call) s.disk
  refine hgrows.changesWithin (fun loc hloc => leavesAlone_writeAll s.disk hloc)
    (fun loc hloc => ?_) fun loc hloc => Or.inr ?_
  · simpa [Host.filesWritten, Host.writings] using hloc
  · simpa [Host.foldersNeeded, Host.writings] using hloc

theorem touches_after {a : Action} (ha : a.IsMessage ∨ KeepsTo host own made a) (s : Session) :
    Touches host own made s (a.after host s) := by
  cases a with
  | record e h => exact ⟨[e], rfl, .refl s.disk⟩
  | start call => exact touches_start s call
  | ensureFolders p =>
    have hway : ∀ loc ∈ Disk.way host.cwd.parts p, made loc := ha.resolve_left id
    simp only [Action.after, left_ensureFolders]
    split
    · exact .refl s
    · exact .of_disk rfl (Disk.changesWithin_ensureFolders s.disk hway)
  | removeFile p =>
    have hown : ∀ loc, Disk.target host.cwd.parts p <+: loc → own loc := ha.resolve_left id
    simp only [Action.after, left_removeFile]
    split
    · exact .refl s
    · split
      · exact .of_disk rfl (Disk.changesWithin_unlink ‹_› hown)
      · exact .refl s
  | rename p q => exact (ha.resolve_left id).elim

theorem touches_of_within {α : Type} {j : Job α} (h : Within (KeepsTo host own made) j host s) :
    Touches host own made s (j.left host s) :=
  h.keeps Touches.refl (fun _ _ _ => Touches.trans) fun _ ha s => touches_after ha s

/-- A move touches its two places. -/
theorem touches_rename {p q : Path}
    (hbeside : ¬Disk.target host.cwd.parts p <+: Disk.target host.cwd.parts q)
    (hp : ∀ loc, Disk.target host.cwd.parts p <+: loc → own loc)
    (hq : ∀ loc, Disk.target host.cwd.parts q <+: loc → own loc)
    (hmade : ∀ loc, Disk.target host.cwd.parts q <+: loc → made loc) :
    Touches host own made s ((Job.rename p q).left host s) := by
  rw [left_rename]
  split
  · exact .refl s
  · split
    · exact .of_disk rfl (Disk.changesWithin_rename ‹_› hbeside hp hq hmade)
    · exact .refl s

/-! ## A run -/

/-- A removal that succeeds has found no folder. -/
theorem not_holdsFolder_of_removeFile {p : Path} {name : String} (hname : p.name? = some name)
    (hdots : ".." ∉ Disk.base host.cwd.parts p ++ p.parts)
    (h : (removeFile p).result host s = .ok ())
    (hbelow : Disk.target host.cwd.parts p <+: loc) : ¬s.disk.HoldsFolder loc := by
  intro hfolder
  obtain ⟨children, hat⟩ := hfolder.of_prefix hbelow
  rw [result_removeFile] at h
  split at h
  · cases h
  · cases hunlink : s.disk.unlink host.cwd.parts p with
    | ok d => exact (Disk.eq_erase_of_unlink hunlink).2.2.not_holdsFolder ⟨children, hat⟩
    | error code =>
      rw [hunlink] at h
      by_cases hcode : code = .noEntry
      · rw [Disk.at?_of_unlink hname hdots (hcode ▸ hunlink)] at hat
        cases hat
      · simp [hcode] at h

namespace Pipeline

open Bindings

/-- A location is one of the outputs of a run: it is at or below the bindings or the temporary
file. -/
def IsOutput (host : Host) (t : Target) (l : Layout) (loc : Location) : Prop :=
  ∃ root ∈ locations host t l, root <+: loc

/-- The folder of the build and those on the way there. -/
def IsBuildFolder (host : Host) (t : Target) (loc : Location) : Prop :=
  loc <+: Disk.target host.cwd.parts (CMake.buildDir t.outDir)

/-- The calls of a run. -/
def callsOfRun (host : Host) (s : Session) (t : Target) (l : Layout) : List Call :=
  callsOf ((run t l).events host s)

/-- A folder may come up in a run if it is one of the build or one that a tool needs. -/
def MayComeUp (host : Host) (s : Session) (t : Target) (l : Layout) (loc : Location) : Prop :=
  IsBuildFolder host t loc ∨
    loc ∈ host.foldersNeeded (callsOf s.log) (callsOfRun host s t l)

instance (host : Host) (s : Session) (t : Target) (l : Layout) (loc : Location) :
    Decidable (MayComeUp host s t l loc) :=
  inferInstanceAs (Decidable (_ <+: _ ∨ _))

/-- A run changes the disk only at its outputs and by its tools, and makes only the folders of its
build. -/
def TouchesItsOutputsOnly (host : Host) (s : Session) (t : Target) (l : Layout) : Prop :=
  s.disk.ChangesWithin (IsOutput host t l)
    (· ∈ host.filesWritten (callsOf s.log) (callsOfRun host s t l)) (MayComeUp host s t l)
    ((run t l).left host s).disk

/-- The bindings that a run gives are no folder, and none is below them, but for those that may
come up. -/
def PublishesNoFolder (host : Host) (s : Session) (t : Target) (l : Layout) : Prop :=
  ∀ path loc, (run t l).result host s = .ok path → Disk.target host.cwd.parts path <+: loc →
    ((run t l).left host s).disk.HoldsFolder loc → MayComeUp host s t l loc

/-! ### Before the bindings take their place -/

/-- The part of a run before the bindings take their place. -/
def untilMove (t : Target) (l : Layout) : Job Path := do
  Job.removeFile (outputPath t l)
  untilBindings t l
  writeTemporary t l (Bindings.headerRoot t (Native.sourceDir t l))

theorem run_eq_untilMove :
    run t l = untilMove t l >>= fun temporary =>
      Job.rename temporary (outputPath t l) >>= fun _ => pure (outputPath t l) := by
  rw [run_eq_removeFile]
  simp only [untilMove, bind_assoc, generate_eq]

theorem temporaryPath_of_untilMove {temporary : Path}
    (h : (untilMove t l).result host s = .ok temporary) :
    temporaryPath (outputPath t l) = .ok temporary := by
  unfold untilMove writeTemporary at h
  obtain ⟨_, -, h⟩ := result_bind_eq_ok.1 h
  obtain ⟨_, -, h⟩ := result_bind_eq_ok.1 h
  obtain ⟨path, hpath, h⟩ := result_bind_eq_ok.1 h
  rw [result_ofExcept] at hpath
  obtain ⟨call, -, h⟩ := result_bind_eq_ok.1 h
  obtain ⟨_, -, h⟩ := result_bind_eq_ok.1 h
  obtain ⟨_, -, h⟩ := result_bind_eq_ok.1 h
  obtain ⟨_, -, h⟩ := result_bind_eq_ok.1 h
  obtain ⟨answer, -, h⟩ := result_bind_eq_ok.1 h
  cases answer with
  | error e =>
    obtain ⟨f, hf⟩ := exists_result_bind_fail (Job.removeFile path) _
    rw [hf] at h
    cases h
  | ok exit =>
    dsimp only at h
    split at h
    · simp only [fail_bind] at h
      obtain ⟨f, hf⟩ := exists_result_bind_fail (Job.removeFile path) _
      rw [hf] at h
      cases h
    · obtain ⟨present, -, h⟩ := result_bind_eq_ok.1 h
      cases present with
      | false => cases h
      | true =>
        cases h
        exact hpath

theorem isOutput_of_outputPath (hname : isPathPart l.bindingsFile = true)
    (hplain : l.bindingsFile ≠ "..")
    (hloc : Disk.target host.cwd.parts (outputPath t l) <+: loc) : IsOutput host t l loc := by
  rw [outputPath, Disk.target_div_part hname hplain] at hloc
  exact ⟨_, List.mem_cons_self, hloc⟩

section

variable (hname : isPathPart l.bindingsFile = true) (hplain : l.bindingsFile ≠ "..")
  (hstraight : ".." ∉ Disk.base host.cwd.parts t.outDir ++ t.outDir.parts)

include hstraight

theorem isBuildFolder_of_mem_way (hloc : loc ∈ Disk.way host.cwd.parts (CMake.buildDir t.outDir)) :
    IsBuildFolder host t loc :=
  Disk.prefix_target_of_mem_way (Disk.straight_div_part (by decide) (by decide) hstraight) hloc

include hname

theorem isBuildFolder_of_mem_way_parent
    (hloc : loc ∈ Disk.way host.cwd.parts (outputPath t l).parent) : IsBuildFolder host t loc := by
  rw [outputPath, Path.parent_div hname] at hloc
  refine (Disk.prefix_target_of_mem_way hstraight hloc).trans ?_
  rw [CMake.buildDir, Disk.target_div_part (by decide) (by decide)]
  exact List.prefix_append _ _

include hplain

theorem isOutput_of_temporaryPath {temporary : Path}
    (htemporary : temporaryPath (outputPath t l) = .ok temporary)
    (hloc : Disk.target host.cwd.parts temporary <+: loc) : IsOutput host t l loc := by
  rw [target_temporary_outputPath htemporary hname hplain hstraight] at hloc
  exact ⟨_, List.mem_cons_of_mem _ List.mem_cons_self, hloc⟩

theorem keepsTo_untilMove :
    Within (KeepsTo host (IsOutput host t l) (IsBuildFolder host t)) (untilMove t l) host s := by
  refine Within.bind (within_removeFile fun loc => ?_) fun _ _ => ?_
  · exact isOutput_of_outputPath hname hplain
  refine Within.bind (within_untilBindings (fun _ => trivial) fun s => ?_) fun _ _ => ?_
  · refine within_link (fun _ => trivial) trivial (fun _ => trivial) (fun c s _ => ?_)
      (fun _ _ _ => trivial) trivial
    refine Native.within_buildWith (fun loc => ?_) (fun _ => trivial) fun _ _ => trivial
    exact isBuildFolder_of_mem_way hstraight
  · refine within_writeTemporary (fun _ => trivial) (fun loc => ?_) (fun _ _ _ => trivial)
      fun temporary htemporary loc => ?_
    · exact isBuildFolder_of_mem_way_parent hname hstraight
    · exact isOutput_of_temporaryPath hname hplain hstraight htemporary

/-! ### The move -/

/-- A run touches its outputs and the folders of its build, and one that gives bindings may also
make folders at their place. -/
theorem touches_run (s : Session) :
    Touches host (IsOutput host t l)
      (fun loc => IsBuildFolder host t loc ∨
        ∃ path, (run t l).result host s = .ok path ∧ Disk.target host.cwd.parts path <+: loc)
      s ((run t l).left host s) := by
  have huntil : Touches host (IsOutput host t l) (IsBuildFolder host t) s
      ((untilMove t l).left host s) :=
    touches_of_within (keepsTo_untilMove hname hplain hstraight)
  rw [run_eq_untilMove]
  cases htemporary : (untilMove t l).result host s with
  | error f =>
    rw [left_bind_of_error htemporary]
    exact huntil.mono fun _ => Or.inl
  | ok temporary =>
    rw [left_bind_of_ok htemporary, result_bind_of_ok htemporary]
    have hpath := temporaryPath_of_untilMove htemporary
    cases hmoved : (Job.rename temporary (outputPath t l)).result host
        ((untilMove t l).left host s) with
    | error f =>
      rw [left_bind_of_error hmoved, left_rename_of_error hmoved]
      exact huntil.mono fun _ => Or.inl
    | ok u =>
      rw [left_bind_of_ok hmoved, result_bind_of_ok hmoved]
      refine (huntil.mono fun _ => Or.inl).trans (touches_rename ?_ (fun loc => ?_) (fun loc => ?_)
        fun loc hloc => Or.inr ⟨_, rfl, hloc⟩)
      · exact (beside_temporary hpath (Disk.straight_div_part hname hplain hstraight)).1
      · exact isOutput_of_temporaryPath hname hplain hstraight hpath
      · exact isOutput_of_outputPath hname hplain

end

/-! ### The run as a whole -/

/-- A run touches nothing but its outputs, whatever comes of it, if and only if it does not publish
a folder: a temporary path that leads to a folder, which a run before it or a tool has left, takes
the place of the bindings as it is. -/
theorem a_run_touches_its_outputs_only_iff (host : Host) (s : Session) (t : Target) (l : Layout)
    (hname : isPathPart l.bindingsFile = true) (hplain : l.bindingsFile ≠ "..")
    (hfolder : ".." ∉ (host.cwd / t.outDir).parts) :
    TouchesItsOutputsOnly host s t l ↔ PublishesNoFolder host s t l := by
  have hstraight : ".." ∉ Disk.base host.cwd.parts t.outDir ++ t.outDir.parts := by
    rwa [← Disk.parts_div]
  constructor
  · intro htouches path loc hpath hbelow hloc
    obtain ⟨hremoved, rfl, -⟩ := exists_ending hpath
    refine (htouches.newFolder loc hloc).resolve_left ?_
    exact not_holdsFolder_of_removeFile (Path.name?_div hname)
      (Disk.straight_div_part hname hplain hstraight) hremoved hbelow
  · intro hpublishes
    obtain ⟨events, hlog, hchanges⟩ := touches_run hname hplain hstraight s
    have hevents : (run t l).events host s = events := by
      unfold Job.events
      rw [hlog, List.drop_left]
    unfold TouchesItsOutputsOnly callsOfRun
    rw [hevents]
    refine ⟨hchanges.file, hchanges.folder, fun loc hloc => ?_⟩
    rcases hchanges.newFolder loc hloc with hold | (hbuild | ⟨path, hpath, hbelow⟩) | htool
    · exact Or.inl hold
    · exact Or.inr (Or.inl hbuild)
    · exact Or.inr (hpublishes path loc hpath hbelow hloc)
    · exact Or.inr (Or.inr (by rwa [callsOfRun, hevents]))

/-- A run that publishes a file publishes no folder. -/
theorem publishesNoFolder_of_holdsFile
    (h : ∀ path, (run t l).result host s = .ok path →
      ((run t l).left host s).disk.HoldsFile (Disk.target host.cwd.parts path)) :
    PublishesNoFolder host s t l := fun path _ hpath hbelow hloc =>
  absurd (hloc.of_prefix hbelow) (h path hpath).not_holdsFolder

/-- A run whose generator writes its file touches nothing else. -/
theorem a_usual_run_touches_its_outputs_only :
    TouchesItsOutputsOnly wellEquipped { disk := .empty } linuxTarget .default := by
  refine (a_run_touches_its_outputs_only_iff wellEquipped { disk := .empty } linuxTarget .default
    (by decide) (by decide) (by decide)).2 (publishesNoFolder_of_holdsFile fun path hpath => ?_)
  obtain ⟨-, rfl, -⟩ := exists_ending hpath
  decide +kernel

/-- The folder is published as the bindings if the generator writes nothing. -/
theorem a_folder_is_published :
    ¬TouchesItsOutputsOnly silentTools { disk := cloggedDisk } linuxTarget .default := by
  intro h
  have hfolder : ((run linuxTarget .default).left silentTools
      { disk := cloggedDisk }).disk.HoldsFolder ["out", "bindings.rs"] := by decide +kernel
  rcases h.newFolder _ hfolder with hold | hmay
  · exact absurd hold (by decide)
  · exact absurd hmay (by decide +kernel)

end Pipeline

end CrossBuild
