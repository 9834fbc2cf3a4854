-- Doing a step of a run again. A step that has gone well goes the same way on every
-- disk that still has what the run has left: folders that it makes are there, a tool
-- that could write its files can write them again, and one that could not still cannot.
import CrossBuild.Proofs.FreshBindings
import CrossBuild.Proofs.KeptDisks
import CrossBuild.Proofs.SourceTrees
import CrossBuild.Proofs.StepScripts

namespace CrossBuild

open Job

/-! ## Effects that are there each time -/

/-- What is told before the sources are fetched. -/
def Source.fetchWarning : Directive := .warning "fetching boringssl git submodule"

namespace Event

/-- Effects that have nothing to do with fetching the sources. -/
def isLasting : Event → Bool
  | started call => !call.isFetch
  | emitted d => d ≠ Source.fetchWarning
  | _ => false

end Event

/-- The effects of a run but those of fetching the sources, in order. -/
def lastingOf (log : List Event) : List Event := log.filter Event.isLasting

theorem lastingOf_append (l l' : List Event) : lastingOf (l ++ l') = lastingOf l ++ lastingOf l' :=
  List.filter_append ..

theorem lastingOf_effectsOf (log : List Event) : lastingOf (effectsOf log) = lastingOf log := by
  unfold lastingOf effectsOf
  rw [List.filter_filter]
  congr 1
  funext e
  cases e <;> simp [Event.isLasting, Event.isEffect]

theorem lastingOf_eq_nil {log : List Event} (h : effectsOf log = []) : lastingOf log = [] := by
  rw [← lastingOf_effectsOf, h]
  rfl

theorem callsOf_lastingOf (log : List Event) :
    callsOf (lastingOf log) = (callsOf log).filter fun call => !call.isFetch := by
  rw [callsOf_eq, callsOf_eq, lastingOf, List.filterMap_filter, List.filter_filterMap]
  congr 1
  funext e
  cases e with
  | started call =>
    cases hfetch : call.isFetch <;>
      simp [Event.call?, Event.isLasting, Option.filter, hfetch]
  | emitted d => simp [Event.call?]
  | _ => rfl

theorem directivesOf_lastingOf (log : List Event) :
    directivesOf (lastingOf log) = (directivesOf log).filter (· ≠ Source.fetchWarning) := by
  rw [directivesOf_eq, directivesOf_eq, lastingOf, List.filterMap_filter, List.filter_filterMap]
  congr 1
  funext e
  cases e with
  | emitted d =>
    by_cases hd : d = Source.fetchWarning <;>
      simp [Event.directive?, Event.isLasting, Option.filter, hd]
  | started call => simp [Event.directive?]
  | _ => rfl

/-! ## Writing again -/

/-- The locations on the ways of the files that a tool writes from a folder. -/
def waysOf (cwd : Location) (base : Path) (written : List (Path × String)) : List Location :=
  written.flatMap fun w => Disk.way cwd (base / w.1)

/-- The locations of the files that a tool writes from a folder. -/
def filesOf (cwd : Location) (base : Path) (written : List (Path × String)) : List Location :=
  written.map fun w => Disk.target cwd (base / w.1)

/-- The locations on the ways of the folders that are needed for these files. -/
def foldersOf (cwd : Location) (base : Path) (written : List (Path × String)) : List Location :=
  written.flatMap fun w => Disk.way cwd (base / w.1).parent

/-- The locations that a tool comes through and writes to when it is started. -/
def Call.touched (call : Call) (host : Host) : List Location :=
  waysOf host.cwd.parts (host.cwd / call.folder.getD .here) (Job.writtenOn host [] call)

/-- The locations of the files that a tool writes when it is started. -/
def Call.files (call : Call) (host : Host) : List Location :=
  filesOf host.cwd.parts (host.cwd / call.folder.getD .here) (Job.writtenOn host [] call)

/-- The locations on the ways of the folders that it needs for its files. -/
def Call.folders (call : Call) (host : Host) : List Location :=
  foldersOf host.cwd.parts (host.cwd / call.folder.getD .here) (Job.writtenOn host [] call)

/-- A tool that writes a text to the file named after `--output` writes a file there. -/
theorem Call.target_mem_files {call : Call} {host : Host} {exit : Exit} {output : Path}
    {text : String} (houtput : call.outputPath? = some output)
    (hwritten : Job.writtenOn host [] call = exit.written)
    (htext : call.outputText? host exit = some text) :
    Disk.target host.cwd.parts output ∈ call.files host := by
  rw [Bindings.outputText?_eq houtput] at htext
  obtain ⟨w, hw, -⟩ := Option.map_eq_some_iff.1 htext
  obtain ⟨hmem, htarget⟩ := List.mem_filter.1 (List.mem_of_getLast? hw)
  rw [Call.files, hwritten, ← of_decide_eq_true htarget]
  exact List.mem_map.2 ⟨w, hmem, rfl⟩

namespace Job

variable {cwd loc : Location} {base : Path} {w : Path × String} {written : List (Path × String)}
  {d d' : Disk} {apart : List Location}

theorem mem_waysOf : loc ∈ waysOf cwd base written ↔
    ∃ w ∈ written, loc ∈ Disk.way cwd (base / w.1) := List.mem_flatMap

theorem target_mem_waysOf (hw : w ∈ written) :
    Disk.target cwd (base / w.1) ∈ waysOf cwd base written :=
  mem_waysOf.2 ⟨w, hw, Disk.target_mem_way _ _⟩

theorem waysOf_subset_cons : waysOf cwd base written ⊆ waysOf cwd base (w :: written) := by
  intro loc hloc
  obtain ⟨w', hw', hloc⟩ := mem_waysOf.1 hloc
  exact mem_waysOf.2 ⟨w', List.mem_cons_of_mem _ hw', hloc⟩

theorem way_subset_waysOf (hw : w ∈ written) :
    Disk.way cwd (base / w.1) ⊆ waysOf cwd base written :=
  fun _ hloc => mem_waysOf.2 ⟨w, hw, hloc⟩

theorem filesOf_subset_waysOf : filesOf cwd base written ⊆ waysOf cwd base written := by
  intro loc hloc
  obtain ⟨w, hw, rfl⟩ := List.mem_map.1 hloc
  exact target_mem_waysOf hw

theorem foldersOf_subset_waysOf : foldersOf cwd base written ⊆ waysOf cwd base written := by
  intro loc hloc
  obtain ⟨w, hw, hloc⟩ := List.mem_flatMap.1 hloc
  exact way_subset_waysOf hw (Disk.way_parent_subset _ _ hloc)

theorem writeAll_cons (hfolders : (d.ensureFolders cwd (base / w.1).parent).2 = .ok ())
    (hwrite : (d.ensureFolders cwd (base / w.1).parent).1.write cwd (base / w.1) w.2.toUTF8 =
      .ok d') :
    writeAll cwd base (w :: written) d = writeAll cwd base written d' := by
  obtain ⟨p, text⟩ := w
  rw [writeAll]
  rcases hmade : d.ensureFolders cwd (base / p).parent with ⟨d₁, outcome⟩
  simp only [hmade] at hfolders hwrite
  subst hfolders
  simp only [hwrite]

/-- A tool writes files and makes folders on the ways to them, whatever it comes to. -/
theorem grows_writeAll (cwd : Location) (base : Path) (written : List (Path × String)) (d : Disk) :
    Disk.Grows (filesOf cwd base written) (foldersOf cwd base written) d
      (writeAll cwd base written d).1 := by
  induction written generalizing d with
  | nil => exact Disk.Grows.refl d
  | cons w rest ih =>
    obtain ⟨p, text⟩ := w
    have hfolders := (Disk.grows_ensureFolders d cwd (base / p).parent).mono
      (List.nil_subset (filesOf cwd base ((p, text) :: rest)))
      (List.subset_append_left _ (foldersOf cwd base rest))
    rw [writeAll]
    split
    · rename_i d₁ code hmade
      rw [hmade] at hfolders
      exact hfolders
    · rename_i d₁ hmade
      rw [hmade] at hfolders
      split
      · exact hfolders
      · rename_i d₂ hwrite
        have hwritten := (Disk.grows_write hwrite).mono
          (List.cons_subset_cons _ (List.nil_subset (filesOf cwd base rest)))
          (List.nil_subset (foldersOf cwd base ((p, text) :: rest)))
        exact (hfolders.trans hwritten).trans
          ((ih d₂).mono (List.subset_cons_self _ _) (List.subset_append_right _ _))

/-- Files that have been written can be written again on a disk that still has the folders, and
then no folder is made. -/
theorem writeAll_again (h : (writeAll cwd base written d).2 = .ok ())
    (hkeeps : (writeAll cwd base written d).1.KeepsFolders d')
    (hfree : ∀ w ∈ written, ¬d'.HoldsFolder (Disk.target cwd (base / w.1))) :
    (writeAll cwd base written d').2 = .ok () ∧
      Disk.Grows (waysOf cwd base written) [] d' (writeAll cwd base written d').1 := by
  induction written generalizing d d' with
  | nil => exact ⟨rfl, Disk.Grows.refl d'⟩
  | cons w rest ih =>
    obtain ⟨d₁, hfolders, hwrite, heq⟩ := exists_of_writeAll h
    rw [heq] at h hkeeps
    rw [List.forall_mem_cons] at hfree
    have hwritten := (Disk.grows_write hwrite).folders
    have hrest := (grows_writeAll cwd base rest d₁).folders
    have hbefore : (d.ensureFolders cwd (base / w.1).parent).1.KeepsFolders d' :=
      (hwritten.trans hrest).trans hkeeps
    obtain ⟨children, hfind⟩ := Disk.find_of_ensureFolders hfolders
    obtain ⟨children', hfind'⟩ := hbefore.find hfind
    have hfolders' := Disk.ensureFolders_of_find hfind'
    obtain ⟨d₂, hwrite'⟩ := hbefore.write hwrite hfree.1
    have hgrows := Disk.grows_write hwrite'
    have hcons : writeAll cwd base (w :: rest) d' = writeAll cwd base rest d₂ :=
      writeAll_cons (by rw [hfolders']) (by rw [hfolders']; exact hwrite')
    obtain ⟨hok, hgrows'⟩ := ih h (hkeeps.trans hgrows.folders) fun w' hw' hfolder =>
      hfree.2 w' hw' ((hgrows.newFolder _ hfolder).resolve_right nofun)
    rw [hcons]
    refine ⟨hok, (hgrows.mono ?_ (List.nil_subset _)).trans (hgrows'.mono ?_ (List.nil_subset _))⟩
    · exact List.cons_subset.2 ⟨target_mem_waysOf List.mem_cons_self, List.nil_subset _⟩
    · exact waysOf_subset_cons

/-- Files that can be written on a disk can be written on one that has less on it, as the folders
on the way can be made there too. -/
theorem writeAll_of_writeAll (habsolute : base.isAbsolute = true)
    (h : (writeAll cwd base written d').2 = .ok ()) (hkeeps : d.Keeps apart [] d')
    (hbeside : ∀ loc ∈ foldersOf cwd base written, loc ∉ apart) :
    (writeAll cwd base written d).2 = .ok () := by
  induction written generalizing d d' with
  | nil => rfl
  | cons w rest ih =>
    obtain ⟨d₂, hfolders, hwrite, heq⟩ := exists_of_writeAll h
    rw [heq] at h
    have hway : Disk.way cwd (base / w.1).parent ⊆ foldersOf cwd base (w :: rest) :=
      List.subset_append_left _ _
    have hparent : (base / w.1).parent.isAbsolute = true := Path.isAbsolute_div habsolute w.1
    have hmade : (d.ensureFolders cwd (base / w.1).parent).2 = .ok () :=
      Disk.ensureFolders_of_ensureFolders hparent hfolders fun loc hloc =>
        hkeeps.files loc (hbeside loc (hway hloc))
    obtain ⟨children, hfind⟩ := Disk.find_of_ensureFolders hmade
    have hbetween := hkeeps.ensureFolders hfolders
    obtain ⟨folder, name, e, hplace, hfree, -⟩ := Disk.place_of_write hwrite
    obtain ⟨d₁, hwrite₁⟩ := Disk.write_of_write hwrite hfind fun ⟨children, hfolder⟩ => by
      obtain ⟨children', hfolder'⟩ := hbetween.folders _ _ hfolder
      exact hfree children' ((Disk.target_of_place hplace).2.symm.trans hfolder')
    rw [writeAll_cons hmade hwrite₁]
    exact ih h (hbetween.write hwrite₁ hwrite) fun loc hloc =>
      hbeside loc (List.mem_append_right _ hloc)

/-- Every file that a tool has written is there in the end. -/
theorem holdsFile_of_mem_written (h : (writeAll cwd base written d).2 = .ok ()) (hw : w ∈ written) :
    (writeAll cwd base written d).1.HoldsFile (Disk.target cwd (base / w.1)) := by
  induction written generalizing d with
  | nil => cases hw
  | cons first rest ih =>
    obtain ⟨d₁, -, hwrite, heq⟩ := exists_of_writeAll h
    rw [heq] at h ⊢
    rcases List.mem_cons.1 hw with rfl | hw
    · exact (grows_writeAll cwd base rest d₁).files _ ⟨_, Disk.at?_of_write hwrite⟩
    · exact ih h hw

/-- Every folder that a tool has needed for its files is there in the end. -/
theorem holdsFolder_of_mem_foldersOf (h : (writeAll cwd base written d).2 = .ok ())
    (hloc : loc ∈ foldersOf cwd base written) :
    (writeAll cwd base written d).1.HoldsFolder loc := by
  induction written generalizing d with
  | nil => cases hloc
  | cons first rest ih =>
    obtain ⟨d₁, hfolders, hwrite, heq⟩ := exists_of_writeAll h
    rw [heq] at h ⊢
    rcases List.mem_append.1 hloc with hloc | hloc
    · obtain ⟨children, hfind⟩ := Disk.find_of_ensureFolders hfolders
      obtain ⟨children', hat⟩ := Disk.holdsFolder_of_mem_way hfind hloc
      have hgrown := (Disk.grows_write hwrite).folders
      have hkept := hgrown.trans (grows_writeAll cwd base rest d₁).folders
      exact hkept loc children' hat
    · exact ih h hloc

/-! ### Starting again -/

section

variable {host : Host} {s s' : Session} {call : Call} {exit : Exit} {listed : List Location}

theorem files_subset_touched : call.files host ⊆ call.touched host := filesOf_subset_waysOf

theorem folders_subset_touched : call.folders host ⊆ call.touched host := foldersOf_subset_waysOf

theorem ensureFolders_of_result {p : Path} (h : (ensureFolders p).result host s = .ok ()) :
    p.hasNul = false ∧ (s.disk.ensureFolders host.cwd.parts p).2 = .ok () ∧
      (ensureFolders p).left host s =
        { s with disk := (s.disk.ensureFolders host.cwd.parts p).1 } := by
  rw [result_ensureFolders] at h
  rw [left_ensureFolders]
  cases hnul : p.hasNul with
  | true => simp [hnul] at h
  | false =>
    refine ⟨rfl, ?_, rfl⟩
    cases hmade : (s.disk.ensureFolders host.cwd.parts p).2 with
    | ok u => rfl
    | error code => simp [hnul, hmade, mapError_error] at h

/-- Folders that have been made are found as long as folders are kept. -/
theorem ensureFolders_again {p : Path} (h : (ensureFolders p).result host s = .ok ())
    (hkeeps : ((ensureFolders p).left host s).disk.KeepsFolders s'.disk) :
    (ensureFolders p).result host s' = .ok () ∧ (ensureFolders p).left host s' = s' := by
  obtain ⟨hnul, hmade, hleft⟩ := ensureFolders_of_result h
  rw [hleft] at hkeeps
  obtain ⟨children, hfind⟩ := Disk.find_of_ensureFolders hmade
  obtain ⟨children', hfind'⟩ := hkeeps.find hfind
  rw [result_ensureFolders, left_ensureFolders, hnul, Disk.ensureFolders_of_find hfind']
  exact ⟨rfl, rfl⟩

variable (hsteady : ∀ earlier call, host.tools earlier call = host.tools [] call)

include hsteady

theorem writtenOn_eq (earlier : List Call) (call : Call) :
    writtenOn host earlier call = writtenOn host [] call := by
  unfold writtenOn
  rw [hsteady]

theorem grows_start (s : Session) (call : Call) :
    Disk.Grows (call.files host) (call.folders host) s.disk ((start call).left host s).disk := by
  rw [left_start, writtenOn_eq hsteady]
  exact grows_writeAll _ _ _ _

/-- A tool that has gone well goes well again on a disk that still has what it has left, and then
it makes no folder. -/
theorem start_again (h : (start call).result host s = .ok (.ok exit))
    (hkeeps : ((start call).left host s).disk.Keeps apart listed s'.disk)
    (hfree : ∀ loc ∈ apart, ¬s'.disk.HoldsFolder loc) :
    (start call).result host s' = .ok (.ok exit) ∧
      Disk.Grows (call.touched host) [] s'.disk ((start call).left host s').disk := by
  obtain ⟨hnul, htools, hwritten⟩ := result_start_eq_ok_ok.1 h
  have hfiles := writtenOn_of_result_start h
  rw [left_start, hfiles] at hkeeps
  have hplaces : ∀ w ∈ exit.written, ¬s'.disk.HoldsFolder
      (Disk.target host.cwd.parts (host.cwd / call.folder.getD .here / w.1)) := by
    intro w hw
    by_cases hapart : Disk.target host.cwd.parts (host.cwd / call.folder.getD .here / w.1) ∈ apart
    · exact hfree _ hapart
    · exact (hkeeps.files _ hapart (holdsFile_of_mem_written hwritten hw)).not_holdsFolder
  obtain ⟨hwritten', hgrows⟩ := writeAll_again hwritten hkeeps.folders hplaces
  constructor
  · rw [hsteady] at htools
    exact result_start_eq_ok_ok.2 ⟨hnul, (hsteady _ _).trans htools, hwritten'⟩
  · rw [writtenOn_eq hsteady] at hfiles
    rw [left_start, writtenOn_eq hsteady, Call.touched, hfiles]
    exact hgrows

/-- A tool that could not be started or could not write its files still can not, unless something
that was in the way of its files is gone. -/
theorem start_again_of_error {e : SystemError} (habsolute : host.cwd.isAbsolute = true)
    (h : (start call).result host s = .ok (.error e))
    (hkeeps : s.disk.Keeps apart listed s'.disk)
    (hbeside : ∀ loc ∈ call.folders host, loc ∉ apart) :
    ∃ e', (start call).result host s' = .ok (.error e') := by
  rw [result_start, writtenOn_eq hsteady, hsteady] at h ⊢
  cases hnul : call.hasNul with
  | true =>
    rw [hnul] at h
    cases h
  | false =>
    rw [hnul] at h
    simp only [Bool.false_eq_true, if_false] at h ⊢
    cases htools : host.tools [] call with
    | refused code => exact ⟨_, rfl⟩
    | garbled written =>
      rw [htools] at h
      cases h
    | ended exit =>
      cases hwritten : (writtenBy host call (writtenOn host [] call) s'.disk).2 with
      | error e' => exact ⟨e', rfl⟩
      | ok u =>
        have hwritten' : (writtenBy host call (writtenOn host [] call) s.disk).2 = .ok () :=
          writeAll_of_writeAll (Path.isAbsolute_div habsolute _) hwritten
            (hkeeps.mono (List.Subset.refl _) (List.nil_subset _)) hbeside
        rw [htools, hwritten'] at h
        cases h

/-- A call that has come to an answer comes to one again. -/
theorem exists_result_start_again {answer : Except SystemError Exit}
    (h : (start call).result host s = .ok answer) (s' : Session) :
    ∃ answer', (start call).result host s' = .ok answer' := by
  cases hresult : (start call).result host s' with
  | ok answer' => exact ⟨answer', rfl⟩
  | error f =>
    have hfails : (start call).result host s = .error f := by
      rw [result_start_eq_error, hsteady] at hresult ⊢
      exact hresult
    rw [h] at hfails
    cases hfails

/-- The folders that a tool needs for its files are there once it has ended. -/
theorem holdsFolder_of_mem_folders {loc : Location}
    (h : (start call).result host s = .ok (.ok exit)) (hloc : loc ∈ call.folders host) :
    ((start call).left host s).disk.HoldsFolder loc := by
  obtain ⟨-, -, hwritten⟩ := result_start_eq_ok_ok.1 h
  have hfiles := writtenOn_of_result_start h
  rw [Call.folders, ← writtenOn_eq hsteady (callsOf s.log), hfiles] at hloc
  rw [left_start, hfiles]
  exact holdsFolder_of_mem_foldersOf hwritten hloc

end

end Job

/-! ## Runs that can be repeated -/

/-- Calls that come to the same in another run. By the files that it writes, no tool but the
generator comes to the locations `apart`, and none comes below the folders at `listed`. -/
structure SteadyCalls (host : Host) (apart listed : List Location) (calls : List Call) : Prop where
  /-- What comes of a call does not depend on the calls before it. -/
  steady : ∀ earlier call, host.tools earlier call = host.tools [] call
  absolute : host.cwd.isAbsolute = true
  apart : ∀ call ∈ calls, call.isGenerate = false → ∀ loc ∈ call.touched host, loc ∉ apart
  listed : ∀ call ∈ calls, ∀ loc ∈ call.touched host, ∀ root ∈ listed, root <+: loc → loc = root

/-- A run that has come to its end, and that is to be repeated from the disk that it has left. -/
structure FirstRun where
  host : Host
  /-- What the run has left. -/
  last : Session
  apart : List Location
  listed : List Location
  calls : SteadyCalls host apart listed (callsOf last.log)

namespace FirstRun

variable {α β : Type} {r : FirstRun} {s s' : Session} {call : Call}

/-- A session that the first run comes through: its log and its disk are kept to the end. -/
structure Passes (r : FirstRun) (s : Session) : Prop where
  log : s.log <+: r.last.log
  disk : s.disk.Keeps r.apart r.listed r.last.disk

/-- The second run has come as far in the session `s'` as the first one has in `s`. It has the same
effects but those of fetching the sources, and the disk has what the first run has left. -/
structure Again (r : FirstRun) (s s' : Session) : Prop where
  disk : r.last.disk.Keeps r.apart r.listed s'.disk
  free : ∀ loc ∈ r.apart, ¬s'.disk.HoldsFolder loc
  log : effectsOf s'.log = lastingOf s.log

/-- The first run comes through the session that the job starts from if it comes through the one
that the job leaves. -/
def Traces (r : FirstRun) (j : Job α) : Prop :=
  ∀ s a, j.result r.host s = .ok a → r.Passes (j.left r.host s) → r.Passes s

/-- What the job has done in the first run it does again in the second one. -/
structure Repeats (r : FirstRun) (j : Job α) : Prop where
  traces : r.Traces j
  again : ∀ {s s' a}, j.result r.host s = .ok a → r.Passes (j.left r.host s) → r.Again s s' →
    j.result r.host s' = .ok a ∧ r.Again (j.left r.host s) (j.left r.host s')

/-! ### Rules -/

theorem Traces.bind {x : Job α} {f : α → Job β} (hx : r.Traces x) (hf : ∀ a, r.Traces (f a)) :
    r.Traces (x >>= f) := by
  intro s b hb hpasses
  obtain ⟨a, ha, hb⟩ := result_bind_eq_ok.1 hb
  rw [left_bind_of_ok ha] at hpasses
  exact hx s a ha (hf a _ b hb hpasses)

theorem Repeats.bind {x : Job α} {f : α → Job β} (hx : r.Repeats x) (hf : ∀ a, r.Repeats (f a)) :
    r.Repeats (x >>= f) where
  traces := hx.traces.bind fun a => (hf a).traces
  again := by
    intro s s' b hb hpasses hagain
    obtain ⟨a, ha, hb⟩ := result_bind_eq_ok.1 hb
    rw [left_bind_of_ok ha] at hpasses ⊢
    obtain ⟨ha', hagain'⟩ := hx.again ha ((hf a).traces _ b hb hpasses) hagain
    rw [result_bind_of_ok ha', left_bind_of_ok ha']
    exact (hf a).again hb hpasses hagain'

/-- Jobs that only tell the user what goes on leave the disk as it is and have no effects. -/
theorem left_of_silent {j : Job α} {host : Host} (h : Within (fun _ => False) j host s) :
    ∃ said, effectsOf said = [] ∧ j.left host s = { s with log := s.log ++ said } := by
  refine h.keeps (R := fun s s' => ∃ said, effectsOf said = [] ∧
    s' = { s with log := s.log ++ said }) ?_ ?_ ?_
  · exact fun s => ⟨[], rfl, by simp⟩
  · rintro s₁ _ _ ⟨said, hsaid, rfl⟩ ⟨said', hsaid', rfl⟩
    exact ⟨said ++ said', by rw [effectsOf_append, hsaid, hsaid']; rfl, by simp⟩
  · intro a ha s
    rcases ha with ha | ha
    · cases a with
      | record e hcall =>
        refine ⟨[e], ?_, rfl⟩
        cases e <;> first | rfl | cases ha
      | _ => cases ha
    · cases ha

theorem Passes.of_said {said : List Event}
    (h : r.Passes { s with log := s.log ++ said }) : r.Passes s :=
  ⟨(List.prefix_append _ _).trans h.log, h.disk⟩

theorem Again.said {said said' : List Event} (h : r.Again s s')
    (hsaid : effectsOf said' = lastingOf said) :
    r.Again { s with log := s.log ++ said } { s' with log := s'.log ++ said' } :=
  ⟨h.disk, h.free, by rw [effectsOf_append, lastingOf_append, h.log, hsaid]⟩

/-- A job that only tells something can be repeated if its value is always the same. -/
theorem repeats_of_silent {j : Job α} (hsilent : ∀ s, Within (fun _ => False) j r.host s)
    (hresult : ∀ s s', j.result r.host s = j.result r.host s') : r.Repeats j where
  traces := by
    intro s a _ hpasses
    obtain ⟨said, -, hleft⟩ := left_of_silent (hsilent s)
    exact (hleft ▸ hpasses).of_said
  again := by
    intro s s' a ha _ hagain
    obtain ⟨said, hsaid, hleft⟩ := left_of_silent (hsilent s)
    obtain ⟨said', hsaid', hleft'⟩ := left_of_silent (hsilent s')
    rw [hleft, hleft', hresult s' s]
    exact ⟨ha, hagain.said (hsaid'.trans (lastingOf_eq_nil hsaid).symm)⟩

theorem repeats_pure (a : α) : r.Repeats (pure a : Job α) :=
  repeats_of_silent (fun _ => within_pure a) fun _ _ => rfl

theorem repeats_fail (p : Problem) : r.Repeats (fail p : Job α) :=
  repeats_of_silent (fun _ => within_fail p) fun _ _ => rfl

theorem repeats_get (e : Except Problem α) : r.Repeats (Job.get e) :=
  repeats_of_silent (fun _ => within_get e) fun _ _ => by rw [result_get, result_get]

theorem repeats_ofExcept (e : Except Failure α) : r.Repeats (MonadExcept.ofExcept e : Job α) :=
  repeats_of_silent (fun _ => within_ofExcept e) fun _ _ => by rw [result_ofExcept, result_ofExcept]

theorem repeats_log (level : Level) (origin : Origin) (message : String) :
    r.Repeats (Job.log level origin message) :=
  repeats_of_silent (fun _ => within_log _ _ _) fun _ _ => rfl

theorem repeats_warn (kind : WarningKind) (message : String) :
    r.Repeats (Job.warn kind message) :=
  repeats_of_silent (fun _ => within_warn _ _) fun _ _ => rfl

theorem repeats_emit {d : Directive} (hd : d ≠ Source.fetchWarning) : r.Repeats (Job.emit d) where
  traces := fun _ _ _ hpasses => hpasses.of_said
  again := fun _ _ hagain => by
    refine ⟨rfl, hagain.said ?_⟩
    simp [effectsOf, lastingOf, Event.isEffect, Event.isLasting, hd]

theorem repeats_forM {f : α → Job PUnit} (l : List α) (h : ∀ a ∈ l, r.Repeats (f a)) :
    r.Repeats (l.forM f) := by
  induction l with
  | nil => exact repeats_pure _
  | cons a rest ih =>
    exact (h a List.mem_cons_self).bind fun _ => ih fun b hb => h b (List.mem_cons_of_mem _ hb)

/-! ### Tools -/

theorem grows_start (r : FirstRun) (s : Session) (call : Call) :
    Disk.Grows (call.touched r.host) (call.touched r.host) s.disk
      ((Job.start call).left r.host s).disk :=
  (Job.grows_start r.calls.steady s call).mono files_subset_touched folders_subset_touched

/-- A tool that the run has started only adds to what is there. -/
theorem Passes.of_start (h : r.Passes ((Job.start call).left r.host s)) :
    call ∈ callsOf r.last.log ∧ r.Passes s := by
  have hlog := h.log
  rw [left_start] at hlog
  have hcall : call ∈ callsOf r.last.log := by
    rw [mem_callsOf]
    exact hlog.subset (by simp)
  have hkeeps : s.disk.Keeps r.apart r.listed ((Job.start call).left r.host s).disk :=
    (r.grows_start s call).keeps fun root hroot loc hloc =>
      r.calls.listed call hcall loc (by simpa using hloc) root hroot
  exact ⟨hcall, (List.prefix_append _ _).trans hlog, hkeeps.trans h.disk⟩

theorem traces_start (call : Call) : r.Traces (Job.start call) :=
  fun _ _ _ hpasses => hpasses.of_start.2

theorem lasting_started (hfetch : call.isFetch = false) :
    lastingOf [.started call] = effectsOf [.started call] := by
  simp [effectsOf, lastingOf, List.filter_cons, Event.isEffect, Event.isLasting, hfetch]

/-- A tool that has gone well goes well again. -/
theorem Again.start {exit : Exit} (h : r.Again s s') (hfetch : call.isFetch = false)
    (hstart : (Job.start call).result r.host s = .ok (.ok exit))
    (hpasses : r.Passes ((Job.start call).left r.host s)) :
    (Job.start call).result r.host s' = .ok (.ok exit) ∧
      r.Again ((Job.start call).left r.host s) ((Job.start call).left r.host s') := by
  obtain ⟨hcall, -⟩ := hpasses.of_start
  obtain ⟨hstart', hgrows⟩ :=
    Job.start_again r.calls.steady hstart (hpasses.disk.trans h.disk) h.free
  refine ⟨hstart', h.disk.trans (hgrows.keeps ?_), ?_, ?_⟩
  · intro root hroot loc hloc
    exact r.calls.listed call hcall loc (by simpa using hloc) root hroot
  · intro loc hloc hfolder
    exact h.free loc hloc ((hgrows.newFolder loc hfolder).resolve_right nofun)
  · rw [left_start, left_start, effectsOf_append, lastingOf_append, h.log, lasting_started hfetch]

/-- A tool that could not be started or could not write its files still can not, unless it is the
generator, whose files have been moved. -/
theorem Again.start_of_error {e : SystemError} (h : r.Again s s') (hfetch : call.isFetch = false)
    (hcall : call.isGenerate = false)
    (hstart : (Job.start call).result r.host s = .ok (.error e))
    (hpasses : r.Passes ((Job.start call).left r.host s)) :
    (∃ e', (Job.start call).result r.host s' = .ok (.error e')) ∧
      r.Again ((Job.start call).left r.host s) ((Job.start call).left r.host s') := by
  obtain ⟨hmem, hbefore⟩ := hpasses.of_start
  have hgrows := r.grows_start s' call
  refine ⟨?_, h.disk.trans (hgrows.keeps ?_), ?_, ?_⟩
  · exact Job.start_again_of_error r.calls.steady r.calls.absolute hstart
      (hbefore.disk.trans h.disk) fun loc hloc =>
        r.calls.apart call hmem hcall loc (folders_subset_touched hloc)
  · intro root hroot loc hloc
    exact r.calls.listed call hmem loc (by simpa using hloc) root hroot
  · intro loc hloc hfolder
    rcases hgrows.newFolder loc hfolder with hold | hnew
    · exact h.free loc hloc hold
    · exact r.calls.apart call hmem hcall loc hnew hloc
  · rw [left_start, left_start, effectsOf_append, lastingOf_append, h.log, lasting_started hfetch]

/-- A start can be repeated if what comes after it can be, whether the tool goes well or not. -/
theorem repeats_start {f : Except SystemError Exit → Job β} (hfetch : call.isFetch = false)
    (hok : ∀ exit, r.Repeats (f (.ok exit))) (htraces : ∀ e, r.Traces (f (.error e)))
    (herror : ∀ {s s' e b}, (Job.start call).result r.host s = .ok (.error e) →
      (f (.error e)).result r.host ((Job.start call).left r.host s) = .ok b →
      r.Passes ((Job.start call).left r.host s) → r.Again s s' →
        (Job.start call >>= f).result r.host s' = .ok b ∧
          r.Again ((f (.error e)).left r.host ((Job.start call).left r.host s))
            ((Job.start call >>= f).left r.host s')) :
    r.Repeats (Job.start call >>= f) := by
  have htraces' (answer : Except SystemError Exit) : r.Traces (f answer) := by
    cases answer with
    | error e => exact htraces e
    | ok exit => exact (hok exit).traces
  refine ⟨(traces_start call).bind htraces', ?_⟩
  intro s s' b hb hpasses hagain
  obtain ⟨answer, hstart, hb⟩ := result_bind_eq_ok.1 hb
  rw [left_bind_of_ok hstart] at hpasses ⊢
  have hstarted := htraces' answer _ b hb hpasses
  cases answer with
  | error e => exact herror hstart hb hstarted hagain
  | ok exit =>
    obtain ⟨hstart', hagain'⟩ := hagain.start hfetch hstart hstarted
    rw [result_bind_of_ok hstart', left_bind_of_ok hstart']
    exact (hok exit).again hb hpasses hagain'

/-- A tool that the run can not do without. -/
theorem repeats_start_bind {f : Except SystemError Exit → Job β} (hfetch : call.isFetch = false)
    (hok : ∀ exit, r.Repeats (f (.ok exit)))
    (herror : ∀ e s, ∃ failure, (f (.error e)).result r.host s = .error failure) :
    r.Repeats (Job.start call >>= f) := by
  have hno {e : SystemError} {s : Session} {b : β} {P : Prop}
      (hb : (f (.error e)).result r.host s = .ok b) : P := by
    obtain ⟨failure, hfailure⟩ := herror e s
    rw [hfailure] at hb
    cases hb
  exact repeats_start hfetch hok (fun e s b hb _ => hno hb) fun _ hb _ _ => hno hb

/-- A tool that the run goes on without if need be, telling the user so. -/
theorem repeats_start_or {f : Except SystemError Exit → Job β} (b : β)
    (hfetch : call.isFetch = false) (hcall : call.isGenerate = false)
    (hok : ∀ exit, r.Repeats (f (.ok exit)))
    (hsilent : ∀ e s, Within (fun _ => False) (f (.error e)) r.host s)
    (herror : ∀ e s, (f (.error e)).result r.host s = .ok b) :
    r.Repeats (Job.start call >>= f) := by
  refine repeats_start hfetch hok (fun e => ?_) fun {s s' e b'} hstart hb hpasses hagain => ?_
  · exact (repeats_of_silent (hsilent e) fun s s' => by rw [herror, herror]).traces
  · obtain ⟨⟨e', hstart'⟩, hagain'⟩ := hagain.start_of_error hfetch hcall hstart hpasses
    obtain ⟨said, hsaid, hleft⟩ := left_of_silent (hsilent e ((Job.start call).left r.host s))
    obtain ⟨said', hsaid', hleft'⟩ :=
      left_of_silent (hsilent e' ((Job.start call).left r.host s'))
    rw [herror] at hb
    rw [result_bind_of_ok hstart', left_bind_of_ok hstart', herror, hleft, hleft']
    exact ⟨hb, hagain'.said (hsaid'.trans (lastingOf_eq_nil hsaid).symm)⟩

/-! ### Folders -/

/-- Folders that have been made are found. -/
theorem repeats_ensureFolders {p : Path}
    (hlisted : ∀ root ∈ r.listed, ∀ loc ∈ Disk.way r.host.cwd.parts p, root <+: loc → loc = root) :
    r.Repeats (Job.ensureFolders p) := by
  constructor
  · intro s a hok hpasses
    obtain ⟨-, -, hleft⟩ := ensureFolders_of_result hok
    rw [hleft] at hpasses
    exact ⟨hpasses.log, ((Disk.grows_ensureFolders _ _ _).keeps hlisted).trans hpasses.disk⟩
  · intro s s' a hok hpasses hagain
    have hdone := ensureFolders_again hok (hpasses.disk.trans hagain.disk).folders
    obtain ⟨-, -, hleft⟩ := ensureFolders_of_result hok
    rw [hdone.1, hdone.2, hleft]
    exact ⟨rfl, hagain.disk, hagain.free, hagain.log⟩

/-- What is in a listed folder is there again. -/
theorem Again.list {root : Path} {children : List (String × Entry)} (h : r.Again s s')
    (hpasses : r.Passes s) (hroot : Disk.target r.host.cwd.parts root ∈ r.listed)
    (hlist : s.disk.list r.host.cwd.parts root = .ok children) :
    s'.disk.list r.host.cwd.parts root = .ok children :=
  (hpasses.disk.trans h.disk).list hroot hlist

/-- What follows on the entries of a listed folder, if nothing follows on a refusal. -/
theorem repeats_list_bind {root : Path} {k : Except ErrorCode (List (String × Entry)) → Job α}
    (hroot : Disk.target r.host.cwd.parts root ∈ r.listed)
    (hrefused : ∀ code, ∃ p, k (.error code) = Job.fail p)
    (hk : ∀ entries, r.Repeats (k (.ok entries))) :
    r.Repeats (Job.ask root (fun d cwd => d.list cwd root) >>= k) := by
  constructor
  · refine Traces.bind (fun s a _ hpasses => by rwa [left_ask] at hpasses) fun answer => ?_
    cases answer with
    | error code =>
      obtain ⟨p, hp⟩ := hrefused code
      rw [hp]
      exact (repeats_fail p).traces
    | ok entries => exact (hk entries).traces
  · intro s s' a hok hpasses hagain
    obtain ⟨answer, hanswer, hok⟩ := result_bind_eq_ok.1 hok
    rw [left_bind_of_ok hanswer, left_ask] at hpasses ⊢
    rw [left_ask] at hok
    rw [result_ask] at hanswer
    cases answer with
    | error code =>
      obtain ⟨p, hp⟩ := hrefused code
      rw [hp] at hok
      cases hok
    | ok entries =>
      have hagain' : (ask root fun d cwd => d.list cwd root).result r.host s' =
          .ok (.ok entries) := by
        rw [result_ask]
        split at hanswer
        · cases hanswer
        · rename_i hnul
          rw [if_neg hnul, hagain.list ((hk entries).traces _ _ hok hpasses) hroot
            (Except.ok.inj hanswer)]
      rw [result_bind_of_ok hagain', left_bind_of_ok hagain', left_ask]
      exact (hk entries).again hok hpasses hagain

/-- The toolchain that has been found is found again. -/
theorem repeats_locate {root : Path} (hroot : Disk.target r.host.cwd.parts root ∈ r.listed) :
    r.Repeats (Ndk.locate root) := by
  unfold Ndk.locate
  refine repeats_list_bind hroot (fun code => ⟨_, rfl⟩) fun entries => ?_
  dsimp only
  split
  · exact repeats_pure _
  · exact repeats_fail _

/-- What the run has left under a name is there again. -/
theorem Again.isPresent {p : Path} {name : String} (h : r.Again s s') (hname : p.name? = some name)
    (hdots : name ≠ "..") (hapart : Disk.target r.host.cwd.parts p ∉ r.apart)
    (hpresent : (Job.isPresent p).result r.host r.last = .ok true) :
    (Job.isPresent p).result r.host s' = .ok true := by
  obtain ⟨hnul, hlast⟩ := result_isPresent_eq_ok_true.1 hpresent
  obtain ⟨found, hfind⟩ := Disk.exists_find_of_isPresent hlast
  obtain ⟨found', hfind'⟩ := h.disk.exists_find hname hdots hapart hfind
  exact result_isPresent_eq_ok_true.2 ⟨hnul, Disk.isPresent_of_find hfind'⟩

end FirstRun

end CrossBuild
