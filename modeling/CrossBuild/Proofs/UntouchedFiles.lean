-- Files that a run leaves alone. What is at a location stays as it is if no tool writes there
-- and the run itself neither removes nor moves anything there, so the settings file of a
-- project is looked for and read after a run as it was before.
import CrossBuild.Proofs.LayoutFiles
import CrossBuild.Proofs.RepeatedRuns

namespace CrossBuild

open Job

/-! ## The disk -/

namespace Disk

variable {d d' d'' : Disk} {cwd loc : Location} {p : Path} {content : ByteArray}

/-- Nothing is done to a location: a file there stays as it is, no file comes up there, and all
folders stay. -/
structure LeavesAlone (loc : Location) (d d' : Disk) : Prop where
  folders : d.KeepsFolders d'
  file : ∀ content, d.at? loc = some (.file content) → d'.at? loc = some (.file content)
  newFile : d'.HoldsFile loc → d.HoldsFile loc

theorem LeavesAlone.refl (loc : Location) (d : Disk) : LeavesAlone loc d d :=
  ⟨fun _ children h => ⟨children, h⟩, fun _ h => h, id⟩

theorem LeavesAlone.trans (h : LeavesAlone loc d d') (h' : LeavesAlone loc d' d'') :
    LeavesAlone loc d d'' :=
  ⟨h.folders.trans h'.folders, fun content hfile => h'.file content (h.file content hfile),
    fun hfile => h.newFile (h'.newFile hfile)⟩

/-- A file at the location after nothing was done to it is the file from before. -/
theorem LeavesAlone.at?_of_at? (h : LeavesAlone loc d d')
    (hfile : d'.at? loc = some (.file content)) : d.at? loc = some (.file content) := by
  obtain ⟨content', hbefore⟩ := h.newFile ⟨content, hfile⟩
  have hafter := h.file content' hbefore
  rw [hfile] at hafter
  cases hafter
  exact hbefore

theorem leavesAlone_ensureFolders (loc : Location) (d : Disk) (cwd : Location) (p : Path) :
    LeavesAlone loc d (d.ensureFolders cwd p).1 where
  folders := (grows_ensureFolders d cwd p).folders
  file _ h := file_of_ensureFolders h
  newFile h := ((grows_ensureFolders d cwd p).newFile loc h).resolve_right List.not_mem_nil

theorem leavesAlone_erase {loc' : Location} (hfile : d.HoldsFile loc') (hloc : loc' ≠ loc) :
    LeavesAlone loc d (d.erase loc') := by
  have herased : d.Keeps [loc'] [] (d.erase loc') :=
    keeps_erase hfile (List.mem_singleton.2 rfl) nofun
  refine ⟨herased.folders, fun content hat => ?_, fun ⟨content, h⟩ => ⟨content, Entry.at?_erase h⟩⟩
  obtain ⟨content', hat'⟩ := hfile
  have hnot {loc loc' : Location} {content content' : ByteArray}
      (hat : d.at? loc = some (.file content)) (hat' : d.at? loc' = some (.file content'))
      (hne : loc' ≠ loc) : ¬loc <+: loc' :=
    Entry.not_prefix_of_not_folder (by rw [show d.root.at? loc = _ from hat]; nofun) hat' hne
  exact (Entry.at?_erase_beside (hnot hat' hat (Ne.symm hloc)) (hnot hat hat' hloc)).trans hat

theorem leavesAlone_unlink (h : d.unlink cwd p = .ok d') (hloc : target cwd p ≠ loc) :
    LeavesAlone loc d d' := by
  obtain ⟨rfl, -, hfile⟩ := eq_erase_of_unlink h
  exact leavesAlone_erase hfile hloc

theorem leavesAlone_put {folder : Location} {name : String} {e : Option Entry}
    (h : d.place cwd p = .ok (.named folder name e)) (he : ∀ children, e ≠ some (.folder children))
    (content : ByteArray) (hloc : target cwd p ≠ loc) :
    LeavesAlone loc d (d.put (folder ++ [name]) (.file content)) where
  folders := (grows_put_file h he content).folders
  file _ hfile := file_of_put h he hfile (Ne.symm hloc)
  newFile hfile := ((grows_put_file h he content).newFile loc hfile).resolve_right fun hmem =>
    hloc (List.mem_singleton.1 hmem).symm

/-- A move of a file leaves alone what is neither moved nor replaced. -/
theorem leavesAlone_rename {q : Path} (h : d.rename cwd p q = .ok d')
    (hfile : d.at? (target cwd p) = some (.file content))
    (hbeside : ¬target cwd p <+: target cwd q) (hbeside' : ¬target cwd q <+: target cwd p)
    (hp : target cwd p ≠ loc) (hq : target cwd q ≠ loc) : LeavesAlone loc d d' := by
  obtain ⟨folder, name, old, hplaced, hold, rfl⟩ := exists_put_of_rename h hfile hbeside hbeside'
  exact (leavesAlone_erase ⟨content, hfile⟩ hp).trans (leavesAlone_put hplaced hold content hq)

/-! ### Looking for a file again -/

theorem isFile_eq_false_iff : d.isFile cwd p = .ok false ↔
    d.find cwd p = .error .noEntry ∨ d.find cwd p = .error .notFolder ∨
      ∃ children, d.find cwd p = .ok (.folder children) := by
  unfold isFile find?
  cases d.find cwd p with
  | ok e => cases e <;> simp [bind, Except.bind, pure, Except.pure, Entry.isFile]
  | error code =>
    dsimp only
    split <;> simp_all [bind, Except.bind, pure, Except.pure]

end Disk

namespace Spot

variable {root : Entry} {s r : Spot} {parts : List String}

/-- Above a folder there are folders. -/
theorem On.folder_up {children : List (String × Entry)} (hs : On root s)
    (h : s.entry = .folder children) : ∃ children, s.up.entry = .folder children := by
  cases hs with
  | root => exact ⟨children, h⟩
  | @child s name e hs hchild =>
    change ∃ children, s.entry = _
    cases hentry : s.entry with
    | folder above => exact ⟨above, rfl⟩
    | file content =>
      rw [hentry] at hchild
      cases hchild

/-- The last step of a walk to a file goes down from a folder, since only folders are above. -/
theorem On.folder_of_file {name : String} {content : ByteArray} (hs : On root s)
    (h : s.follow (parts ++ [name]) = .ok r) (hr : r.entry = .file content) :
    ∃ f children, s.follow parts = .ok f ∧ f.entry = .folder children ∧ name ≠ ".." ∧
      name.utf8ByteSize ≤ Disk.longestName := by
  rw [follow_append] at h
  cases hwalk : s.follow parts with
  | error code => rw [hwalk] at h; cases h
  | ok f =>
    rw [hwalk] at h
    change f.follow [name] = _ at h
    by_cases hdots : name = ".."
    · subst hdots
      rw [follow_up] at h
      cases hentry : f.entry with
      | file content' => rw [Spot.children, hentry] at h; cases h
      | folder children =>
        rw [Spot.children, hentry] at h
        cases h
        obtain ⟨above, habove⟩ := (hs.follow hwalk).1.folder_up hentry
        rw [habove] at hr
        cases hr
    · rw [follow_down hdots] at h
      cases hchild : f.child? name with
      | error code => rw [hchild] at h; cases h
      | ok found =>
        obtain ⟨children, hentry⟩ := folder_of_child? hchild
        exact ⟨f, children, rfl, hentry, hdots, (lookup_of_child? hchild).2⟩

/-- A walk down, by names that a folder can hold, comes to what is there. -/
theorem exists_follow_of_at? {e : Entry} (hdots : ".." ∉ parts)
    (hnames : ∀ name ∈ parts, name.utf8ByteSize ≤ Disk.longestName)
    (he : s.entry.at? parts = some e) : ∃ r, s.follow parts = .ok r ∧ r.entry = e := by
  induction parts generalizing s with
  | nil => exact ⟨s, rfl, Option.some.inj he⟩
  | cons part rest ih =>
    rw [List.mem_cons, not_or] at hdots
    rw [List.forall_mem_cons] at hnames
    obtain ⟨child, hchild, hrest⟩ := Option.bind_eq_some_iff.1 (Entry.at?_cons _ _ _ ▸ he)
    cases hentry : s.entry with
    | file content =>
      rw [hentry] at hchild
      cases hchild
    | folder children =>
      rw [hentry] at hchild
      rw [follow_down (Ne.symm hdots.1), child?_of_folder hentry hnames.1,
        show children.lookup part = _ from hchild]
      exact ih hdots.2 hnames.2 hrest

/-- A walk by names that a folder can hold fails only where something is missing, or is a file. -/
theorem follow_eq_error {code : ErrorCode}
    (hnames : ∀ name ∈ parts, name.utf8ByteSize ≤ Disk.longestName)
    (h : s.follow parts = .error code) : code = .noEntry ∨ code = .notFolder := by
  induction parts generalizing s with
  | nil => cases h
  | cons part rest ih =>
    rw [List.forall_mem_cons] at hnames
    cases hentry : s.entry with
    | file content =>
      refine Or.inr ?_
      by_cases hpart : part = ".."
      · subst hpart
        rw [follow_up, children, hentry] at h
        exact (Except.error.inj h).symm
      · rw [follow_down hpart, child?, children, hentry] at h
        exact (Except.error.inj h).symm
    | folder below =>
      by_cases hpart : part = ".."
      · subst hpart
        rw [follow_up, children, hentry] at h
        exact ih hnames.2 h
      · rw [follow_down hpart, child?_of_folder hentry hnames.1] at h
        cases hchild : below.lookup part with
        | none =>
          rw [hchild] at h
          exact Or.inl (Except.error.inj h).symm
        | some e =>
          rw [hchild] at h
          exact ih hnames.2 h

end Spot

namespace Disk

variable {d d' : Disk} {cwd : Location} {p : Path} {content : ByteArray}

/-- A file that is left alone is found again. -/
theorem LeavesAlone.find (h : LeavesAlone (target cwd p) d d')
    (hfind : d.find cwd p = .ok (.file content)) : d'.find cwd p = .ok (.file content) := by
  have hat := h.file content (at?_target_of_find hfind)
  rw [find_eq] at hfind ⊢
  split at hfind
  · cases hfind
  rename_i hshort
  rw [if_neg hshort]
  unfold target at hat
  rcases List.eq_nil_or_concat (base cwd p ++ p.parts) with hnil | ⟨parts, name, hparts⟩
  · rw [hnil] at hat ⊢
    exact congrArg Except.ok (Option.some.inj hat)
  rw [hparts, List.concat_eq_append] at hfind hat ⊢
  cases hwalk : Spot.follow ⟨d.root, []⟩ (parts ++ [name]) with
  | error code => rw [hwalk] at hfind; cases hfind
  | ok r =>
    rw [hwalk] at hfind
    obtain ⟨s, children, hs, hentry, hdots, hlength⟩ :=
      Spot.On.root.folder_of_file hwalk (Except.ok.inj hfind)
    obtain ⟨s', hs', children', hentry'⟩ := h.folders.follow .root .root rfl hs hentry
    obtain ⟨hon, hnames⟩ := Spot.On.root.follow hs'
    have hlocation : s'.location = (parts.foldl Path.stepBack []).reverse :=
      congrArg List.reverse hnames
    have hlookup : children'.lookup name = some (.file content) := by
      rw [List.foldl_append, List.foldl_cons, List.foldl_nil, Path.stepBack, if_neg hdots,
        List.reverse_cons, at?, Entry.at?_append,
        ← hlocation, hon.at?_location, Option.bind_some, hentry', Entry.at?_cons] at hat
      obtain ⟨found, hfound, hself⟩ := Option.bind_eq_some_iff.1 hat
      exact hfound.trans hself
    rw [Spot.follow_append, hs']
    change Spot.entry <$> s'.follow [name] = _
    rw [Spot.follow_down hdots, Spot.child?_of_folder hentry' hlength, hlookup]
    rfl

/-- Whether a path leads to a file is settled ahead of a run if its folder is there, or if it only
leads down, by names that a folder can hold: then no folder that is made opens a way to it. -/
def IsSettled (d : Disk) (cwd : Location) (p : Path) : Prop :=
  (∃ children, d.find cwd p.parent = .ok (.folder children)) ∨
    ∀ name ∈ base cwd p ++ p.parts, name ≠ ".." ∧ name.utf8ByteSize ≤ longestName

/-- Nothing but a missing entry, or a file in the way, keeps a path from leading somewhere. -/
theorem isFile_of_find_ne_file
    (hcode : ∀ code, d.find cwd p = .error code → code = .noEntry ∨ code = .notFolder)
    (hfile : ∀ content, d.find cwd p ≠ .ok (.file content)) : d.isFile cwd p = .ok false := by
  rw [isFile_eq_false_iff]
  cases hfind : d.find cwd p with
  | error code => rcases hcode code hfind with rfl | rfl <;> simp
  | ok e =>
    cases e with
    | file content => exact absurd hfind (hfile content)
    | folder children => exact Or.inr (Or.inr ⟨children, rfl⟩)

/-- A path whose folder is there leads to what is at its location. -/
theorem find_of_parent {name : String} {children : List (String × Entry)}
    (hname : p.name? = some name) (hdots : name ≠ "..") (hlength : name.utf8ByteSize ≤ longestName)
    (hshort : p.text.utf8ByteSize ≤ longestPath)
    (hparent : d.find cwd p.parent = .ok (.folder children)) :
    d.find cwd p = (d.at? (target cwd p)).elim (.error .noEntry) .ok := by
  obtain ⟨-, r, hwalk, hr⟩ := find_eq_folder_iff.1 hparent
  have hplace := place_of_folder hname hdots hshort hlength hwalk hr
  rw [find_eq_of_place hplace, (target_of_place hplace).2]

theorem LeavesAlone.isFile_of_parent {name : String} {children : List (String × Entry)}
    (h : LeavesAlone (target cwd p) d d') (hname : p.name? = some name) (hdots : name ≠ "..")
    (hlength : name.utf8ByteSize ≤ longestName) (hshort : p.text.utf8ByteSize ≤ longestPath)
    (hparent : d.find cwd p.parent = .ok (.folder children))
    (hnot : ∀ content, d.find cwd p ≠ .ok (.file content)) : d'.isFile cwd p = .ok false := by
  obtain ⟨children', hparent'⟩ := h.folders.find hparent
  have hfind := find_of_parent hname hdots hlength hshort hparent
  have hfind' := find_of_parent hname hdots hlength hshort hparent'
  cases hat : d'.at? (target cwd p) with
  | none =>
    rw [hat] at hfind'
    exact isFile_eq_false_iff.2 (Or.inl hfind')
  | some e =>
    rw [hat] at hfind'
    refine isFile_of_find_ne_file (fun code hcode => ?_) fun content hcontent => hnot content ?_
    · rw [hfind'] at hcode
      cases hcode
    · rw [hfind'] at hcontent
      cases hcontent
      rw [hfind, h.at?_of_at? hat]
      rfl

/-- Nothing but a missing entry, or a file in the way, keeps a short path from leading somewhere. -/
theorem code_of_find {code : ErrorCode} (hshort : p.text.utf8ByteSize ≤ longestPath)
    (hnames : ∀ name ∈ base cwd p ++ p.parts, name.utf8ByteSize ≤ longestName)
    (h : d.find cwd p = .error code) : code = .noEntry ∨ code = .notFolder := by
  rw [find_eq, if_neg (Nat.not_lt.2 hshort)] at h
  cases hwalk : Spot.follow ⟨d.root, []⟩ (base cwd p ++ p.parts) with
  | ok r =>
    rw [hwalk] at h
    cases h
  | error code' =>
    rw [hwalk] at h
    cases h
    exact Spot.follow_eq_error hnames hwalk

theorem LeavesAlone.isFile_of_names (h : LeavesAlone (target cwd p) d d')
    (hshort : p.text.utf8ByteSize ≤ longestPath)
    (hnames : ∀ name ∈ base cwd p ++ p.parts, name ≠ ".." ∧ name.utf8ByteSize ≤ longestName)
    (hnot : ∀ content, d.find cwd p ≠ .ok (.file content)) : d'.isFile cwd p = .ok false := by
  have hdown : ".." ∉ base cwd p ++ p.parts := fun hmem => (hnames _ hmem).1 rfl
  have hlengths : ∀ name ∈ base cwd p ++ p.parts, name.utf8ByteSize ≤ longestName :=
    fun name hmem => (hnames name hmem).2
  refine isFile_of_find_ne_file (fun code => code_of_find hshort hlengths) fun content hfind' =>
    hnot content ?_
  have hat := h.at?_of_at? (at?_target_of_find hfind')
  rw [target_of_not_mem hdown] at hat
  obtain ⟨r, hwalk, hr⟩ := Spot.exists_follow_of_at? (s := ⟨d.root, []⟩) hdown hlengths hat
  rw [find_eq, if_neg (Nat.not_lt.2 hshort), hwalk]
  exact congrArg Except.ok hr

/-- A path that leads to no file does not lead to one later, if it is settled and left alone. -/
theorem LeavesAlone.isFile {name : String} (h : LeavesAlone (target cwd p) d d')
    (hname : p.name? = some name) (hdots : name ≠ "..") (hlength : name.utf8ByteSize ≤ longestName)
    (hsettled : d.IsSettled cwd p) (hfile : d.isFile cwd p = .ok false) :
    d'.isFile cwd p = .ok false := by
  have hshort : p.text.utf8ByteSize ≤ longestPath := by
    refine Nat.not_lt.1 fun hlong => ?_
    rw [isFile_eq_false_iff, find_eq, if_pos hlong] at hfile
    rcases hfile with hfile | hfile | ⟨children, hfile⟩ <;> cases hfile
  have hnot : ∀ content, d.find cwd p ≠ .ok (.file content) := by
    intro content hfind
    rw [isFile_of_find hfind] at hfile
    cases hfile
  rcases hsettled with ⟨children, hparent⟩ | hnames
  · exact h.isFile_of_parent hname hdots hlength hshort hparent hnot
  · exact h.isFile_of_names hshort hnames hnot

end Disk

namespace Job

variable {host : Host} {s : Session} {loc cwd : Location} {base : Path}
  {written : List (Path × String)}

theorem leavesAlone_writeAll (d : Disk) (hloc : loc ∉ filesOf cwd base written) :
    Disk.LeavesAlone loc d (writeAll cwd base written d).1 where
  folders := (grows_writeAll cwd base written d).folders
  file _ hfile := file_of_writeAll hfile fun w hw heq => hloc (List.mem_map.2 ⟨w, hw, heq⟩)
  newFile hfile := ((grows_writeAll cwd base written d).newFile loc hfile).resolve_right hloc

end Job

/-! ## A run -/

/-- Between two sessions nothing is done to a location, unless a tool writes a file there. -/
def Leaves (host : Host) (loc : Location) (s s' : Session) : Prop :=
  ∃ events, s'.log = s.log ++ events ∧
    ((∀ call ∈ callsOf events, loc ∉ call.files host) → s.disk.LeavesAlone loc s'.disk)

variable {host : Host} {loc : Location} {s s₁ s₂ s₃ : Session} {t : Target} {l : Layout}

theorem Leaves.refl (loc : Location) (s : Session) : Leaves host loc s s :=
  ⟨[], (List.append_nil _).symm, fun _ => .refl loc _⟩

theorem Leaves.trans (h : Leaves host loc s₁ s₂) (h' : Leaves host loc s₂ s₃) :
    Leaves host loc s₁ s₃ := by
  obtain ⟨events, hlog, hleaves⟩ := h
  obtain ⟨events', hlog', hleaves'⟩ := h'
  refine ⟨events ++ events', by rw [hlog', hlog, List.append_assoc], fun hcalls => ?_⟩
  rw [callsOf_append, List.forall_mem_append] at hcalls
  exact (hleaves hcalls.1).trans (hleaves' hcalls.2)

/-- Actions that neither remove what is at a location nor move anything. -/
def Avoids (host : Host) (loc : Location) : Action → Prop
  | .removeFile p => Disk.target host.cwd.parts p ≠ loc
  | .rename _ _ => False
  | _ => True

theorem leaves_after (hsteady : ∀ earlier call, host.tools earlier call = host.tools [] call)
    {a : Action} (ha : a.IsMessage ∨ Avoids host loc a) (s : Session) :
    Leaves host loc s (a.after host s) := by
  refine ⟨a.event?.toList, Action.log_after host s a, fun hcalls => ?_⟩
  cases a with
  | record e h => exact .refl loc _
  | start call =>
    have hloc := hcalls call (List.mem_singleton.2 rfl)
    rw [Call.files] at hloc
    simp only [Action.after, left_start, writtenOn_eq hsteady]
    exact leavesAlone_writeAll s.disk hloc
  | ensureFolders p =>
    simp only [Action.after, left_ensureFolders]
    split
    · exact .refl loc _
    · exact Disk.leavesAlone_ensureFolders loc s.disk _ p
  | removeFile p =>
    have hp : Disk.target host.cwd.parts p ≠ loc := ha.resolve_left id
    simp only [Action.after, left_removeFile]
    split
    · exact .refl loc _
    · split
      · exact Disk.leavesAlone_unlink ‹_› hp
      · exact .refl loc _
  | rename p q => exact (ha.resolve_left id).elim

theorem leaves_of_within {α : Type} {j : Job α}
    (hsteady : ∀ earlier call, host.tools earlier call = host.tools [] call)
    (h : Within (Avoids host loc) j host s) : Leaves host loc s (j.left host s) :=
  h.keeps (Leaves.refl loc) (fun _ _ _ => Leaves.trans) fun _ ha s => leaves_after hsteady ha s

namespace Pipeline

theorem avoids_untilGenerator : Within (Avoids host loc) (untilGenerator t l) host s := by
  unfold untilGenerator
  refine Within.bind (within_untilBindings (fun _ => trivial) fun s => ?_) fun _ _ => ?_
  · refine within_link (fun _ => trivial) trivial (fun _ => trivial) (fun c s _ => ?_)
      (fun _ _ _ => trivial) trivial
    exact Native.within_buildWith trivial (fun _ => trivial) fun _ _ => trivial
  · exact Bindings.within_getReady (fun _ => trivial) trivial

/-- A run that succeeds leaves alone what is neither its bindings nor written by a tool. -/
theorem leavesAlone_run {path : Path} (hpath : (run t l).result host s = .ok path)
    (hsteady : ∀ earlier call, host.tools earlier call = host.tools [] call)
    (hstraight : ".." ∉ (host.cwd / Bindings.outputPath t l).parts)
    (hwrites : ∀ call ∈ callsOf ((run t l).left host s).log, call.isGenerate = true → ∀ exit,
      host.tools [] call = .ended exit → exit.code = 0 → call.outputText? host exit ≠ none)
    (hcalls : ∀ call ∈ callsOf ((run t l).left host s).log, loc ∉ call.files host)
    (houtput : Disk.target host.cwd.parts (Bindings.outputPath t l) ≠ loc) :
    s.disk.LeavesAlone loc ((run t l).left host s).disk := by
  obtain ⟨hremoved, rfl, temporary, call, exit, s₁, s₂, d, e⟩ := exists_ending hpath
  rw [(run_of_ending e hremoved).2] at hwrites hcalls ⊢
  obtain ⟨text, htext⟩ := e.exists_text hsteady hwrites
  rw [Disk.parts_div] at hstraight
  obtain ⟨hbeside, hbeside'⟩ := Bindings.beside_temporary e.path hstraight
  have hat := Bindings.at?_of_outputText e.output e.ended htext
  have hremove : Leaves host loc s ((removeFile (Bindings.outputPath t l)).left host s) :=
    leaves_of_within hsteady (within_removeFile houtput)
  have hready : Leaves host loc ((removeFile (Bindings.outputPath t l)).left host s) s₁ :=
    e.left_ready ▸ leaves_of_within hsteady avoids_untilGenerator
  have hstart : Leaves host loc s₁ s₂ :=
    e.left_start ▸ leaves_of_within hsteady (within_start trivial)
  rw [e.left_start] at hat
  obtain ⟨events, hlog, hleaves⟩ := (hremove.trans hready).trans hstart
  have hbefore := hleaves fun call hcall => hcalls call (by simp [hlog, hcall])
  refine hbefore.trans (Disk.leavesAlone_rename e.moved hat hbeside hbeside' ?_ houtput)
  rintro rfl
  refine hcalls call e.call_mem (Call.target_mem_files e.output ?_ htext)
  exact (writtenOn_eq hsteady _ _).symm.trans (writtenOn_of_result_start e.ended)

end Pipeline

namespace Layout

variable {loader : ByteArray → Except Yaml.Fault Document} {projectDir : Path}
  {config : Option Path}

/-- What a layout makes of what has been loaded does not depend on the session. -/
theorem result_ofLoaded_congr (path : Path) (loaded : Except Yaml.Fault Document)
    (s s' : Session) :
    (ofLoaded path loaded).result host s = (ofLoaded path loaded).result host s' := by
  cases loaded with
  | error fault => cases fault <;> rfl
  | ok d =>
    rw [ofLoaded_ok]
    cases d.settings? with
    | none => rfl
    | some entries => exact result_ofSettings.trans result_ofSettings.symm

theorem not_isFile_again {path : Path} {name : String}
    (h : (Job.isFile path).result host s = .ok false)
    (halone : s.disk.LeavesAlone (Disk.target host.cwd.parts path) s₁.disk)
    (hname : path.name? = some name) (hdots : name ≠ "..")
    (hlength : name.utf8ByteSize ≤ Disk.longestName)
    (hsettled : s.disk.IsSettled host.cwd.parts path) :
    (Job.isFile path).result host s₁ = .ok false := by
  rw [Job.result_isFile] at h ⊢
  split at h
  · rw [if_pos ‹_›]
  · rw [if_neg ‹_›]
    cases hfile : s.disk.isFile host.cwd.parts path with
    | error code => rw [hfile] at h; cases h
    | ok found =>
      rw [hfile] at h
      cases h
      rw [halone.isFile hname hdots hlength hsettled hfile]
      rfl

/-- The layout that a settings file gives is loaded again as long as nothing is done to the file.
If no file has been given and none is there, it has to be settled that none is. -/
theorem load_again (h : (load loader projectDir config).result host s = .ok l)
    (halone : s.disk.LeavesAlone
      (Disk.target host.cwd.parts (settingsPath projectDir config)) s₁.disk)
    (hsettled : config = none → s.disk.IsSettled host.cwd.parts (projectDir / fileName)) :
    (load loader projectDir config).result host s₁ = .ok l := by
  cases hfound : (Job.isFile (settingsPath projectDir config)).result host s with
  | error f =>
    unfold load at h
    dsimp only at h
    rw [result_bind, hfound] at h
    cases h
  | ok found =>
    cases found with
    | true =>
      obtain ⟨hnul, hfile⟩ := Job.result_isFile_eq_ok_true.1 hfound
      obtain ⟨content, hfind⟩ := Disk.find_of_isFile hfile
      rw [(load_of_holds (holds_of_find hnul hfind)).1] at h
      rw [(load_of_holds (holds_of_find hnul (halone.find hfind))).1, result_ofLoaded_congr, h]
    | false =>
      rw [(load_of_not_isFile hfound).1] at h
      cases config with
      | some path => cases h
      | none =>
        have hagain := not_isFile_again hfound halone (Path.name?_div (by decide +kernel))
          (by decide) (by decide) (hsettled rfl)
        rw [(load_of_not_isFile hagain).1]
        exact h

end Layout

end CrossBuild
