-- A failed run leaves no bindings. The bindings of an earlier run are removed first,
-- no step before the last one brings a file to their place, and the last step, the
-- move of the finished file, is either done or changes nothing.
import CrossBuild.Proofs.BuildSteps
import CrossBuild.Proofs.Disks

namespace CrossBuild

open Job

variable {host : Host} {s s' : Session} {t : Target} {l : Layout} {loc : Location}

/-! ## Files that tools write -/

/-- None of the tools that are started among the events after a session writes the file of a
path. -/
def Spares (host : Host) (s : Session) (events : List Event) (p : Path) : Prop :=
  ∀ before call after, events = before ++ .started call :: after →
    ∀ w ∈ writtenOn host (callsOf s.log ++ callsOf before) call,
      Path.resolve host.cwd (host.cwd / call.folder.getD .here / w.1) ≠ Path.resolve host.cwd p

theorem Spares.left {events later : List Event} {p : Path}
    (h : Spares host s (events ++ later) p) : Spares host s events p := by
  rintro before call after rfl
  exact h before call (after ++ later) (by simp)

theorem Spares.right {events later : List Event} {p : Path} (hlog : s'.log = s.log ++ events)
    (h : Spares host s (events ++ later) p) : Spares host s' later p := by
  rintro before call after rfl
  have hother := h (events ++ before) call after (by simp)
  rwa [callsOf_append, ← List.append_assoc, ← callsOf_append, ← hlog] at hother

/-- A file after tools have written theirs was there before, unless it is one of those. -/
theorem holdsFile_of_writeAll {cwd : Location} {base : Path} {written : List (Path × String)}
    {d : Disk} (h : (writeAll cwd base written d).1.HoldsFile loc) :
    d.HoldsFile loc ∨ ∃ w ∈ written, Disk.target cwd (base / w.1) = loc := by
  induction written generalizing d with
  | nil => exact Or.inl h
  | cons w rest ih =>
    obtain ⟨p, text⟩ := w
    unfold writeAll at h
    dsimp only at h
    have hfolders {d' : Disk} {outcome : Except ErrorCode Unit}
        (he : d.ensureFolders cwd (base / p).parent = (d', outcome)) (hd' : d'.HoldsFile loc) :
        d.HoldsFile loc := Disk.holdsFile_of_ensureFolders (by rw [he]; exact hd')
    split at h
    · rename_i d' code he
      exact Or.inl (hfolders he h)
    · rename_i d' he
      split at h
      · exact Or.inl (hfolders he h)
      · rename_i d'' hwrite
        rcases ih h with h | ⟨w, hw, hloc⟩
        · rcases Disk.holdsFile_of_write hwrite h with h | rfl
          · exact Or.inl (hfolders he h)
          · exact Or.inr ⟨(p, text), List.mem_cons_self, rfl⟩
        · exact Or.inr ⟨w, List.mem_cons_of_mem _ hw, hloc⟩

/-! ## What brings no file -/

/-- Between two sessions no file comes up at the place of a path, unless a tool writes it. -/
def BringsNone (host : Host) (p : Path) (s s' : Session) : Prop :=
  ∃ events, s'.log = s.log ++ events ∧
    (Spares host s events p → s'.disk.HoldsFile (Disk.target host.cwd.parts p) →
      s.disk.HoldsFile (Disk.target host.cwd.parts p))

theorem BringsNone.refl (p : Path) (s : Session) : BringsNone host p s s :=
  ⟨[], by simp, fun _ h => h⟩

theorem BringsNone.trans {p : Path} {s₁ s₂ s₃ : Session} (h : BringsNone host p s₁ s₂)
    (h' : BringsNone host p s₂ s₃) : BringsNone host p s₁ s₃ := by
  obtain ⟨events, hlog, hfile⟩ := h
  obtain ⟨events', hlog', hfile'⟩ := h'
  refine ⟨events ++ events', by rw [hlog', hlog, List.append_assoc], fun hspares hholds => ?_⟩
  exact hfile hspares.left (hfile' (hspares.right hlog) hholds)

/-- Actions other than the move of a file. -/
def NoRename (a : Action) : Prop := ∀ p q, a ≠ .rename p q

/-- Only a move or a tool brings a file. -/
theorem bringsNone_after {a : Action} (ha : NoRename a) (p : Path) (s : Session) :
    BringsNone host p s (a.after host s) := by
  refine ⟨a.event?.toList, Action.log_after host s a, ?_⟩
  intro hspares hholds
  cases a with
  | record e h => exact hholds
  | start call =>
    simp only [Action.after, left_start] at hholds
    rcases holdsFile_of_writeAll hholds with hholds | ⟨w, hw, htarget⟩
    · exact hholds
    · have hother := hspares [] call [] rfl w (by simpa [callsOf] using hw)
      refine (hother (Path.ext rfl ?_)).elim
      rw [Disk.parts_resolve, Disk.parts_resolve, htarget]
  | ensureFolders q =>
    simp only [Action.after, left_ensureFolders] at hholds
    split at hholds
    · exact hholds
    · exact Disk.holdsFile_of_ensureFolders hholds
  | removeFile q =>
    simp only [Action.after, left_removeFile] at hholds
    split at hholds
    · exact hholds
    · split at hholds
      · rename_i d hunlink
        rw [(Disk.eq_erase_of_unlink hunlink).1] at hholds
        exact Disk.holdsFile_of_erase hholds
      · exact hholds
  | rename q q' => exact absurd rfl (ha q q')

theorem bringsNone_of_within {α : Type} {j : Job α} (h : Within NoRename j host s) (p : Path) :
    BringsNone host p s (j.left host s) := by
  refine Within.keeps h (BringsNone.refl p) (fun _ _ _ => BringsNone.trans) ?_
  intro a ha s
  refine bringsNone_after ?_ p s
  rcases ha with ha | ha
  · rintro q q' rfl
    cases ha
  · exact ha

/-! ## The removal of old bindings -/

/-- A removal that succeeds leaves no file. -/
theorem not_holdsFile_of_removeFile {p : Path} {name : String} (hname : p.name? = some name)
    (hdots : ".." ∉ Disk.base host.cwd.parts p ++ p.parts)
    (h : (removeFile p).result host s = .ok ()) :
    ¬((removeFile p).left host s).disk.HoldsFile (Disk.target host.cwd.parts p) := by
  rw [result_removeFile] at h
  rw [left_removeFile]
  cases hnul : p.hasNul with
  | true => simp [hnul] at h
  | false =>
    simp only [hnul, Bool.false_eq_true, if_false] at h ⊢
    cases hunlink : s.disk.unlink host.cwd.parts p with
    | ok d =>
      obtain ⟨rfl, hne, -⟩ := Disk.eq_erase_of_unlink hunlink
      exact Disk.not_holdsFile_of_erase hne
    | error code =>
      simp only [hunlink] at h
      split at h
      · cases h
      · rename_i hcode
        rw [Decidable.of_not_not hcode] at hunlink
        rintro ⟨content, hat⟩
        rw [Disk.at?_of_unlink hname hdots hunlink] at hat
        cases hat

/-- A removal that fails finds no file either. -/
theorem not_isFile_of_removeFile {p : Path} {name : String} {f : Failure}
    (hname : p.name? = some name) (hdots : name ≠ "..")
    (h : (removeFile p).result host s = .error f) :
    (Job.isFile p).result host ((removeFile p).left host s) ≠ .ok true := by
  intro hfile
  obtain ⟨hnul, hfile⟩ := result_isFile_eq_ok_true.1 hfile
  rw [result_removeFile] at h
  rw [left_removeFile] at hfile
  simp only [hnul, Bool.false_eq_true, if_false] at h hfile
  cases hunlink : s.disk.unlink host.cwd.parts p with
  | ok d => simp [hunlink] at h
  | error code =>
    simp only [hunlink] at hfile
    obtain ⟨d, hd⟩ := Disk.exists_unlink_of_isFile hname hdots hfile
    rw [hd] at hunlink
    cases hunlink

namespace Pipeline

open Bindings

/-! ## Failed runs -/

theorem noRename_untilBindings : Within NoRename (untilBindings t l) host s := by
  apply within_untilBindings
  · nofun
  · intro s
    apply within_link
    · nofun
    · nofun
    · nofun
    · intro c s _
      apply Native.within_buildWith <;> nofun
    · nofun
    · nofun

theorem noRename_writeTemporary {root : Path} :
    Within NoRename (writeTemporary t l root) host s := by
  apply within_writeTemporary <;> nofun

/-- Whatever fails after the old bindings are gone brings no file to their place. -/
theorem bringsNone_of_error {root : Path} {f : Failure} (p : Path)
    (h : (untilBindings t l >>= fun _ => generate t l root).result host s = .error f) :
    BringsNone host p s ((untilBindings t l >>= fun _ => generate t l root).left host s) := by
  have huntil : BringsNone host p s ((untilBindings t l).left host s) :=
    bringsNone_of_within noRename_untilBindings p
  cases hresult : (untilBindings t l).result host s with
  | error f' =>
    rw [left_bind_of_error hresult]
    exact huntil
  | ok u =>
    rw [result_bind_of_ok hresult] at h
    rw [left_bind_of_ok hresult, left_generate_of_error h]
    exact huntil.trans (bringsNone_of_within noRename_writeTemporary p)

/-- A run that fails leaves no bindings, neither its own nor those of an earlier run. Their folder,
seen from the folder the run works in, has no `..` in it: such a path could lead nowhere at first
and to a file once its folders are there. -/
theorem a_failed_run_leaves_no_bindings (host : Host) (s : Session) (t : Target) (l : Layout)
    (f : Failure) (hname : isPathPart l.bindingsFile = true) (hdots : l.bindingsFile ≠ "..")
    (hfolder : ".." ∉ (host.cwd / t.outDir).parts)
    (htools : Spares host s ((run t l).events host s) (outputPath t l))
    (hfailed : (run t l).result host s = .error f) :
    (Job.isFile (outputPath t l)).result host ((run t l).left host s) ≠ .ok true := by
  obtain ⟨hanchor, hparts⟩ := Path.div_part t.outDir hname
  have hlast : (outputPath t l).name? = some l.bindingsFile := by
    unfold Path.name? outputPath
    rw [hparts, List.getLast?_concat]
  have hway : ".." ∉ Disk.base host.cwd.parts (outputPath t l) ++ (outputPath t l).parts := by
    have hbase : Disk.base host.cwd.parts (outputPath t l) = Disk.base host.cwd.parts t.outDir := by
      unfold Disk.base Path.isAbsolute outputPath
      rw [hanchor]
    unfold outputPath at hbase ⊢
    rw [hbase, hparts, ← List.append_assoc, ← Disk.parts_div, List.mem_append, not_or]
    exact ⟨hfolder, by simpa using Ne.symm hdots⟩
  rw [run_eq_removeFile] at htools hfailed ⊢
  cases hremoved : (removeFile (outputPath t l)).result host s with
  | error f' =>
    rw [left_bind_of_error hremoved]
    exact not_isFile_of_removeFile hlast hdots hremoved
  | ok u =>
    have hnone := not_holdsFile_of_removeFile hlast hway hremoved
    rw [result_bind_of_ok hremoved] at hfailed
    obtain ⟨events, hlog, hbrings⟩ := bringsNone_of_error (outputPath t l) hfailed
    intro hfile
    rw [left_bind_of_ok hremoved] at hfile
    refine hnone (hbrings ?_ (Disk.holdsFile_of_isFile (result_isFile_eq_ok_true.1 hfile).2))
    have hremovedLog : ((removeFile (outputPath t l)).left host s).log = s.log ++ [] :=
      Action.log_after host s (.removeFile (outputPath t l))
    unfold Job.events at htools
    rw [left_bind_of_ok hremoved, hlog, hremovedLog, List.append_nil, List.drop_left] at htools
    exact Spares.right hremovedLog htools

/-- A machine on which the generator writes a part of its file and gives up. -/
def brokenGenerator : Host where
  cwd := .ofString "/"
  tools _ call :=
    .ended (if call.program = "bindgen" then
        { code := 1, written := [(.ofString "/out/bindings.rs.tmp", "half")] }
      else {})

/-- A disk with the bindings of an earlier run. -/
def usedDisk : Disk := ⟨.folder [("out", .folder [("bindings.rs", .file "old".toUTF8)])]⟩

/-- The bindings of an earlier run are gone after a run whose generator gives up. -/
theorem old_bindings_are_gone_after_a_failure :
    (Job.isFile (outputPath linuxTarget .default)).result brokenGenerator { disk := usedDisk } =
        .ok true ∧
      (Job.isFile (outputPath linuxTarget .default)).result brokenGenerator
        ((run linuxTarget .default).left brokenGenerator { disk := usedDisk }) ≠ .ok true := by
  refine ⟨rfl, ?_⟩
  have hresult : ((run linuxTarget .default).result brokenGenerator { disk := usedDisk }).isOk =
      false := by decide +kernel
  cases hfailed : (run linuxTarget .default).result brokenGenerator { disk := usedDisk } with
  | ok path =>
    rw [hfailed] at hresult
    cases hresult
  | error f =>
    refine a_failed_run_leaves_no_bindings brokenGenerator { disk := usedDisk } linuxTarget
      .default f (by decide) (by decide) (by decide) ?_ hfailed
    rintro before call after - w hw
    replace hw := mem_written_of_mem_writtenOn hw
    change w ∈ Exit.written (if call.program = "bindgen" then _ else _) at hw
    split at hw
    · have habsolute (folder : Path) : folder / Path.ofString "/out/bindings.rs.tmp" =
          Path.ofString "/out/bindings.rs.tmp" := rfl
      rw [List.mem_singleton.1 hw, habsolute]
      decide +kernel
    · cases hw

end Pipeline

end CrossBuild
