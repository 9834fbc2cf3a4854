-- What is done a second time on a disk. Folders that have been made are found, files
-- that have been written can be written again, and a disk that has more on it refuses
-- what a disk with less on it refuses.
import CrossBuild.Proofs.DiskContents

namespace CrossBuild

/-! ## The tree -/

namespace Entry

variable {e new : Entry} {loc loc' rest : Location}

theorem at?_put_below (new e : Entry) (loc rest : Location) :
    (put new e loc).at? (loc ++ rest) = new.at? rest := by
  rw [at?_append, at?_put_self]
  rfl

/-- What is erased changes nothing beside the way there. -/
theorem at?_erase_beside (h : ¬loc' <+: loc) (h' : ¬loc <+: loc') :
    (e.erase loc').at? loc = e.at? loc := by
  induction loc' generalizing e loc with
  | nil => exact absurd List.nil_prefix h
  | cons name rest' ih =>
    cases loc with
    | nil => exact absurd List.nil_prefix h'
    | cons other rest =>
      rw [at?_cons, at?_cons, lookup_children_erase]
      by_cases hname : other = name
      · subst hname
        rw [List.cons_prefix_cons, not_and] at h h'
        rw [if_pos rfl]
        cases rest' with
        | nil => exact absurd List.nil_prefix (h rfl)
        | cons next rest' =>
          cases e.children.lookup other with
          | none => rfl
          | some child => exact ih (h rfl) (h' rfl)
      · rw [if_neg hname]

/-- Nothing is below an entry that is no folder. -/
theorem not_prefix_of_not_folder {found : Entry}
    (h : ∀ children, e.at? loc ≠ some (.folder children)) (hfound : e.at? loc' = some found)
    (hne : loc' ≠ loc) : ¬loc <+: loc' := by
  rintro ⟨rest, rfl⟩
  cases rest with
  | nil => exact hne (List.append_nil loc)
  | cons name rest =>
    obtain ⟨children, hfolder⟩ := folder_of_at?_append hfound
    exact h children hfolder

end Entry

/-- The first step of a walk that comes to an end. -/
theorem Spot.On.first {root : Entry} {s r : Spot} {part : String} {rest : List String}
    (hs : On root s) (h : s.follow (part :: rest) = .ok r) :
    ∃ s', On root s' ∧ s'.above.map (·.1) = Path.stepBack (s.above.map (·.1)) part ∧
      s'.follow rest = .ok r := by
  have hsplit := Spot.follow_append s [part] rest
  rw [List.singleton_append, h] at hsplit
  cases hstep : s.follow [part] with
  | error code => rw [hstep] at hsplit; cases hsplit
  | ok s' =>
    rw [hstep] at hsplit
    obtain ⟨hs', hnames⟩ := hs.follow hstep
    exact ⟨s', hs', hnames, hsplit.symm⟩

namespace Disk

variable {d d' d'' : Disk} {cwd loc folder : Location} {name : String} {e : Option Entry} {p : Path}
  {content : ByteArray}

/-! ## Ways -/

/-- The locations that a walk comes through, over the parts gone down so far in reverse. -/
def stops (gone : List String) : List String → List Location
  | [] => [gone.reverse]
  | part :: rest => gone.reverse :: stops (Path.stepBack gone part) rest

/-- The locations on the way of a path, from the root to where it leads. -/
def way (cwd : Location) (p : Path) : List Location := stops [] (base cwd p ++ p.parts)

theorem stops_append_subset (gone parts rest : List String) :
    stops gone parts ⊆ stops gone (parts ++ rest) := by
  induction parts generalizing gone with
  | nil =>
    cases rest with
    | nil => exact List.Subset.refl _
    | cons part rest => simp [stops]
  | cons part parts ih => exact List.cons_subset_cons _ (ih _)

theorem foldl_stepBack_mem_stops (gone parts : List String) :
    (parts.foldl Path.stepBack gone).reverse ∈ stops gone parts := by
  induction parts generalizing gone with
  | nil => exact List.mem_singleton.2 rfl
  | cons part parts ih => exact List.mem_cons_of_mem _ (ih _)

theorem target_mem_way (cwd : Location) (p : Path) : target cwd p ∈ way cwd p :=
  foldl_stepBack_mem_stops _ _

theorem way_parent_subset (cwd : Location) (p : Path) : way cwd p.parent ⊆ way cwd p := by
  have hparts : p.parts = p.parts.dropLast ++ p.parts.getLast?.toList := by
    rcases List.eq_nil_or_concat p.parts with h | ⟨init, last, h⟩ <;> simp [h]
  unfold way
  conv => rhs; rw [hparts, ← List.append_assoc]
  exact stops_append_subset _ _ _

/-- The way to a path without two dots is the way down to it. -/
theorem prefix_of_mem_stops {gone parts : List String} (hdots : ".." ∉ parts)
    (h : loc ∈ stops gone parts) : loc <+: gone.reverse ++ parts := by
  induction parts generalizing gone with
  | nil => simp [stops] at h; simp [h]
  | cons part rest ih =>
    rw [List.mem_cons, not_or] at hdots
    rcases List.mem_cons.1 h with rfl | h
    · exact List.prefix_append _ _
    · have hunder := ih hdots.2 h
      rw [Path.stepBack, if_neg (Ne.symm hdots.1)] at hunder
      simpa using hunder

theorem prefix_target_of_mem_way (hdots : ".." ∉ base cwd p ++ p.parts) (h : loc ∈ way cwd p) :
    loc <+: target cwd p := by
  rw [target_of_not_mem hdots]
  exact prefix_of_mem_stops hdots h

/-! ## Growth -/

/-- There is a folder at a location. -/
def HoldsFolder (d : Disk) (loc : Location) : Prop :=
  ∃ children, d.at? loc = some (.folder children)

instance (d : Disk) (loc : Location) : Decidable (d.HoldsFolder loc) :=
  match h : d.at? loc with
  | some (.file content) => isFalse (by simp [HoldsFolder, h])
  | some (.folder children) => isTrue ⟨children, h⟩
  | none => isFalse (by simp [HoldsFolder, h])

/-- Above a folder there are folders. -/
theorem HoldsFolder.of_prefix (h : d.HoldsFolder loc) (habove : folder <+: loc) :
    d.HoldsFolder folder := by
  obtain ⟨children, hat⟩ := h
  obtain ⟨rest, rfl⟩ := habove
  cases rest with
  | nil => exact ⟨children, by rwa [List.append_nil] at hat⟩
  | cons name rest => exact Entry.folder_of_at?_append hat

theorem HoldsFile.not_holdsFolder (h : d.HoldsFile loc) : ¬d.HoldsFolder loc := by
  rintro ⟨children, hfolder⟩
  obtain ⟨content, hfile⟩ := h
  rw [hfile] at hfolder
  cases hfolder

theorem KeepsFolders.trans (h : d.KeepsFolders d') (h' : d'.KeepsFolders d'') :
    d.KeepsFolders d'' :=
  fun loc children hloc => (h loc children hloc).elim fun _ => h' loc _

/-- What becomes of a disk when nothing is done to it but that files are written at some
locations and folders are made at others. -/
structure Grows (written made : List Location) (d d' : Disk) : Prop where
  folders : d.KeepsFolders d'
  files : ∀ loc, d.HoldsFile loc → d'.HoldsFile loc
  newFile : ∀ loc, d'.HoldsFile loc → d.HoldsFile loc ∨ loc ∈ written
  newFolder : ∀ loc, d'.HoldsFolder loc → d.HoldsFolder loc ∨ loc ∈ made
  /-- A folder below which nothing is touched is the same with all that is in it. -/
  beside : ∀ root children, d.at? root = some (.folder children) →
    (∀ loc ∈ written ++ made, root <+: loc → loc = root) → d'.at? root = some (.folder children)

namespace Grows

variable {written made written' made' : List Location}

theorem refl (d : Disk) : Grows written made d d where
  folders _ children h := ⟨children, h⟩
  files _ h := h
  newFile _ h := Or.inl h
  newFolder _ h := Or.inl h
  beside _ _ h _ := h

theorem trans (h : Grows written made d d') (h' : Grows written made d' d'') :
    Grows written made d d'' where
  folders := h.folders.trans h'.folders
  files loc hloc := h'.files loc (h.files loc hloc)
  newFile loc hloc := (h'.newFile loc hloc).elim (h.newFile loc) Or.inr
  newFolder loc hloc := (h'.newFolder loc hloc).elim (h.newFolder loc) Or.inr
  beside root children hroot hbelow :=
    h'.beside root children (h.beside root children hroot hbelow) hbelow

theorem mono (h : Grows written made d d') (hwritten : written ⊆ written') (hmade : made ⊆ made') :
    Grows written' made' d d' where
  folders := h.folders
  files := h.files
  newFile loc hloc := (h.newFile loc hloc).imp_right fun hmem => hwritten hmem
  newFolder loc hloc := (h.newFolder loc hloc).imp_right fun hmem => hmade hmem
  beside root children hroot hbelow := h.beside root children hroot fun loc hloc =>
    hbelow loc (List.append_subset.2 ⟨List.subset_append_of_subset_left _ hwritten,
      List.subset_append_of_subset_right _ hmade⟩ hloc)

end Grows

/-- A folder after something has been put at a place was there before or is part of it. -/
theorem holdsFolder_of_put {new : Entry} (h : d.place cwd p = .ok (.named folder name e))
    (hloc : (d.put (folder ++ [name]) new).HoldsFolder loc) :
    d.HoldsFolder loc ∨
      ∃ rest children, loc = target cwd p ++ rest ∧ new.at? rest = some (.folder children) := by
  obtain ⟨children, hloc⟩ := hloc
  rw [← (target_of_place h).1]
  by_cases hbelow : folder ++ [name] <+: loc
  · obtain ⟨rest, rfl⟩ := hbelow
    exact Or.inr ⟨rest, children, rfl, (Entry.at?_put_below _ _ _ _).symm.trans hloc⟩
  · refine Or.inl ?_
    by_cases habove : loc <+: folder ++ [name]
    · rcases List.prefix_concat_iff.1 habove with rfl | habove
      · exact absurd List.prefix_rfl hbelow
      · exact HoldsFolder.of_prefix (folder_of_place h) habove
    · exact ⟨children, (Entry.at?_put_beside hbelow habove).symm.trans hloc⟩

section

variable {new : Entry} {written made : List Location}

/-- A disk grows when a file or an empty folder is put at a place that no folder has. -/
theorem grows_put (h : d.place cwd p = .ok (.named folder name e))
    (he : ∀ children, e ≠ some (.folder children))
    (hold : ∀ content, e = some (.file content) → ∃ content, new = .file content)
    (hfile : ∀ rest content, new.at? rest = some (.file content) → target cwd p ++ rest ∈ written)
    (hfolder : ∀ rest children, new.at? rest = some (.folder children) →
      target cwd p ++ rest ∈ made) :
    Grows written made d (d.put (folder ++ [name]) new) := by
  obtain ⟨htarget, hat⟩ := target_of_place h
  have hnot {loc : Location} {found : Entry} (hloc : d.at? loc = some found)
      (hne : loc ≠ target cwd p) : ¬target cwd p <+: loc :=
    Entry.not_prefix_of_not_folder
      (fun children hchildren => he children (hat.symm.trans hchildren)) hloc hne
  have hne {loc : Location} {children : List (String × Entry)}
      (hloc : d.at? loc = some (.folder children)) : loc ≠ target cwd p := by
    rintro rfl
    exact he children (hat.symm.trans hloc)
  have hself : (d.put (folder ++ [name]) new).at? (target cwd p) = some new := by
    rw [← htarget]
    exact Entry.at?_put_self _ _ _
  constructor
  · intro loc children hloc
    rw [htarget]
    exact Entry.folder_of_put hloc (hnot hloc (hne hloc))
  · rintro loc ⟨content, hloc⟩
    by_cases heq : loc = target cwd p
    · subst heq
      obtain ⟨content', rfl⟩ := hold content (hat.symm.trans hloc)
      exact ⟨content', hself⟩
    · exact ⟨content, file_of_put h he hloc heq⟩
  · rintro loc ⟨content, hloc⟩
    rcases Entry.at?_put hloc with hloc | ⟨rest, rfl, hnew⟩
    · exact Or.inl ⟨content, hloc⟩
    · rw [htarget]
      exact Or.inr (hfile rest content hnew)
  · intro loc hloc
    rcases holdsFolder_of_put h hloc with hloc | ⟨rest, children, rfl, hnew⟩
    · exact Or.inl hloc
    · exact Or.inr (hfolder rest children hnew)
  · intro root children hroot hbelow
    have hmem : target cwd p ∈ written ++ made := by
      cases new with
      | file content => simpa using Or.inl (hfile [] content rfl)
      | folder children => simpa using Or.inr (hfolder [] children rfl)
    rw [htarget]
    refine (Entry.at?_put_beside (hnot hroot (hne hroot)) fun hunder => ?_).trans hroot
    exact hne hroot (hbelow _ hmem hunder).symm

theorem grows_put_file (h : d.place cwd p = .ok (.named folder name e))
    (he : ∀ children, e ≠ some (.folder children)) (content : ByteArray) :
    Grows [target cwd p] [] d (d.put (folder ++ [name]) (.file content)) := by
  refine grows_put h he (fun _ _ => ⟨content, rfl⟩) ?_ ?_
  · intro rest content' hnew
    cases rest with
    | nil => simp
    | cons name' rest => simp [Entry.at?_cons, Entry.children] at hnew
  · intro rest children hnew
    cases rest <;> simp [Entry.at?_cons, Entry.children] at hnew

theorem grows_write (h : d.write cwd p content = .ok d') : Grows [target cwd p] [] d d' := by
  obtain ⟨folder, name, e, hplace, he, rfl⟩ := place_of_write h
  exact grows_put_file hplace he content

theorem grows_ensureFolder (h : d.ensureFolder cwd p = .ok d') : Grows [] [target cwd p] d d' := by
  rcases makeFolder_of_ensureFolder h with hmade | ⟨rfl, -⟩
  · obtain ⟨folder, name, hplace, rfl⟩ := place_of_makeFolder hmade
    refine grows_put hplace nofun nofun ?_ ?_
    · intro rest content hnew
      exact absurd hnew not_file_below_folder
    · intro rest children hnew
      cases rest <;> simp [Entry.at?_cons, Entry.children] at hnew ⊢
  · exact Grows.refl d'

/-- Folders are made on the way only. -/
theorem grows_ensureFolders (d : Disk) (cwd : Location) (p : Path) :
    Grows [] (way cwd p) d (d.ensureFolders cwd p).1 := by
  have hself {d d' : Disk} {p : Path} (h : d.ensureFolder cwd p = .ok d') :
      Grows [] (way cwd p) d d' :=
    (grows_ensureFolder h).mono (List.Subset.refl _)
      (List.cons_subset.2 ⟨target_mem_way cwd p, List.nil_subset _⟩)
  have hparent {d d' : Disk} {p : Path} (h : Grows [] (way cwd p.parent) d d') :
      Grows [] (way cwd p) d d' := h.mono (List.Subset.refl _) (way_parent_subset cwd p)
  fun_induction ensureFolders d cwd p with
  | case1 p d' h => exact hself h
  | case2 p code h hmissing d₁ hmade d₂ hfolder ih =>
    rw [hmade] at ih
    exact (hparent ih).trans (hself hfolder)
  | case3 p code h hmissing d₁ hmade code' hfolder ih =>
    rw [hmade] at ih
    exact hparent ih
  | case4 p code h hmissing d₁ code' hmade ih =>
    rw [hmade] at ih
    exact hparent ih
  | case5 p code h hother => exact Grows.refl _

end

/-! ## Doing it again -/

section

variable {s r : Spot} {parts : List String} {children : List (String × Entry)}

theorem find_eq (d : Disk) (cwd : Location) (p : Path) :
    d.find cwd p =
      if longestPath < p.text.utf8ByteSize then .error .nameTooLong
      else Spot.entry <$> Spot.follow ⟨d.root, []⟩ (base cwd p ++ p.parts) := by
  have hspot := start_bind_follow d cwd p p.parts
  unfold find spot
  rw [hspot]
  split
  · rfl
  · cases Spot.follow ⟨d.root, []⟩ (base cwd p ++ p.parts) <;> rfl

/-- A folder that is found is where a walk leads that is not too long. -/
theorem find_eq_folder_iff :
    d.find cwd p = .ok (.folder children) ↔ p.text.utf8ByteSize ≤ longestPath ∧
      ∃ r, Spot.follow ⟨d.root, []⟩ (base cwd p ++ p.parts) = .ok r ∧
        r.entry = .folder children := by
  rw [find_eq, ← Nat.not_lt]
  split
  · simp [*]
  · cases Spot.follow ⟨d.root, []⟩ (base cwd p ++ p.parts) <;> simp [*, Functor.map, Except.map]

theorem KeepsFolders.find (hkeeps : d.KeepsFolders d')
    (h : d.find cwd p = .ok (.folder children)) :
    ∃ children, d'.find cwd p = .ok (.folder children) := by
  obtain ⟨hshort, r, hwalk, hr⟩ := find_eq_folder_iff.1 h
  obtain ⟨r', hwalk', children', hr'⟩ := hkeeps.follow .root .root rfl hwalk hr
  exact ⟨children', find_eq_folder_iff.2 ⟨hshort, r', hwalk', hr'⟩⟩

/-- What is found is at a place, unless the path has no name of its own. -/
theorem place_of_find {found : Entry} (h : d.find cwd p = .ok found) :
    d.place cwd p = .ok .unnamed ∨
      ∃ folder name, d.place cwd p = .ok (.named folder name (some found)) := by
  unfold find spot at h
  cases hstart : d.start cwd p with
  | error code => rw [hstart] at h; cases h
  | ok s =>
    rw [hstart] at h
    change (s.follow p.parts >>= fun r => pure r.entry) = _ at h
    cases hname : p.name? with
    | none =>
      refine Or.inl ?_
      unfold place
      rw [hstart, hname]
      rfl
    | some name =>
      rw [parts_eq_append hname, Spot.follow_append] at h
      cases hwalk : s.follow p.parts.dropLast with
      | error code => rw [hwalk] at h; cases h
      | ok f =>
        rw [hwalk] at h
        change (f.follow [name] >>= fun r => pure r.entry) = _ at h
        by_cases hdots : name = ".."
        · subst hdots
          refine Or.inl ?_
          rw [Spot.follow_up] at h
          cases hchildren : f.children with
          | error code => rw [hchildren] at h; cases h
          | ok children =>
            unfold place
            simp only [hstart, hname, bind, Except.bind, hwalk, hchildren, if_true]
        · rw [Spot.follow_down hdots] at h
          refine Or.inr ⟨f.location, name, ?_⟩
          rw [place_eq hname hdots, hstart]
          cases hchild : f.child? name with
          | error code => rw [hchild] at h; cases h
          | ok e =>
            rw [hchild] at h
            cases e with
            | none => cases h
            | some e =>
              cases h
              simp only [bind, Except.bind, hwalk, hchild]

theorem ensureFolder_of_find (h : d.find cwd p = .ok (.folder children)) :
    d.ensureFolder cwd p = .ok d := by
  have hmake : d.makeFolder cwd p = .error .alreadyExists := by
    unfold makeFolder
    rcases place_of_find h with hplace | ⟨folder, name, hplace⟩ <;> rw [hplace] <;> rfl
  have hfolder : d.isFolder cwd p = .ok true := by
    unfold isFolder find?
    rw [h]
    rfl
  unfold ensureFolder
  rw [hmake, hfolder]
  rfl

/-- Folders that are there are not made. -/
theorem ensureFolders_of_find (h : d.find cwd p = .ok (.folder children)) :
    d.ensureFolders cwd p = (d, .ok ()) := by
  unfold ensureFolders
  rw [ensureFolder_of_find h]

theorem find_of_isFolder (h : d.isFolder cwd p = .ok true) :
    ∃ children, d.find cwd p = .ok (.folder children) := by
  unfold isFolder find? at h
  cases hfind : d.find cwd p with
  | error code =>
    rw [hfind] at h
    dsimp only at h
    split at h <;> cases h
  | ok found =>
    rw [hfind] at h
    cases found with
    | file content => cases h
    | folder children => exact ⟨children, rfl⟩

theorem find_of_ensureFolder (h : d.ensureFolder cwd p = .ok d') :
    ∃ children, d'.find cwd p = .ok (.folder children) := by
  have hgrows := grows_ensureFolder h
  rcases makeFolder_of_ensureFolder h with hmade | ⟨rfl, hfolder⟩
  · obtain ⟨folder, name, hplace, rfl⟩ := place_of_makeFolder hmade
    have hplaced := hgrows.folders.place hplace
    have hself :
        (d.put (folder ++ [name]) (.folder [])).at? (target cwd p) = some (.folder []) := by
      rw [← (target_of_place hplace).1]
      exact Entry.at?_put_self _ _ _
    rw [hself] at hplaced
    exact ⟨[], find_of_place hplaced⟩
  · exact find_of_isFolder hfolder

/-- Folders that have been made are there. -/
theorem find_of_ensureFolders (h : (d.ensureFolders cwd p).2 = .ok ()) :
    ∃ children, (d.ensureFolders cwd p).1.find cwd p = .ok (.folder children) := by
  fun_induction ensureFolders d cwd p with
  | case1 p d' hfolder => exact find_of_ensureFolder hfolder
  | case2 p code hcode hmissing d₁ hmade d₂ hfolder ih => exact find_of_ensureFolder hfolder
  | case3 | case4 | case5 => cases h

/-- A walk to a folder comes through folders. -/
theorem holdsFolder_of_mem_stops (hs : Spot.On d.root s) (hfollow : s.follow parts = .ok r)
    (hr : r.entry = .folder children) (hloc : loc ∈ stops (s.above.map (·.1)) parts) :
    d.HoldsFolder loc := by
  induction parts generalizing s with
  | nil =>
    cases hfollow
    rw [List.mem_singleton.1 hloc]
    exact ⟨children, hr ▸ hs.at?_location⟩
  | cons part rest ih =>
    rcases List.mem_cons.1 hloc with rfl | hloc
    · obtain ⟨here, hhere⟩ := Spot.folder_of_follow hfollow hr
      exact ⟨here, hhere ▸ hs.at?_location⟩
    · obtain ⟨s', hs', hnames, hrest⟩ := hs.first hfollow
      exact ih hs' hrest (hnames ▸ hloc)

theorem holdsFolder_of_mem_way (h : d.find cwd p = .ok (.folder children))
    (hloc : loc ∈ way cwd p) : d.HoldsFolder loc := by
  obtain ⟨-, r, hwalk, hr⟩ := find_eq_folder_iff.1 h
  exact holdsFolder_of_mem_stops .root hwalk hr hloc

/-- A file that has been written can be written wherever folders are kept and no folder has taken
its place. -/
theorem KeepsFolders.write (hkeeps : d.KeepsFolders d') {d₁ : Disk}
    (h : d.write cwd p content = .ok d₁) (hfolder : ¬d'.HoldsFolder (target cwd p)) :
    ∃ d₂, d'.write cwd p content = .ok d₂ := by
  obtain ⟨folder, name, e, hplace, -, -⟩ := place_of_write h
  unfold Disk.write
  rw [hkeeps.place hplace]
  cases hat : d'.at? (target cwd p) with
  | none => exact ⟨_, rfl⟩
  | some found =>
    cases found with
    | file content => exact ⟨_, rfl⟩
    | folder children => exact absurd ⟨children, hat⟩ hfolder

end

/-! ## Disks with less on them -/

/-- A path whose way nothing blocks: no name is too long, and no file stands in a folder's place. -/
structure Passable (d : Disk) (cwd : Location) (p : Path) : Prop where
  short : p.text.utf8ByteSize ≤ longestPath
  names : ∀ name ∈ base cwd p ++ p.parts, name = ".." ∨ name.utf8ByteSize ≤ longestName
  unblocked : ∀ loc ∈ way cwd p, ¬d.HoldsFile loc

section

variable {s r : Spot} {parts : List String} {children : List (String × Entry)}

theorem folder_of_unblocked (hs : Spot.On d.root s) (h : ¬d.HoldsFile s.location) :
    ∃ children, s.entry = .folder children := by
  cases hentry : s.entry with
  | folder children => exact ⟨children, rfl⟩
  | file content => exact absurd ⟨content, hentry ▸ hs.at?_location⟩ h

/-- A walk that nothing blocks comes to a folder or misses one. -/
theorem follow_of_unblocked (hs : Spot.On d.root s)
    (hnames : ∀ name ∈ parts, name = ".." ∨ name.utf8ByteSize ≤ longestName)
    (hopen : ∀ loc ∈ stops (s.above.map (·.1)) parts, ¬d.HoldsFile loc) :
    (∃ r children, s.follow parts = .ok r ∧ r.entry = .folder children) ∨
      s.follow parts = .error .noEntry := by
  induction parts generalizing s with
  | nil =>
    obtain ⟨children, hentry⟩ := folder_of_unblocked hs (hopen _ (List.mem_singleton.2 rfl))
    exact Or.inl ⟨s, children, rfl, hentry⟩
  | cons part rest ih =>
    obtain ⟨children, hentry⟩ := folder_of_unblocked hs (hopen _ List.mem_cons_self)
    rw [List.forall_mem_cons] at hnames
    have hgo {s' : Spot} (hs' : Spot.On d.root s')
        (habove : s'.above.map (·.1) = Path.stepBack (s.above.map (·.1)) part) :=
      ih hs' hnames.2 fun loc hloc => hopen loc (List.mem_cons_of_mem _ (habove ▸ hloc))
    by_cases hpart : part = ".."
    · subst hpart
      have hup : s.follow (".." :: rest) = s.up.follow rest := by
        rw [Spot.follow_up]
        unfold Spot.children
        rw [hentry]
        rfl
      rw [hup]
      refine hgo hs.up ?_
      unfold Spot.up Path.stepBack
      cases habove : s.above <;> simp [habove]
    · rw [Spot.follow_down hpart, Spot.child?_of_folder hentry (hnames.1.resolve_left hpart)]
      cases hchild : children.lookup part with
      | none => exact Or.inr rfl
      | some child =>
        refine hgo (hs.child (by rw [hentry]; exact hchild)) ?_
        rw [Path.stepBack, if_neg hpart]
        rfl

theorem short_of_follow (hs : Spot.On d.root s) (h : s.follow parts = .ok r) :
    ∀ name ∈ parts, name = ".." ∨ name.utf8ByteSize ≤ longestName := by
  induction parts generalizing s with
  | nil => nofun
  | cons part rest ih =>
    rw [List.forall_mem_cons]
    obtain ⟨s', hs', -, hrest⟩ := hs.first h
    refine ⟨?_, ih hs' hrest⟩
    by_cases hpart : part = ".."
    · exact Or.inl hpart
    · rw [Spot.follow_down hpart] at h
      cases hchild : s.child? part with
      | error code => rw [hchild] at h; cases h
      | ok found => exact Or.inr (Spot.lookup_of_child? hchild).2

end

theorem passable_of_find {children : List (String × Entry)}
    (h : d.find cwd p = .ok (.folder children)) : d.Passable cwd p := by
  obtain ⟨hshort, r, hwalk, -⟩ := find_eq_folder_iff.1 h
  exact ⟨hshort, short_of_follow .root hwalk, fun loc hloc hfile =>
    hfile.not_holdsFolder (holdsFolder_of_mem_way h hloc)⟩

theorem Passable.mono (h : d.Passable cwd p)
    (hfiles : ∀ loc ∈ way cwd p, d'.HoldsFile loc → d.HoldsFile loc) : d'.Passable cwd p :=
  ⟨h.short, h.names, fun loc hloc hfile => h.unblocked loc hloc (hfiles loc hloc hfile)⟩

theorem utf8ByteSize_intercalate_dropLast_le (separator : String) (texts : List String) :
    (separator.intercalate texts.dropLast).utf8ByteSize ≤
      (separator.intercalate texts).utf8ByteSize := by
  induction texts with
  | nil => exact Nat.le_refl _
  | cons text rest ih =>
    match rest with
    | [] => simp
    | [text'] =>
      simp only [List.dropLast_cons_cons, List.dropLast_singleton, String.intercalate_singleton,
        String.intercalate_cons_cons, String.utf8ByteSize_append]
      omega
    | text' :: text'' :: rest =>
      rw [List.dropLast_cons_cons] at ih
      simp only [List.dropLast_cons_cons, String.intercalate_cons_cons,
        String.utf8ByteSize_append] at ih ⊢
      omega

theorem utf8ByteSize_text_parent_le (h : p.isAbsolute = true) :
    p.parent.text.utf8ByteSize ≤ p.text.utf8ByteSize := by
  have hanchor : p.anchor ≠ .here := by simpa [Path.isAbsolute] using h
  have hanchor' : p.parent.anchor ≠ .here := hanchor
  unfold Path.text
  rw [if_neg fun hhere => hanchor hhere.1, if_neg fun hhere => hanchor' hhere.1,
    String.utf8ByteSize_append, String.utf8ByteSize_append]
  exact Nat.add_le_add_left (utf8ByteSize_intercalate_dropLast_le "/" p.parts) _

theorem Passable.parent (h : d.Passable cwd p) (habsolute : p.isAbsolute = true) :
    d.Passable cwd p.parent where
  short := Nat.le_trans (utf8ByteSize_text_parent_le habsolute) h.short
  names name hname := by
    refine h.names name ?_
    rcases List.mem_append.1 hname with hname | hname
    · exact List.mem_append_left _ hname
    · exact List.mem_append_right _ (List.dropLast_subset _ hname)
  unblocked loc hloc := h.unblocked loc (way_parent_subset cwd p hloc)

/-- The place that a path names in a folder that is there. -/
theorem place_of_folder {children : List (String × Entry)} {r : Spot} (hname : p.name? = some name)
    (hdots : name ≠ "..") (hshort : p.text.utf8ByteSize ≤ longestPath)
    (hlength : name.utf8ByteSize ≤ longestName)
    (hwalk : Spot.follow ⟨d.root, []⟩ (base cwd p ++ p.parts.dropLast) = .ok r)
    (hr : r.entry = .folder children) :
    d.place cwd p = .ok (.named r.location name (children.lookup name)) := by
  rw [place_eq hname hdots, start_bind_follow, if_neg (Nat.not_lt.2 hshort), hwalk]
  simp only [bind, Except.bind, Spot.child?_of_folder hr hlength]

/-- No place is in a folder that is not there. -/
theorem ensureFolder_of_missing (hname : p.name? = some name)
    (hwalk : (d.start cwd p >>= fun s => s.follow p.parts.dropLast) = .error .noEntry) :
    d.ensureFolder cwd p = .error .noEntry := by
  have hplace : d.place cwd p = .error .noEntry := by
    unfold place
    cases hstart : d.start cwd p with
    | error code =>
      rw [hstart] at hwalk
      exact congrArg Except.error (Except.error.inj hwalk)
    | ok s =>
      rw [hstart] at hwalk
      rw [hname]
      change s.follow p.parts.dropLast = _ at hwalk
      simp only [bind, Except.bind, hwalk]
  unfold ensureFolder makeFolder
  rw [hplace]
  rfl

/-- On a way that nothing blocks a folder can be made if its parent is there. -/
theorem exists_ensureFolder_of_parent {children : List (String × Entry)} (h : d.Passable cwd p)
    (hparent : d.find cwd p.parent = .ok (.folder children)) :
    ∃ d', d.ensureFolder cwd p = .ok d' := by
  obtain ⟨-, r, hwalk, hr⟩ := find_eq_folder_iff.1 hparent
  change Spot.follow ⟨d.root, []⟩ (base cwd p ++ p.parts.dropLast) = .ok r at hwalk
  rcases follow_of_unblocked (d := d) .root h.names h.unblocked with
    ⟨r', children', hwalk', hr'⟩ | hmissing
  · exact ⟨d, ensureFolder_of_find (find_eq_folder_iff.2 ⟨h.short, r', hwalk', hr'⟩)⟩
  · cases hname : p.name? with
    | none =>
      rw [List.getLast?_eq_none_iff.1 hname] at hwalk hmissing
      exact absurd (hwalk.symm.trans hmissing) nofun
    | some name =>
      rw [parts_eq_append hname, ← List.append_assoc, Spot.follow_append, hwalk] at hmissing
      change r.follow [name] = _ at hmissing
      have hdots : name ≠ ".." := by
        rintro rfl
        rw [Spot.follow_up] at hmissing
        unfold Spot.children at hmissing
        rw [hr] at hmissing
        cases hmissing
      have hlength : name.utf8ByteSize ≤ longestName :=
        (h.names name (List.mem_append_right _ (List.mem_of_getLast? hname))).resolve_left hdots
      have hplace := place_of_folder hname hdots h.short hlength hwalk hr
      rw [Spot.follow_down hdots, Spot.child?_of_folder hr hlength] at hmissing
      cases hlookup : children.lookup name with
      | some found => rw [hlookup] at hmissing; cases hmissing
      | none =>
        rw [hlookup] at hplace
        refine ⟨d.put (r.location ++ [name]) (.folder []), ?_⟩
        unfold ensureFolder makeFolder
        rw [hplace]
        rfl

/-- On a way that nothing blocks a folder whose parent is not there is missed. -/
theorem ensureFolder_of_not_parent (h : d.Passable cwd p) (habsolute : p.isAbsolute = true)
    (hparent : ∀ children, d.find cwd p.parent ≠ .ok (.folder children)) :
    d.ensureFolder cwd p = .error .noEntry ∧ p.parts ≠ [] := by
  have habove := h.parent habsolute
  rcases follow_of_unblocked (d := d) .root habove.names habove.unblocked with
    ⟨r, children, hwalk, hr⟩ | hmissing
  · exact absurd (find_eq_folder_iff.2 ⟨habove.short, r, hwalk, hr⟩) (hparent children)
  · change Spot.follow ⟨d.root, []⟩ (base cwd p ++ p.parts.dropLast) = _ at hmissing
    cases hname : p.name? with
    | none =>
      rw [List.getLast?_eq_none_iff.1 hname, base, if_pos habsolute] at hmissing
      cases hmissing
    | some name =>
      refine ⟨ensureFolder_of_missing hname ?_, by rw [parts_eq_append hname]; simp⟩
      rw [start_bind_follow, if_neg (Nat.not_lt.2 h.short)]
      exact hmissing

theorem ensureFolders_of_passable (h : d.Passable cwd p) (habsolute : p.isAbsolute = true) :
    (d.ensureFolders cwd p).2 = .ok () := by
  fun_induction ensureFolders d cwd p with
  | case1 p d' hfolder => rfl
  | case2 p code hcode hmissing d₁ hmade d₂ hfolder ih => rfl
  | case3 p code hcode hmissing d₁ hmade code' hfolder ih =>
    obtain ⟨children, hparent⟩ := find_of_ensureFolders (ih (h.parent habsolute) habsolute)
    have hgrows := grows_ensureFolders d cwd p.parent
    rw [hmade] at hparent hgrows
    have hpassable : d₁.Passable cwd p := h.mono fun loc _ hfile =>
      (hgrows.newFile loc hfile).resolve_right List.not_mem_nil
    obtain ⟨d₂, hd₂⟩ := exists_ensureFolder_of_parent hpassable hparent
    rw [hd₂] at hfolder
    cases hfolder
  | case4 p code hcode hmissing d₁ code' hmade ih =>
    have hparent := ih (h.parent habsolute) habsolute
    rw [hmade] at hparent
    exact hparent
  | case5 p code hcode hother =>
    by_cases hparent : ∃ children, d.find cwd p.parent = .ok (.folder children)
    · obtain ⟨children, hparent⟩ := hparent
      obtain ⟨d₂, hd₂⟩ := exists_ensureFolder_of_parent h hparent
      rw [hd₂] at hcode
      cases hcode
    · obtain ⟨hmissing, hparts⟩ := ensureFolder_of_not_parent h habsolute fun children hfind =>
        hparent ⟨children, hfind⟩
      rw [hmissing, Except.error.injEq] at hcode
      exact absurd ⟨hcode.symm, hparts⟩ hother

/-- Folders that can be made on a disk can be made on one with fewer files on the way. -/
theorem ensureFolders_of_ensureFolders (habsolute : p.isAbsolute = true)
    (h : (d'.ensureFolders cwd p).2 = .ok ())
    (hfiles : ∀ loc ∈ way cwd p, d.HoldsFile loc → d'.HoldsFile loc) :
    (d.ensureFolders cwd p).2 = .ok () := by
  obtain ⟨children, hfind⟩ := find_of_ensureFolders h
  refine ensureFolders_of_passable (Passable.mono (passable_of_find hfind) ?_) habsolute
  intro loc hloc hfile
  exact (grows_ensureFolders d' cwd p).files loc (hfiles loc hloc hfile)

/-- A file that can be written on a disk can be written on one that has its folder, if no folder
has taken its place there. -/
theorem write_of_write {children : List (String × Entry)} {d₁ : Disk}
    (h : d'.write cwd p content = .ok d₁) (hparent : d.find cwd p.parent = .ok (.folder children))
    (hfolder : ¬d.HoldsFolder (target cwd p)) : ∃ d₂, d.write cwd p content = .ok d₂ := by
  obtain ⟨folder, name, e, hplace, -, -⟩ := place_of_write h
  obtain ⟨hname, hdots⟩ := name?_of_place hplace
  obtain ⟨s, hwalk, -, hchild⟩ := spot_of_place hplace
  have hlength := (Spot.lookup_of_child? hchild).2
  obtain ⟨-, r, hwalk', hr⟩ := find_eq_folder_iff.1 hparent
  have hshort : p.text.utf8ByteSize ≤ longestPath := by
    rw [start_bind_follow] at hwalk
    split at hwalk
    · cases hwalk
    · exact Nat.not_lt.1 ‹_›
  have hplaced := place_of_folder hname hdots hshort hlength hwalk' hr
  have hat := (target_of_place hplaced).2
  unfold Disk.write
  rw [hplaced]
  cases hlookup : children.lookup name with
  | none => exact ⟨_, rfl⟩
  | some found =>
    cases found with
    | file content => exact ⟨_, rfl⟩
    | folder children' => exact absurd ⟨children', hat.trans hlookup⟩ hfolder

/-! ## What is kept -/

/-- What a disk still has of an earlier one: its folders, its files but those at the locations
`apart`, and all that is in the folders at the locations `listed`. -/
structure Keeps (apart listed : List Location) (d d' : Disk) : Prop where
  folders : d.KeepsFolders d'
  files : ∀ loc ∉ apart, d.HoldsFile loc → d'.HoldsFile loc
  contents : ∀ root ∈ listed, ∀ children, d.at? root = some (.folder children) →
    d'.at? root = some (.folder children)

section

variable {apart listed written made : List Location}

theorem Keeps.trans (h : d.Keeps apart listed d') (h' : d'.Keeps apart listed d'') :
    d.Keeps apart listed d'' where
  folders := h.folders.trans h'.folders
  files loc hapart hloc := h'.files loc hapart (h.files loc hapart hloc)
  contents root hroot children hat :=
    h'.contents root hroot children (h.contents root hroot children hat)

theorem Keeps.mono {apart' listed' : List Location} (h : d.Keeps apart listed d')
    (hapart : apart ⊆ apart') (hlisted : listed' ⊆ listed) : d.Keeps apart' listed' d' where
  folders := h.folders
  files loc hloc := h.files loc fun hmem => hloc (hapart hmem)
  contents root hroot := h.contents root (hlisted hroot)

theorem Grows.keeps (h : Grows written made d d')
    (hlisted : ∀ root ∈ listed, ∀ loc ∈ written ++ made, root <+: loc → loc = root) :
    d.Keeps apart listed d' where
  folders := h.folders
  files loc _ := h.files loc
  contents root hroot children hat := h.beside root children hat (hlisted root hroot)

/-- The same folders are made on two disks of which one has what the other one has. -/
theorem Keeps.ensureFolders (h : d.Keeps apart [] d')
    (hmade : (d'.ensureFolders cwd p).2 = .ok ()) :
    (d.ensureFolders cwd p).1.Keeps apart [] (d'.ensureFolders cwd p).1 := by
  have hgrows := grows_ensureFolders d cwd p
  have hgrows' := grows_ensureFolders d' cwd p
  constructor
  · intro loc children hloc
    rcases hgrows.newFolder loc ⟨children, hloc⟩ with ⟨children, hloc⟩ | hloc
    · exact (h.folders.trans hgrows'.folders) loc children hloc
    · obtain ⟨children', hfind⟩ := find_of_ensureFolders hmade
      exact holdsFolder_of_mem_way hfind hloc
  · intro loc hloc hfile
    exact hgrows'.files loc (h.files loc hloc ((hgrows.newFile loc hfile).resolve_right nofun))
  · nofun

/-- The same file is written on two disks of which one has what the other one has. -/
theorem Keeps.write {content' : ByteArray} {d₁ d₂ : Disk} (h : d.Keeps apart [] d')
    (hwrite : d.write cwd p content = .ok d₁) (hwrite' : d'.write cwd p content' = .ok d₂) :
    d₁.Keeps apart [] d₂ where
  folders loc children hloc := by
    obtain ⟨children, hold⟩ :=
      ((grows_write hwrite).newFolder loc ⟨children, hloc⟩).resolve_right nofun
    exact (h.folders.trans (grows_write hwrite').folders) loc children hold
  files loc hloc hfile := by
    rcases (grows_write hwrite).newFile loc hfile with hold | hnew
    · exact (grows_write hwrite').files loc (h.files loc hloc hold)
    · exact ⟨content', List.mem_singleton.1 hnew ▸ at?_of_write hwrite'⟩
  contents := nofun

theorem find_of_read (h : d.read cwd p = .ok content) : d.find cwd p = .ok (.file content) := by
  unfold read at h
  cases hfind : d.find cwd p with
  | error code => rw [hfind] at h; cases h
  | ok found =>
    rw [hfind] at h
    cases found with
    | file content' => cases h; rfl
    | folder children => cases h

theorem isFile_of_find (h : d.find cwd p = .ok (.file content)) : d.isFile cwd p = .ok true := by
  unfold isFile find?
  rw [h]
  rfl

theorem exists_find_of_isPresent (h : d.isPresent cwd p = .ok true) :
    ∃ found, d.find cwd p = .ok found := by
  unfold isPresent find? at h
  cases hfind : d.find cwd p with
  | ok found => exact ⟨found, rfl⟩
  | error code =>
    rw [hfind] at h
    dsimp only at h
    split at h <;> cases h

theorem isPresent_of_find {found : Entry} (h : d.find cwd p = .ok found) :
    d.isPresent cwd p = .ok true := by
  unfold isPresent find?
  rw [h]
  rfl

/-- What is found under a name is found as long as it is kept. -/
theorem Keeps.exists_find {found : Entry} (h : d.Keeps apart listed d')
    (hname : p.name? = some name) (hdots : name ≠ "..") (hapart : target cwd p ∉ apart)
    (hfind : d.find cwd p = .ok found) : ∃ found', d'.find cwd p = .ok found' := by
  cases found with
  | folder children =>
    obtain ⟨children', hfind'⟩ := h.folders.find hfind
    exact ⟨_, hfind'⟩
  | file content =>
    rcases place_of_find hfind with hplace | ⟨folder, name', hplace⟩
    · rw [place_eq hname hdots] at hplace
      cases hwalk : d.start cwd p >>= fun s => s.follow p.parts.dropLast with
      | error code => rw [hwalk] at hplace; cases hplace
      | ok s =>
        rw [hwalk] at hplace
        cases hchild : s.child? name <;> simp [hchild, bind, Except.bind] at hplace
    · obtain ⟨content', hat⟩ := h.files _ hapart ⟨content, (target_of_place hplace).2⟩
      have hplaced := h.folders.place hplace
      rw [hat] at hplaced
      exact ⟨_, find_of_place hplaced⟩

/-- What is in a folder of which the contents are kept is listed again. -/
theorem Keeps.list {root : Path} {children : List (String × Entry)} (h : d.Keeps apart listed d')
    (hroot : target cwd root ∈ listed) (hlist : d.list cwd root = .ok children) :
    d'.list cwd root = .ok children := by
  unfold Disk.list at hlist ⊢
  cases hfind : d.find cwd root with
  | error code => rw [hfind] at hlist; cases hlist
  | ok found =>
    rw [hfind] at hlist
    cases found with
    | file content => cases hlist
    | folder children₁ =>
      cases hlist
      obtain ⟨children', hfind'⟩ := h.folders.find hfind
      have hat := h.contents _ hroot _ (at?_target_of_find hfind)
      rw [at?_target_of_find hfind', Option.some.injEq, Entry.folder.injEq] at hat
      rw [hfind', hat]
      rfl

/-- A removal keeps everything but the file that it removes. -/
theorem keeps_erase (hfile : d.HoldsFile loc) (hapart : loc ∈ apart)
    (hlisted : ∀ root ∈ listed, root <+: loc → loc = root) :
    d.Keeps apart listed (d.erase loc) := by
  obtain ⟨content, hat⟩ := hfile
  have hnot {loc' : Location} {found : Entry} (hloc : d.at? loc' = some found) (hne : loc' ≠ loc) :
      ¬loc <+: loc' :=
    Entry.not_prefix_of_not_folder (by rw [show d.root.at? loc = _ from hat]; nofun) hloc hne
  have hne {root : Location} {children : List (String × Entry)}
      (hroot : d.at? root = some (.folder children)) : root ≠ loc := by
    rintro rfl
    rw [hat] at hroot
    cases hroot
  constructor
  · intro loc' children hloc
    exact Entry.folder_of_erase hloc (hnot hloc (hne hloc))
  · rintro loc' hloc' ⟨content', hfile'⟩
    have hother : loc' ≠ loc := fun heq => hloc' (heq ▸ hapart)
    refine ⟨content', (Entry.at?_erase_beside (hnot hfile' hother) ?_).trans hfile'⟩
    exact Entry.not_prefix_of_not_folder (by rw [show d.root.at? loc' = _ from hfile']; nofun) hat
      (Ne.symm hother)
  · intro root hroot children hfolder
    refine (Entry.at?_erase_beside (hnot hfolder (hne hfolder)) fun hunder => ?_).trans hfolder
    exact hne hfolder (hlisted root hroot hunder).symm

/-- A file is moved by taking it away and putting it where no folder is. -/
theorem of_rename_file {q : Path} (h : d.rename cwd p q = .ok d')
    (hfile : d.at? (target cwd p) = some (.file content))
    (hbeside : ¬target cwd p <+: target cwd q) :
    ∃ folder name folder' name' old,
      d.place cwd p = .ok (.named folder name (some (.file content))) ∧
      d.place cwd q = .ok (.named folder' name' old) ∧
      (∀ children, old ≠ some (.folder children)) ∧
      d' = (d.erase (target cwd p)).put (folder' ++ [name']) (.file content) := by
  obtain ⟨folder, name, e, folder', name', old, hplace, hplace', hmoved⟩ := places_of_rename h
  obtain ⟨htarget, hat⟩ := target_of_place hplace
  obtain ⟨htarget', -⟩ := target_of_place hplace'
  rw [hfile, Option.some.injEq] at hat
  subst hat
  rcases hmoved with ⟨hsame, -⟩ | ⟨hreplace, hd'⟩
  · rw [htarget, htarget'] at hsame
    exact absurd (hsame ▸ List.prefix_rfl) hbeside
  · refine ⟨folder, name, folder', name', old, hplace, hplace', ?_, htarget ▸ hd'⟩
    rintro children rfl
    cases hreplace

/-- A file that is moved is put to its new place once it is gone from the old one. -/
theorem exists_put_of_rename {q : Path} (h : d.rename cwd p q = .ok d')
    (hfile : d.at? (target cwd p) = some (.file content))
    (hbeside : ¬target cwd p <+: target cwd q) (hbeside' : ¬target cwd q <+: target cwd p) :
    ∃ folder name old, (d.erase (target cwd p)).place cwd q = .ok (.named folder name old) ∧
      (∀ children, old ≠ some (.folder children)) ∧
      d' = (d.erase (target cwd p)).put (folder ++ [name]) (.file content) := by
  obtain ⟨-, -, folder, name, old, -, hplace, hold, rfl⟩ := of_rename_file h hfile hbeside
  have herased : d.Keeps [target cwd p] [] (d.erase (target cwd p)) :=
    keeps_erase ⟨content, hfile⟩ (List.mem_singleton.2 rfl) nofun
  have hplaced := herased.folders.place hplace
  rw [show (d.erase (target cwd p)).at? (target cwd q) = old from
    (Entry.at?_erase_beside hbeside hbeside').trans (target_of_place hplace).2] at hplaced
  exact ⟨folder, name, old, hplaced, hold, rfl⟩

/-- A move of a file keeps everything but the two files, and nothing is left where it was. -/
theorem keeps_rename {q : Path} (h : d.rename cwd p q = .ok d')
    (hfile : d.at? (target cwd p) = some (.file content))
    (hbeside : ¬target cwd p <+: target cwd q) (hbeside' : ¬target cwd q <+: target cwd p)
    (hapart : target cwd p ∈ apart)
    (hlisted : ∀ root ∈ listed, ∀ loc ∈ [target cwd p, target cwd q], root <+: loc → loc = root) :
    d.Keeps apart listed d' ∧ d'.at? (target cwd p) = none := by
  obtain ⟨folder, name, old, hplaced, hold, rfl⟩ := exists_put_of_rename h hfile hbeside hbeside'
  have herased : d.Keeps apart listed (d.erase (target cwd p)) :=
    keeps_erase ⟨content, hfile⟩ hapart fun root hroot => hlisted root hroot _ (by simp)
  refine ⟨herased.trans ((grows_put_file hplaced hold content).keeps ?_), ?_⟩
  · intro root hroot loc hloc
    exact hlisted root hroot loc (List.mem_cons_of_mem _ (by simpa using hloc))
  · have hne : target cwd p ≠ [] := fun hnil => hbeside (hnil ▸ List.nil_prefix)
    rw [(target_of_place hplaced).1]
    exact (Entry.at?_put_beside hbeside' hbeside).trans (Entry.at?_erase_self hne)

/-- A move that was possible is possible wherever folders are kept, as long as the file to move is
there and no folder has taken its place. -/
theorem KeepsFolders.rename (hkeeps : d.KeepsFolders d') {q : Path} {d₁ : Disk}
    {content' : ByteArray} (h : d.rename cwd p q = .ok d₁)
    (hfile : d.at? (target cwd p) = some (.file content))
    (hfile' : d'.at? (target cwd p) = some (.file content'))
    (hbeside : ¬target cwd p <+: target cwd q) (hbeside' : ¬target cwd q <+: target cwd p)
    (hfree : ¬d'.HoldsFolder (target cwd q)) : ∃ d₂, d'.rename cwd p q = .ok d₂ := by
  obtain ⟨folder, name, folder', name', old, hplace, hplace', -, -⟩ :=
    of_rename_file h hfile hbeside
  have hne : folder ++ [name] ≠ folder' ++ [name'] := by
    rw [(target_of_place hplace).1, (target_of_place hplace').1]
    exact fun heq => hbeside (heq ▸ List.prefix_rfl)
  have hreplace : mayReplace (.file content') (d'.at? (target cwd q)) = .ok () := by
    cases hat : d'.at? (target cwd q) with
    | none => rfl
    | some found =>
      cases found with
      | file content => rfl
      | folder children => exact absurd ⟨children, hat⟩ hfree
  have hplaced := hkeeps.place hplace
  rw [hfile'] at hplaced
  rw [← (target_of_place hplace).1, ← (target_of_place hplace').1] at hbeside hbeside'
  unfold Disk.rename
  rw [hplaced, hkeeps.place hplace']
  simp only [bind, Except.bind, if_neg hne, List.isPrefixOf_iff_prefix, if_neg hbeside,
    if_neg hbeside', hreplace]
  exact ⟨_, rfl⟩

end

end Disk

end CrossBuild
