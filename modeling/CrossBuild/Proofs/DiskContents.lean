-- What is read back from a disk. Folders stay folders when files are written, moved
-- or removed, so that a path leads to the same location afterwards, and what is
-- read there is what has been written there last.
import CrossBuild.Proofs.Disks

namespace CrossBuild

/-! ## The tree -/

namespace Entry

variable {e new found : Entry} {loc loc' : Location} {content : ByteArray}
  {children : List (String × Entry)}

theorem at?_put_self (new e : Entry) (loc : Location) : (put new e loc).at? loc = some new := by
  induction loc generalizing e with
  | nil => rfl
  | cons name rest ih =>
    unfold put
    rw [at?_cons, Entry.children, lookup_setChild, if_pos rfl]
    exact ih _

/-- Only a folder has something below it. -/
theorem folder_of_at?_append {name : String} {rest : Location}
    (h : e.at? (loc ++ name :: rest) = some found) :
    ∃ children, e.at? loc = some (.folder children) := by
  rw [at?_append] at h
  cases hat : e.at? loc with
  | none => simp [hat] at h
  | some e' =>
    cases e' with
    | file content => simp [hat, at?_cons, Entry.children] at h
    | folder children => exact ⟨children, rfl⟩

/-- What is put somewhere changes nothing beside the way there. -/
theorem at?_put_beside (h : ¬loc' <+: loc) (h' : ¬loc <+: loc') :
    (put new e loc').at? loc = e.at? loc := by
  induction loc' generalizing e loc with
  | nil => exact absurd List.nil_prefix h
  | cons name rest' ih =>
    cases loc with
    | nil => exact absurd List.nil_prefix h'
    | cons other rest =>
      unfold put
      rw [at?_cons, at?_cons, Entry.children, lookup_setChild]
      by_cases hname : other = name
      · subst hname
        rw [List.cons_prefix_cons, not_and] at h h'
        rw [if_pos rfl, Option.bind_some, ih (h rfl) (h' rfl)]
        cases e.children.lookup other with
        | some child => rfl
        | none =>
          cases rest with
          | nil => exact absurd List.nil_prefix (h' rfl)
          | cons _ _ => simp [at?_cons, Entry.children]
      · rw [if_neg hname]

/-- A folder stays one when something is put elsewhere. -/
theorem folder_of_put (h : e.at? loc = some (.folder children)) (hloc : ¬loc' <+: loc) :
    ∃ children, (put new e loc').at? loc = some (.folder children) := by
  induction loc' generalizing e loc with
  | nil => exact absurd List.nil_prefix hloc
  | cons name rest' ih =>
    unfold put
    cases loc with
    | nil => exact ⟨_, rfl⟩
    | cons other rest =>
      rw [at?_cons, Entry.children, lookup_setChild]
      rw [at?_cons] at h
      by_cases hname : other = name
      · subst hname
        rw [List.cons_prefix_cons, not_and] at hloc
        cases hchild : e.children.lookup other with
        | none => simp [hchild] at h
        | some child =>
          rw [hchild] at h
          simpa using ih h (hloc rfl)
      · rw [if_neg hname]
        exact ⟨children, h⟩

/-- A folder stays one when something is erased elsewhere. -/
theorem folder_of_erase (h : e.at? loc = some (.folder children)) (hloc : ¬loc' <+: loc) :
    ∃ children, (e.erase loc').at? loc = some (.folder children) := by
  induction loc' generalizing e loc with
  | nil => exact absurd List.nil_prefix hloc
  | cons name rest' ih =>
    cases loc with
    | nil =>
      cases h
      cases herased : (folder children).erase (name :: rest') with
      | folder children' => exact ⟨children', rfl⟩
      | file content => cases erase_isFile _ _ content herased
    | cons other rest =>
      rw [at?_cons, lookup_children_erase]
      rw [at?_cons] at h
      by_cases hname : other = name
      · subst hname
        rw [List.cons_prefix_cons, not_and] at hloc
        cases rest' with
        | nil => exact absurd List.nil_prefix (hloc rfl)
        | cons next rest' =>
          cases hchild : e.children.lookup other with
          | none => simp [hchild] at h
          | some child =>
            rw [hchild] at h
            simpa using ih h (hloc rfl)
      · rw [if_neg hname]
        exact ⟨children, h⟩

/-- A file stays as it is when something else is put into a folder. -/
theorem file_of_put {name : String} (h : e.at? loc = some (.file content))
    (hfolder : e.at? loc' = some (.folder children)) (hloc : ¬loc' ++ [name] <+: loc) :
    (put new e (loc' ++ [name])).at? loc = some (.file content) := by
  rw [at?_put_beside hloc, h]
  intro hbelow
  rcases List.prefix_concat_iff.1 hbelow with rfl | ⟨rest, rfl⟩
  · exact hloc List.prefix_rfl
  · cases rest with
    | nil =>
      rw [List.append_nil, h] at hfolder
      cases hfolder
    | cons name' rest =>
      obtain ⟨children', hchildren⟩ := folder_of_at?_append hfolder
      rw [h] at hchildren
      cases hchildren

end Entry

/-! ## Walks -/

namespace Spot

variable {s s' r : Spot} {parts : List String} {children : List (String × Entry)}

theorem location_congr (h : s'.above.map (·.1) = s.above.map (·.1)) : s'.location = s.location :=
  congrArg List.reverse h

/-- Only a folder has children. -/
theorem folder_of_child? {name : String} {e : Option Entry} (h : s.child? name = .ok e) :
    ∃ children, s.entry = .folder children := by
  unfold child? Spot.children at h
  cases hentry : s.entry with
  | file content =>
    rw [hentry] at h
    cases h
  | folder children => exact ⟨children, rfl⟩

theorem child?_of_folder {name : String} (h : s.entry = .folder children)
    (hlength : name.utf8ByteSize ≤ Disk.longestName) :
    s.child? name = .ok (children.lookup name) := by
  unfold child? Spot.children
  rw [h]
  change (if Disk.longestName < name.utf8ByteSize then _ else _) = _
  rw [if_neg (Nat.not_lt.2 hlength)]

/-- A walk to a folder starts at a folder. -/
theorem folder_of_follow (h : s.follow parts = .ok r) (hr : r.entry = .folder children) :
    ∃ children, s.entry = .folder children := by
  cases parts with
  | nil =>
    cases h
    exact ⟨children, hr⟩
  | cons part rest =>
    by_cases hpart : part = ".."
    · subst hpart
      rw [follow_up] at h
      cases hentry : s.entry with
      | folder children => exact ⟨children, rfl⟩
      | file content =>
        unfold Spot.children at h
        rw [hentry] at h
        cases h
    · rw [follow_down hpart] at h
      cases hchild : s.child? part with
      | error code => rw [hchild] at h; cases h
      | ok found => exact folder_of_child? hchild

end Spot

namespace Disk

variable {d d' : Disk} {cwd : Location} {p : Path} {loc : Location}

/-- Every folder of the first disk is one of the second. -/
def KeepsFolders (d d' : Disk) : Prop :=
  ∀ loc children, d.at? loc = some (.folder children) →
    ∃ children, d'.at? loc = some (.folder children)

section

variable {s s' r : Spot} {parts : List String} {children : List (String × Entry)}

theorem KeepsFolders.folder_of_on (hkeeps : d.KeepsFolders d') (hs : Spot.On d.root s)
    (hs' : Spot.On d'.root s') (hnames : s'.above.map (·.1) = s.above.map (·.1))
    (hfolder : s.entry = .folder children) : ∃ children, s'.entry = .folder children := by
  have hat := hs.at?_location
  rw [hfolder] at hat
  obtain ⟨children', hat'⟩ := hkeeps _ _ hat
  have hentry := hs'.at?_location
  rw [Spot.location_congr hnames] at hentry
  exact ⟨children', Option.some.inj (hentry.symm.trans hat')⟩

/-- A folder in a folder is there as long as folders are kept. -/
theorem KeepsFolders.child (hkeeps : d.KeepsFolders d') (hs : Spot.On d.root s)
    (hs' : Spot.On d'.root s') (hnames : s'.above.map (·.1) = s.above.map (·.1)) {name : String}
    (hchild : s.entry.children.lookup name = some (.folder children)) :
    ∃ children, s'.entry.children.lookup name = some (.folder children) := by
  obtain ⟨children', hat⟩ := hkeeps _ _ (hs.child hchild).at?_location
  rw [Spot.location_child, ← Spot.location_congr hnames] at hat
  unfold at? at hat
  rw [Entry.at?_append, hs'.at?_location, Option.bind_some, Entry.at?_cons] at hat
  refine ⟨children', ?_⟩
  cases hlookup : s'.entry.children.lookup name with
  | none => simp [hlookup] at hat
  | some e => simpa [hlookup] using hat

/-- A walk that leads to a folder leads to the same location as long as folders are kept: it goes
through folders only. -/
theorem KeepsFolders.follow (hkeeps : d.KeepsFolders d') (hs : Spot.On d.root s)
    (hs' : Spot.On d'.root s') (hnames : s'.above.map (·.1) = s.above.map (·.1))
    (hfollow : s.follow parts = .ok r) (hr : r.entry = .folder children) :
    ∃ r', s'.follow parts = .ok r' ∧ ∃ children, r'.entry = .folder children := by
  induction parts generalizing s s' with
  | nil =>
    cases hfollow
    exact ⟨s', rfl, hkeeps.folder_of_on hs hs' hnames hr⟩
  | cons part rest ih =>
    obtain ⟨here, hhere⟩ := Spot.folder_of_follow hfollow hr
    obtain ⟨here', hhere'⟩ := hkeeps.folder_of_on hs hs' hnames hhere
    by_cases hpart : part = ".."
    · subst hpart
      have hup {s : Spot} {children : List (String × Entry)} (h : s.entry = .folder children) :
          s.follow (".." :: rest) = s.up.follow rest := by
        rw [Spot.follow_up]
        unfold Spot.children
        rw [h]
        rfl
      have hnames' : s'.up.above.map (·.1) = s.up.above.map (·.1) := by
        unfold Spot.up
        cases habove : s.above <;> cases habove' : s'.above <;> simp_all
      rw [hup hhere] at hfollow
      rw [hup hhere']
      exact ih hs.up hs'.up hnames' hfollow
    · rw [Spot.follow_down hpart] at hfollow
      cases hchild : s.child? part with
      | error code => rw [hchild] at hfollow; cases hfollow
      | ok found =>
        rw [hchild] at hfollow
        cases found with
        | none => cases hfollow
        | some e =>
          obtain ⟨hlookup, hlength⟩ := Spot.lookup_of_child? hchild
          obtain ⟨below, rfl⟩ := Spot.folder_of_follow hfollow hr
          obtain ⟨below', hlookup'⟩ := hkeeps.child hs hs' hnames hlookup
          have hchild' : s'.child? part = .ok (some (.folder below')) := by
            rw [Spot.child?_of_folder hhere' hlength, ← hlookup', hhere']
            rfl
          rw [Spot.follow_down hpart, hchild']
          exact ih (hs.child hlookup) (hs'.child hlookup') (by simp [hnames]) hfollow

end

/-! ## Places -/

variable {folder : Location} {name : String} {e : Option Entry} {content new : ByteArray}

theorem folder_of_place (h : d.place cwd p = .ok (.named folder name e)) :
    ∃ children, d.at? folder = some (.folder children) := by
  obtain ⟨s, hwalk, rfl, hchild⟩ := spot_of_place h
  obtain ⟨children, hentry⟩ := Spot.folder_of_child? hchild
  exact ⟨children, by rw [(location_of_start_bind_follow hwalk).2, hentry]⟩

/-- A place stays where it is as long as folders are kept. -/
theorem KeepsFolders.place (hkeeps : d.KeepsFolders d')
    (h : d.place cwd p = .ok (.named folder name e)) :
    d'.place cwd p = .ok (.named folder name (d'.at? (target cwd p))) := by
  obtain ⟨hname, hdots⟩ := name?_of_place h
  obtain ⟨s, hwalk, hlocation, hchild⟩ := spot_of_place h
  obtain ⟨children, hentry⟩ := Spot.folder_of_child? hchild
  have hlength := (Spot.lookup_of_child? hchild).2
  have hlocated := (location_of_start_bind_follow hwalk).1
  rw [start_bind_follow] at hwalk
  split at hwalk
  · cases hwalk
  · rename_i hshort
    obtain ⟨s', hwalk', children', hentry'⟩ := hkeeps.follow .root .root rfl hwalk hentry
    have hplace : d'.place cwd p = .ok (.named s'.location name (children'.lookup name)) := by
      rw [place_eq hname hdots, start_bind_follow, if_neg hshort, hwalk']
      simp only [bind, Except.bind, Spot.child?_of_folder hentry' hlength]
    have hfolder : s'.location = folder := by
      have hwalk'' : (d'.start cwd p >>= fun s => s.follow p.parts.dropLast) = .ok s' := by
        rw [start_bind_follow, if_neg hshort, hwalk']
      rw [(location_of_start_bind_follow hwalk'').1, ← hlocated, hlocation]
    rw [(target_of_place hplace).2, hplace, hfolder]

/-- What is at a place is found, and nothing else is. -/
theorem find_eq_of_place (h : d.place cwd p = .ok (.named folder name e)) :
    d.find cwd p = e.elim (.error .noEntry) .ok := by
  obtain ⟨hname, hdots⟩ := name?_of_place h
  obtain ⟨s, hwalk, -, hchild⟩ := spot_of_place h
  have hspot : d.spot cwd p = s.follow [name] := by
    rw [start_bind_follow] at hwalk
    unfold spot
    rw [start_bind_follow, parts_eq_append hname]
    split at hwalk
    · cases hwalk
    · rename_i hshort
      rw [if_neg hshort, ← List.append_assoc, Spot.follow_append, hwalk]
      rfl
  unfold find
  rw [hspot, Spot.follow_down hdots, hchild]
  cases e <;> rfl

theorem find_of_place {e : Entry} (h : d.place cwd p = .ok (.named folder name (some e))) :
    d.find cwd p = .ok e := find_eq_of_place h

/-! ## Writing -/

theorem at?_of_write (h : d.write cwd p content = .ok d') :
    d'.at? (target cwd p) = some (.file content) := by
  obtain ⟨folder, name, e, hplace, -, rfl⟩ := place_of_write h
  rw [← (target_of_place hplace).1]
  exact Entry.at?_put_self _ _ _

/-- A file stays as it is when something is put in a place beside it. -/
theorem file_of_put {new : Entry} (h : d.place cwd p = .ok (.named folder name e))
    (he : ∀ children, e ≠ some (.folder children)) (hfile : d.at? loc = some (.file content))
    (hloc : loc ≠ target cwd p) :
    (d.put (folder ++ [name]) new).at? loc = some (.file content) := by
  obtain ⟨children, hfolder⟩ := folder_of_place h
  obtain ⟨htarget, hat⟩ := target_of_place h
  refine Entry.file_of_put hfile hfolder ?_
  rintro ⟨rest, hrest⟩
  cases rest with
  | nil =>
    rw [List.append_nil, htarget] at hrest
    exact hloc hrest.symm
  | cons name' rest =>
    unfold at? at hfile hat
    rw [← hrest] at hfile
    obtain ⟨children', hbelow⟩ := Entry.folder_of_at?_append hfile
    rw [htarget, hat] at hbelow
    exact he children' hbelow

theorem file_of_write (h : d.write cwd p new = .ok d') (hfile : d.at? loc = some (.file content))
    (hloc : loc ≠ target cwd p) : d'.at? loc = some (.file content) := by
  obtain ⟨folder, name, e, hplace, he, rfl⟩ := place_of_write h
  exact file_of_put hplace he hfile hloc

theorem file_of_ensureFolder (h : d.ensureFolder cwd p = .ok d')
    (hfile : d.at? loc = some (.file content)) : d'.at? loc = some (.file content) := by
  rcases makeFolder_of_ensureFolder h with hmade | ⟨rfl, -⟩
  · obtain ⟨folder, name, hplace, rfl⟩ := place_of_makeFolder hmade
    refine file_of_put hplace nofun hfile ?_
    rintro rfl
    rw [(target_of_place hplace).2] at hfile
    cases hfile
  · exact hfile

/-- Files stay as they are when folders are made. -/
theorem file_of_ensureFolders (hfile : d.at? loc = some (.file content)) :
    (d.ensureFolders cwd p).1.at? loc = some (.file content) := by
  fun_induction ensureFolders d cwd p with
  | case1 p d' h => exact file_of_ensureFolder h hfile
  | case2 p code h hmissing d₁ hparent d₂ hfolder ih =>
    rw [hparent] at ih
    exact file_of_ensureFolder hfolder ih
  | case3 p code h hmissing d₁ hparent code' hfolder ih =>
    rw [hparent] at ih
    exact ih
  | case4 p code h hmissing d₁ code' hparent ih =>
    rw [hparent] at ih
    exact ih
  | case5 p code h hother => exact hfile

/-! ## Moving -/

/-- What a move does: the entry goes to a place that it may take, unless it is there. -/
theorem places_of_rename {q : Path} (h : d.rename cwd p q = .ok d') :
    ∃ folder name e folder' name' old,
      d.place cwd p = .ok (.named folder name (some e)) ∧
      d.place cwd q = .ok (.named folder' name' old) ∧
      (folder ++ [name] = folder' ++ [name'] ∧ d' = d ∨
        mayReplace e old = .ok () ∧
          d' = (d.erase (folder ++ [name])).put (folder' ++ [name']) e) := by
  unfold rename at h
  cases hplace : d.place cwd p with
  | error code => rw [hplace] at h; cases h
  | ok place =>
    cases hplace' : d.place cwd q with
    | error code => rw [hplace, hplace'] at h; cases h
    | ok place' =>
      rw [hplace, hplace'] at h
      cases place with
      | unnamed => cases h
      | named folder name entry =>
        cases place' with
        | unnamed => cases h
        | named folder' name' old =>
          cases entry with
          | none => cases h
          | some e =>
            refine ⟨folder, name, e, folder', name', old, rfl, rfl, ?_⟩
            simp only [bind, Except.bind] at h
            split at h
            · exact Or.inl ⟨‹_›, (Except.ok.inj h).symm⟩
            · split at h
              · cases h
              · split at h
                · cases h
                · cases hreplace : mayReplace e old with
                  | error code => rw [hreplace] at h; cases h
                  | ok u =>
                    rw [hreplace] at h
                    exact Or.inr ⟨rfl, (Except.ok.inj h).symm⟩

/-- What was under the first path of a move is read under the second one. -/
theorem read_of_rename {q : Path} (h : d.rename cwd p q = .ok d')
    (hfile : d.at? (target cwd p) = some (.file content)) : d'.read cwd q = .ok content := by
  obtain ⟨folder, name, e, folder', name', old, hplace, hplace', hmoved⟩ := places_of_rename h
  obtain ⟨htarget, hat⟩ := target_of_place hplace
  obtain ⟨htarget', hat'⟩ := target_of_place hplace'
  rw [hfile, Option.some.injEq] at hat
  subst hat
  have hnot {loc loc' : Location} {children : List (String × Entry)} {found : Option Entry}
      (hfound : d.at? loc' = found) (hfolder : ∀ children, found ≠ some (.folder children))
      (hloc : d.at? loc = some (.folder children)) : ¬loc' <+: loc := by
    rintro ⟨rest, rfl⟩
    cases rest with
    | nil =>
      rw [List.append_nil, hfound] at hloc
      exact hfolder _ hloc
    | cons name'' rest =>
      obtain ⟨children', hbelow⟩ := Entry.folder_of_at?_append hloc
      exact hfolder children' (hfound.symm.trans hbelow)
  have hread (hkeeps : d.KeepsFolders d')
      (hnew : d'.at? (target cwd q) = some (.file content)) : d'.read cwd q = .ok content := by
    have hplaced := hkeeps.place hplace'
    rw [hnew] at hplaced
    unfold read
    rw [find_of_place hplaced]
    rfl
  rcases hmoved with ⟨hsame, rfl⟩ | ⟨hreplace, rfl⟩
  · refine hread (fun loc children hloc => ⟨children, hloc⟩) ?_
    rw [← htarget', ← hsame, htarget]
    exact hfile
  · have hold (children) : old ≠ some (.folder children) := by
      rintro rfl
      cases hreplace
    refine hread (fun loc children hloc => ?_) ?_
    · obtain ⟨children', herased⟩ :=
        Entry.folder_of_erase hloc (hnot hfile nofun hloc)
      rw [htarget, htarget']
      exact Entry.folder_of_put herased (hnot hat' hold hloc)
    · rw [htarget']
      exact Entry.at?_put_self _ _ _

end Disk

end CrossBuild
