-- The choice of a toolchain in an Android NDK. The known names of toolchains are looked
-- for among all entries of a folder, so that a file with such a name is taken too: the
-- choice is one of a folder exactly if the first known name among the entries is one.
import CrossBuild.Ndk
import CrossBuild.Proofs.JobRuns

namespace CrossBuild.Ndk

open Job

variable {host : Host} {s : Session} {root : Path} {entries : List (String × Entry)} {name : String}

/-! ## Names and folders -/

def Names (entries : List (String × Entry)) (name : String) : Prop := ∃ e, (name, e) ∈ entries

def NamesFolder (entries : List (String × Entry)) (name : String) : Prop :=
  ∃ children, (name, .folder children) ∈ entries

/-- The first one of some names that something holds of. -/
def IsFirst (P : String → Prop) (names : List String) (name : String) : Prop :=
  ∃ before after, names = before ++ name :: after ∧ P name ∧ ∀ other ∈ before, ¬P other

theorem NamesFolder.names (h : NamesFolder entries name) : Names entries name :=
  h.elim fun _ hmem => ⟨_, hmem⟩

theorem isFirst_iff_find? {P : String → Prop} [DecidablePred P] {names : List String} :
    IsFirst P names name ↔ names.find? (fun name => P name) = some name := by
  simp [IsFirst, List.find?_eq_some_iff_append, exists_and_left, and_left_comm]

theorem any_iff_names : entries.any (fun e => e.1 = name) = true ↔ Names entries name := by
  simp only [Names, List.any_eq_true, decide_eq_true_eq, Prod.exists]
  exact ⟨fun ⟨_, e, hmem, h⟩ => ⟨e, h ▸ hmem⟩, fun ⟨e, hmem⟩ => ⟨name, e, hmem, rfl⟩⟩

instance : DecidablePred (Names entries) := fun _ => decidable_of_iff _ any_iff_names

theorem decide_names : decide (Names entries name) = entries.any (fun e => e.1 = name) :=
  Bool.eq_iff_iff.2 (decide_eq_true_iff.trans any_iff_names.symm)

theorem IsFirst.mem {P : String → Prop} {names : List String} (h : IsFirst P names name) :
    name ∈ names := by
  obtain ⟨before, after, rfl, -⟩ := h
  simp

/-- A name that is first for a property is first for a narrower one that it has. -/
theorem IsFirst.of_imp {P Q : String → Prop} {names : List String} (h : IsFirst P names name)
    (himp : ∀ other, Q other → P other) (hname : Q name) : IsFirst Q names name := by
  obtain ⟨before, after, hnames, -, hbefore⟩ := h
  exact ⟨before, after, hnames, hname, fun other hmem hother => hbefore other hmem (himp _ hother)⟩

theorem IsFirst.unique {P : String → Prop} {names : List String} {other : String}
    (h : IsFirst P names name) (h' : IsFirst P names other) : name = other := by
  classical
  rw [isFirst_iff_find?] at h h'
  exact Option.some.inj (h.symm.trans h')

theorem exists_isFirst_or (P : String → Prop) (names : List String) :
    (∃ name, IsFirst P names name) ∨ ∀ name ∈ names, ¬P name := by
  classical
  cases hfind : names.find? fun name => P name with
  | some name => exact .inl ⟨name, isFirst_iff_find?.2 hfind⟩
  | none =>
    rw [List.find?_eq_none] at hfind
    exact .inr fun name hname => by simpa using hfind name hname

/-! ## The first folder -/

/-- The name of the first folder among entries. -/
def firstFolder? (entries : List (String × Entry)) : Option String :=
  (entries.find? fun e => e.2.isFolder).map (·.1)

theorem namesFolder_of_firstFolder? (h : firstFolder? entries = some name) :
    NamesFolder entries name := by
  obtain ⟨⟨found, e⟩, hfind, rfl⟩ := Option.map_eq_some_iff.1 h
  have hfolder := List.find?_some hfind
  cases e with
  | file content => cases hfolder
  | folder children => exact ⟨children, List.mem_of_find?_eq_some hfind⟩

theorem exists_firstFolder? (h : NamesFolder entries name) :
    ∃ found, firstFolder? entries = some found := by
  obtain ⟨children, hmem⟩ := h
  unfold firstFolder?
  cases hfind : entries.find? fun e => e.2.isFolder with
  | some e => exact ⟨e.1, rfl⟩
  | none => exact absurd rfl (List.find?_eq_none.1 hfind _ hmem)

theorem firstFolder?_append {before after : List (String × Entry)}
    {children : List (String × Entry)} (h : ∀ e ∈ before, e.2.isFolder = false) :
    firstFolder? (before ++ (name, .folder children) :: after) = some name := by
  have hbefore : before.find? (fun e => e.2.isFolder) = none := by
    simpa [List.find?_eq_none] using h
  unfold firstFolder?
  rw [List.find?_append, hbefore]
  rfl

/-! ## The choice -/

/-- The choice among the entries of a folder is one of the folders among them if there are any: the
first of the known ones in whatever order the entries are listed, or else the first one that is
listed. -/
structure Chooses (entries : List (String × Entry)) (chosen : Option String) : Prop where
  isSome_iff : (∃ name, chosen = some name) ↔ ∃ name, NamesFolder entries name
  folder : ∀ name, chosen = some name → NamesFolder entries name
  known : ∀ listed name, listed.Perm entries → IsFirst (NamesFolder listed) knownHosts name →
    chosen = some name
  other : (∀ name ∈ knownHosts, ¬NamesFolder entries name) →
    ∀ before name children after, entries = before ++ (name, .folder children) :: after →
      (∀ e ∈ before, e.2.isFolder = false) → chosen = some name

theorem choose?_eq :
    choose? entries =
      match knownHosts.find? (fun host => Names entries host) with
      | some host => some host
      | none => (entries.find? fun e => e.2.isFolder).map (·.1) := by
  simp only [decide_names]
  rfl

/-- A known name counts, whatever it names. -/
theorem choose?_of_isFirst (h : IsFirst (Names entries) knownHosts name) :
    choose? entries = some name := by
  rw [choose?_eq, isFirst_iff_find?.1 h]

theorem choose?_of_not_names (h : ∀ name ∈ knownHosts, ¬Names entries name) :
    choose? entries = firstFolder? entries := by
  have hfind : knownHosts.find? (fun host => Names entries host) = none := by
    simpa [List.find?_eq_none] using h
  rw [choose?_eq, hfind]
  rfl

theorem namesFolder_perm {listed : List (String × Entry)} (h : listed.Perm entries) :
    NamesFolder listed = NamesFolder entries := by
  funext name
  unfold NamesFolder
  simp only [h.mem_iff]

/-- The choice is one of a folder exactly if the first known name among the entries is. -/
theorem chooses_choose?_iff :
    Chooses entries (choose? entries) ↔
      ∀ name, IsFirst (Names entries) knownHosts name → NamesFolder entries name := by
  constructor
  · exact fun h name hname => h.folder name (choose?_of_isFirst hname)
  · intro hfolder
    rcases exists_isFirst_or (Names entries) knownHosts with ⟨first, hfirst⟩ | hnone
    · have hfirstFolder := hfolder first hfirst
      rw [choose?_of_isFirst hfirst]
      refine ⟨⟨fun _ => ⟨first, hfirstFolder⟩, fun _ => ⟨first, rfl⟩⟩, ?_, ?_, ?_⟩
      · rintro name h
        cases h
        exact hfirstFolder
      · intro listed name hperm hname
        rw [namesFolder_perm hperm] at hname
        have hfirst' := hfirst.of_imp (fun _ => NamesFolder.names) hfirstFolder
        rw [hfirst'.unique hname]
      · exact fun hno => absurd hfirstFolder (hno first hfirst.mem)
    · have hnoFolder : ∀ name ∈ knownHosts, ¬NamesFolder entries name :=
        fun name hname h => hnone name hname h.names
      rw [choose?_of_not_names hnone]
      refine ⟨⟨?_, ?_⟩, fun _ => namesFolder_of_firstFolder?, ?_, ?_⟩
      · exact fun ⟨name, h⟩ => ⟨name, namesFolder_of_firstFolder? h⟩
      · exact fun ⟨name, h⟩ => exists_firstFolder? h
      · intro listed name hperm hname
        rw [namesFolder_perm hperm] at hname
        obtain ⟨before, after, -, hfound, -⟩ := id hname
        exact absurd hfound (hnoFolder name hname.mem)
      · rintro - before name children after rfl hbefore
        exact firstFolder?_append hbefore

/-! ## The search on a disk -/

/-- What comes of a choice. -/
def outcome (root : Path) : Option String → Except Failure String
  | some name => .ok name
  | none => .error (.problem (.noToolchainFolder root))

theorem outcome_injective (root : Path) : Function.Injective (outcome root) := by
  intro chosen chosen' h
  cases chosen <;> cases chosen' <;> cases h <;> rfl

theorem outcome_ne_refused (chosen : Option String) (e : SystemError) :
    outcome root chosen ≠ .error (.problem (.unlistableToolchains root e)) := by
  cases chosen <;> simp [outcome]

theorem result_locate_of_nul (hnul : root.hasNul = true) :
    (locate root).result host s = .error (.nulInPath root) := by
  unfold locate
  rw [result_bind, result_ask, hnul]
  rfl

theorem result_locate_of_refused {code : ErrorCode} (hnul : root.hasNul = false)
    (hlist : s.disk.list host.cwd.parts root = .error code) :
    (locate root).result host s =
      .error (.problem (.unlistableToolchains root ⟨code, root.text⟩)) := by
  unfold locate
  rw [result_bind, result_ask, hnul, if_neg Bool.false_ne_true, hlist]
  rfl

theorem result_locate_of_listed (hnul : root.hasNul = false)
    (hlist : s.disk.list host.cwd.parts root = .ok entries) :
    (locate root).result host s = outcome root (choose? entries) := by
  unfold locate
  rw [result_bind, result_ask, hnul, if_neg Bool.false_ne_true, hlist]
  dsimp only
  cases choose? entries with
  | some name => rfl
  | none => rfl

/-- The search gives the choice among the entries of the folder. It says that there is no folder to
choose, or that the entries can not be listed, exactly if it is so. -/
structure LocatesFolder (host : Host) (s : Session) (root : Path) : Prop where
  listed : ∀ entries, s.disk.list host.cwd.parts root = .ok entries →
    ∃ chosen, Chooses entries chosen ∧ (locate root).result host s = outcome root chosen
  refused : ∀ e, (locate root).result host s = .error (.problem (.unlistableToolchains root e)) ↔
    ∃ code, s.disk.list host.cwd.parts root = .error code ∧ e = ⟨code, root.text⟩

/-- No path with a NUL character can be searched. -/
theorem LocatesFolder.hasNul_eq_false (h : LocatesFolder host s root) : root.hasNul = false := by
  rw [Bool.eq_false_iff]
  intro hnul
  have hresult := @result_locate_of_nul host s root hnul
  cases hlist : s.disk.list host.cwd.parts root with
  | error code =>
    rw [(h.refused _).2 ⟨code, hlist, rfl⟩] at hresult
    cases hresult
  | ok entries =>
    obtain ⟨chosen, -, hchosen⟩ := h.listed entries hlist
    rw [hchosen] at hresult
    cases chosen <;> cases hresult

/-- A file and a folder with known names. -/
def fileAndFolder : List (String × Entry) :=
  [("linux-x86_64", .file .empty), ("darwin-x86_64", .folder [])]

end CrossBuild.Ndk
