-- The full form of a triple. What a triple says can be written out with a vendor
-- that is not known, and this form says the same again: the names that are read
-- stand for themselves, and dashes without a component between them do not count.
import CrossBuild.Proofs.TargetDescriptions

namespace CrossBuild

/-! ## Joined components and extra separators -/

namespace Text

variable {separator : Char}

theorem pieces_append_cons (separator : Char) (before after : List Char) :
    pieces separator (.ofList (before ++ separator :: after)) =
      pieces separator (.ofList before) ++ pieces separator (.ofList after) := by
  unfold pieces
  simp only [String.toList_ofList, List.splitOn_append_cons_self, List.filter_append,
    List.map_append]

theorem pieces_replicate_append (separator : Char) (n : Nat) (cs : List Char) :
    pieces separator (.ofList (List.replicate n separator ++ cs)) =
      pieces separator (.ofList cs) := by
  induction n with
  | zero => rfl
  | succ n ih =>
    have hfirst := pieces_append_cons separator [] (List.replicate n separator ++ cs)
    rw [ih] at hfirst
    exact hfirst

/-- A place in a text where no component is cut in two by a separator: the start, the end, and
both sides of a separator. -/
def IsBorder (separator : Char) (before after : List Char) : Prop :=
  before = [] ∨ after = [] ∨ before.getLast? = some separator ∨ after.head? = some separator

/-- More separators at such a place make no further piece. -/
theorem pieces_insert {before after : List Char} (h : IsBorder separator before after) (n : Nat) :
    pieces separator (.ofList (before ++ List.replicate n separator ++ after)) =
      pieces separator (.ofList (before ++ after)) := by
  rcases h with rfl | rfl | hlast | hhead
  · exact pieces_replicate_append separator n after
  · cases n with
    | zero => rw [List.replicate_zero, List.append_nil]
    | succ n =>
      have hrest := pieces_replicate_append separator n []
      rw [List.append_nil] at hrest
      rw [List.append_nil, List.append_nil, List.replicate_succ, pieces_append_cons, hrest]
      exact List.append_nil _
  · obtain ⟨first, rfl⟩ := List.getLast?_eq_some_iff.1 hlast
    simp only [List.append_assoc, List.cons_append, List.nil_append, pieces_append_cons,
      pieces_replicate_append]
  · obtain ⟨rest, rfl⟩ := List.head?_eq_some_iff.1 hhead
    have hswap : List.replicate n separator ++ separator :: rest =
        separator :: (List.replicate n separator ++ rest) := by
      rw [← List.cons_append, ← List.replicate_succ, List.replicate_succ', List.append_assoc,
        List.singleton_append]
    rw [List.append_assoc, hswap, pieces_append_cons, pieces_append_cons, pieces_replicate_append]

/-- Components without a separator in them come apart again when they have been joined, but for
the empty ones. -/
theorem pieces_intercalate {components : List String}
    (h : ∀ component ∈ components, '-' ∉ component.toList) :
    pieces '-' ("-".intercalate components) = components.filter (· ≠ "") := by
  cases components with
  | nil => rfl
  | cons first rest =>
    have hchars : ∀ cs ∈ (first :: rest).map String.toList, '-' ∉ cs := by
      simpa using h
    have hjoined : ("-".intercalate (first :: rest)).toList =
        ['-'].intercalate ((first :: rest).map String.toList) := by
      simp
    unfold pieces
    rw [hjoined, List.splitOn_intercalate _ hchars (by simp), List.filter_map,
      List.map_map]
    have hempty : ((fun cs : List Char => !cs.isEmpty) ∘ String.toList) =
        fun component => decide (component ≠ "") := by
      funext component
      rw [Function.comp_apply, Bool.eq_iff_iff]
      simp
    rw [hempty]
    simp [Function.comp_def]

theorem not_mem_of_mem_pieces {s piece : String} (h : piece ∈ pieces separator s) :
    separator ∉ piece.toList := by
  unfold pieces at h
  obtain ⟨cs, hcs, rfl⟩ := List.mem_map.1 h
  rw [String.toList_ofList]
  exact not_mem_of_mem_splitOn (List.mem_filter.1 hcs).1

/-- Every text is its pieces, joined again. -/
theorem exists_intercalate_eq (s : String) :
    ∃ components : List String, "-".intercalate components = s ∧
      (∀ component ∈ components, '-' ∉ component.toList) ∧
      pieces '-' s = components.filter (· ≠ "") := by
  have hdash : ∀ component ∈ (s.toList.splitOn '-').map String.ofList, '-' ∉ component.toList := by
    intro component hmem
    obtain ⟨cs, hcs, rfl⟩ := List.mem_map.1 hmem
    rw [String.toList_ofList]
    exact not_mem_of_mem_splitOn hcs
  have hjoined : "-".intercalate ((s.toList.splitOn '-').map String.ofList) = s := by
    apply String.toList_inj.1
    simp [Function.comp_def, List.intercalate_splitOn]
  refine ⟨_, hjoined, hdash, ?_⟩
  rw [← pieces_intercalate hdash, hjoined]

end Text

/-! ## Names that stand for themselves -/

namespace Triple

/-- The architectures that have a name of their own. -/
def architectureNames : List String := "x86" :: architectureStarts.map (·.2)

/-- An architecture has one of these names, or the component stands for itself. -/
theorem architectureOf_mem (component : String) :
    architectureOf component ∈ architectureNames ∨ architectureOf component = component := by
  unfold architectureOf
  split
  · exact Or.inl List.mem_cons_self
  · split
    · rename_i hfind
      exact Or.inl (List.mem_cons_of_mem _
        (List.mem_map_of_mem (f := (·.2)) (List.mem_of_find?_eq_some hfind)))
    · exact Or.inr rfl

/-- An architecture that has been read is read as itself. -/
theorem architectureOf_architectureOf (component : String) :
    architectureOf (architectureOf component) = architectureOf component := by
  have hnames : ∀ name ∈ architectureNames, architectureOf name = name := by decide
  rcases architectureOf_mem component with hmem | hself
  · exact hnames _ hmem
  · rw [hself, hself]

theorem dash_not_mem_architectureOf {component : String} (h : '-' ∉ component.toList) :
    '-' ∉ (architectureOf component).toList := by
  have hnames : ∀ name ∈ architectureNames, '-' ∉ name.toList := by decide
  rcases architectureOf_mem component with hmem | hself
  · exact hnames _ hmem
  · rw [hself]
    exact h

/-- The operating systems that have a name of their own. -/
def systemNames : List String := "android" :: "macos" :: "wasi" :: knownSystems

/-- A component names no operating system by itself. -/
def NamesNoSystem (component : String) : Prop :=
  Text.startsWith component "android" = false ∧ knownSystem? component = none

instance (component : String) : Decidable (NamesNoSystem component) :=
  inferInstanceAs (Decidable (_ ∧ _))

theorem mem_systemNames_of_knownSystem? {component system : String}
    (h : knownSystem? component = some system) : system ∈ systemNames := by
  unfold knownSystem? at h
  split at h
  · cases h
    decide
  · split at h
    · cases h
      decide
    · split at h
      · rename_i hknown
        cases h
        have hmem : component ∈ knownSystems := List.contains_iff_mem.1 hknown
        simp [systemNames, hmem]
      · cases h

/-- An operating system has a name of its own, or it is a component that names none by itself. -/
theorem systemOf_mem (second : String) (rest : List String) :
    systemOf (second :: rest) ∈ systemNames ∨
      systemOf (second :: rest) ∈ second :: rest ∧ NamesNoSystem (systemOf (second :: rest)) := by
  unfold systemOf
  split
  · exact Or.inl List.mem_cons_self
  · rename_i handroid
    cases hfind : (second :: rest).findSome? knownSystem? with
    | some system =>
      obtain ⟨component, -, hknown⟩ := List.exists_of_findSome?_eq_some hfind
      exact Or.inl (mem_systemNames_of_knownSystem? hknown)
    | none =>
      have hnone : ∀ component ∈ second :: rest, NamesNoSystem component := by
        intro component hmem
        simp only [List.any_eq_true, not_exists, not_and, Bool.not_eq_true] at handroid
        exact ⟨handroid component hmem, List.findSome?_eq_none_iff.1 hfind component hmem⟩
      cases rest with
      | nil => exact Or.inr ⟨List.mem_cons_self, hnone _ List.mem_cons_self⟩
      | cons third rest =>
        have hthird : third ∈ second :: third :: rest :=
          List.mem_cons_of_mem _ List.mem_cons_self
        exact Or.inr ⟨hthird, hnone _ hthird⟩

/-- A name is found as an operating system only under itself. -/
def IsSettled (name : String) : Prop :=
  (Text.startsWith name "android" = true → name = "android") ∧
    ∀ system ∈ knownSystem? name, system = name

instance (name : String) : Decidable (IsSettled name) := inferInstanceAs (Decidable (_ ∧ _))

theorem isSettled_systemOf (second : String) (rest : List String) :
    IsSettled (systemOf (second :: rest)) := by
  have hnames : ∀ name ∈ systemNames, IsSettled name := by decide
  rcases systemOf_mem second rest with hmem | ⟨-, handroid, hknown⟩
  · exact hnames _ hmem
  · constructor
    · intro h
      rw [handroid] at h
      cases h
    · intro system h
      rw [hknown] at h
      cases h

/-- An operating system is found again behind a vendor that is not known, if nothing that comes
after it names another one. -/
theorem systemOf_unknown_cons {system : String} {rest : List String} (h : IsSettled system)
    (hrest : ∀ component ∈ rest, NamesNoSystem component) :
    systemOf ("unknown" :: system :: rest) = system := by
  have hunknown : NamesNoSystem "unknown" := by decide
  have handroid : (rest.any fun component => Text.startsWith component "android") = false := by
    simp only [List.any_eq_false, Bool.not_eq_true]
    exact fun component hmem => (hrest component hmem).1
  have hfind : rest.findSome? knownSystem? = none :=
    List.findSome?_eq_none_iff.2 fun component hmem => (hrest component hmem).2
  unfold systemOf
  rw [List.any_cons, List.any_cons, handroid, hunknown.1, List.findSome?_cons, hunknown.2,
    List.findSome?_cons, hfind]
  cases hstart : Text.startsWith system "android" with
  | true => exact (h.1 hstart).symm
  | false =>
    cases hknown : knownSystem? system with
    | none => rfl
    | some found => exact h.2 found hknown

theorem dash_not_mem_systemOf {second : String} {rest : List String}
    (h : ∀ component ∈ second :: rest, '-' ∉ component.toList) :
    '-' ∉ (systemOf (second :: rest)).toList := by
  have hnames : ∀ name ∈ systemNames, '-' ∉ name.toList := by decide
  rcases systemOf_mem second rest with hmem | ⟨hmem, -⟩
  · exact hnames _ hmem
  · exact h _ hmem

/-- The environments that are known. -/
def knownEnvironments : List String := environmentStarts ++ environmentNames

/-- An environment is known, or there is none. -/
theorem environmentOf_mem (components : List String) :
    environmentOf components = "" ∨ environmentOf components ∈ knownEnvironments := by
  unfold environmentOf
  split
  · exact Or.inl rfl
  · split
    · exact Or.inl rfl
    · split
      · rename_i hfind
        exact Or.inr (List.mem_append_left _ (List.mem_of_find?_eq_some hfind))
      · split
        · rename_i hknown
          exact Or.inr (List.mem_append_right _ (List.contains_iff_mem.1 hknown))
        · exact Or.inl rfl

/-- A known environment is read as itself, and nothing else is read from its name. -/
theorem environmentNamed_of_mem {environment : String} (h : environment ∈ knownEnvironments) :
    environmentNamed environment = environment ∧ environment ≠ "" ∧
      '-' ∉ environment.toList ∧ NamesNoSystem environment := by
  have hnames : ∀ environment ∈ knownEnvironments, environmentNamed environment = environment ∧
      environment ≠ "" ∧ '-' ∉ environment.toList ∧ NamesNoSystem environment := by decide
  exact hnames environment h

/-! ## The full form of a triple -/

/-- The components of the full form: the vendor is not known, and an environment is written only
if there is one. -/
def components (t : Triple) : List String :=
  [t.architecture, "unknown", t.system] ++ if t.environment = "" then [] else [t.environment]

/-- The full form of a triple. -/
def canonical (t : Triple) : String := "-".intercalate t.components

/-- What can be read from a triple: names that stand for themselves. -/
structure IsRead (t : Triple) : Prop where
  architecture_ne_empty : t.architecture ≠ ""
  dash_not_mem_architecture : '-' ∉ t.architecture.toList
  architecture_self : architectureOf t.architecture = t.architecture
  system_ne_empty : t.system ≠ ""
  dash_not_mem_system : '-' ∉ t.system.toList
  system_settled : IsSettled t.system
  environment_known : t.environment = "" ∨ t.environment ∈ knownEnvironments

theorem isRead_of_parse {triple : String} {parsed : Triple} (h : parse triple = .ok parsed) :
    parsed.IsRead := by
  obtain ⟨-, harchitecture, hsystem⟩ := ne_empty_of_parse h
  obtain ⟨first, second, rest, hpieces, rfl⟩ := exists_of_parse h
  have hdash : ∀ component ∈ first :: second :: rest, '-' ∉ component.toList := by
    intro component hmem
    rw [← hpieces] at hmem
    exact Text.not_mem_of_mem_pieces hmem
  exact {
    architecture_ne_empty := harchitecture
    dash_not_mem_architecture := dash_not_mem_architectureOf (hdash first List.mem_cons_self)
    architecture_self := architectureOf_architectureOf first
    system_ne_empty := hsystem
    dash_not_mem_system :=
      dash_not_mem_systemOf fun component hmem => hdash component (List.mem_cons_of_mem _ hmem)
    system_settled := isSettled_systemOf second rest
    environment_known := environmentOf_mem (first :: second :: rest) }

/-- The full form comes apart into its components. -/
theorem IsRead.pieces_canonical {t : Triple} (h : t.IsRead) :
    Text.pieces '-' t.canonical = t.components := by
  have hunknown : "unknown" ≠ "" ∧ '-' ∉ "unknown".toList := by decide
  have hcomponents : ∀ component ∈ t.components, component ≠ "" ∧ '-' ∉ component.toList := by
    have hfirst : ∀ component ∈ [t.architecture, "unknown", t.system],
        component ≠ "" ∧ '-' ∉ component.toList := by
      simp only [List.forall_mem_cons, List.not_mem_nil, false_imp_iff, implies_true, and_true]
      exact ⟨⟨h.architecture_ne_empty, h.dash_not_mem_architecture⟩, hunknown,
        h.system_ne_empty, h.dash_not_mem_system⟩
    intro component hmem
    rcases List.mem_append.1 hmem with hmem | hmem
    · exact hfirst component hmem
    · rcases h.environment_known with hnone | hknown
      · simp [hnone] at hmem
      · obtain ⟨-, hne, hdash, -⟩ := environmentNamed_of_mem hknown
        simp only [hne, if_false, List.mem_singleton] at hmem
        exact hmem ▸ ⟨hne, hdash⟩
  unfold canonical
  rw [Text.pieces_intercalate fun component hmem => (hcomponents component hmem).2,
    List.filter_eq_self]
  exact fun component hmem => decide_eq_true (hcomponents component hmem).1

theorem parse_of_pieces {triple first second : String} {rest : List String}
    (h : Text.pieces '-' triple = first :: second :: rest) :
    parse triple = .ok ⟨architectureOf first, systemOf (second :: rest),
      environmentOf (first :: second :: rest)⟩ := by
  unfold parse
  rw [h]

/-- The full form of what can be read from a triple is read as the same. -/
theorem IsRead.parse_canonical {t : Triple} (h : t.IsRead) : parse t.canonical = .ok t := by
  rcases h.environment_known with hnone | hknown
  · have hcomponents : t.components = [t.architecture, "unknown", t.system] := by
      simp [components, hnone]
    have hsystem : systemOf ["unknown", t.system] = t.system :=
      systemOf_unknown_cons h.system_settled (by simp)
    have henvironment : environmentOf [t.architecture, "unknown", t.system] = t.environment := by
      rw [environmentOf_of_getLast? rfl, if_neg (by simp), hnone]
    rw [parse_of_pieces (h.pieces_canonical.trans hcomponents), h.architecture_self, hsystem,
      henvironment]
  · obtain ⟨hself, hne, -, hnoSystem⟩ := environmentNamed_of_mem hknown
    have hcomponents : t.components = [t.architecture, "unknown", t.system, t.environment] := by
      simp [components, hne]
    have hsystem : systemOf ["unknown", t.system, t.environment] = t.system :=
      systemOf_unknown_cons h.system_settled (by simpa using hnoSystem)
    have henvironment :
        environmentOf [t.architecture, "unknown", t.system, t.environment] = t.environment := by
      rw [environmentOf_of_getLast? rfl, if_pos (by simp)]
      exact hself
    rw [parse_of_pieces (h.pieces_canonical.trans hcomponents), h.architecture_self, hsystem,
      henvironment]

/-! ## Reading triples -/

/-- What a triple says depends on its nonempty components only. -/
theorem parse_eq_ok_congr {triple other : String}
    (h : Text.pieces '-' triple = Text.pieces '-' other) (parsed : Triple) :
    parse triple = .ok parsed ↔ parse other = .ok parsed := by
  unfold parse
  rw [h]
  split
  · rfl
  · exact iff_of_false nofun nofun

theorem exists_parse_iff (triple : String) :
    (∃ parsed, parse triple = .ok parsed) ↔ 2 ≤ (Text.pieces '-' triple).length := by
  constructor
  · rintro ⟨parsed, h⟩
    obtain ⟨first, second, rest, hpieces, -⟩ := exists_of_parse h
    rw [hpieces, List.length_cons, List.length_cons]
    omega
  · intro h
    match hpieces : Text.pieces '-' triple with
    | first :: second :: rest => exact ⟨_, parse_of_pieces hpieces⟩
    | [_] | [] =>
      rw [hpieces] at h
      simp at h

/-- What a triple says has an architecture and an operating system without dashes, and its full
form says the same again. A triple can be read exactly if it has two nonempty components, and
further dashes at its ends or beside another dash make no difference. -/
theorem a_triple_is_read_from_its_full_form (triple : String) :
    (∀ parsed, parse triple = .ok parsed →
      (parsed.architecture ≠ "" ∧ '-' ∉ parsed.architecture.toList) ∧
      (parsed.system ≠ "" ∧ '-' ∉ parsed.system.toList) ∧
      parse parsed.canonical = .ok parsed) ∧
    ((∃ parsed, parse triple = .ok parsed) ↔
      ∃ components : List String, "-".intercalate components = triple ∧
        (∀ component ∈ components, '-' ∉ component.toList) ∧
        2 ≤ (components.filter (· ≠ "")).length) ∧
    ∀ before after, triple = .ofList (before ++ after) → Text.IsBorder '-' before after →
      ∀ n parsed, parse (.ofList (before ++ List.replicate n '-' ++ after)) = .ok parsed ↔
        parse triple = .ok parsed := by
  refine ⟨fun parsed h => ?_, ?_, fun before after htriple hborder n parsed => ?_⟩
  · have hread := isRead_of_parse h
    exact ⟨⟨hread.architecture_ne_empty, hread.dash_not_mem_architecture⟩,
      ⟨hread.system_ne_empty, hread.dash_not_mem_system⟩, hread.parse_canonical⟩
  · rw [exists_parse_iff]
    constructor
    · intro h
      obtain ⟨components, hjoined, hdash, hpieces⟩ := Text.exists_intercalate_eq triple
      exact ⟨components, hjoined, hdash, hpieces ▸ h⟩
    · rintro ⟨components, rfl, hdash, h⟩
      rw [Text.pieces_intercalate hdash]
      exact h
  · rw [htriple]
    exact parse_eq_ok_congr (Text.pieces_insert hborder n) parsed

/-- A triple with empty components and its full form say the same. -/
theorem the_full_form_of_a_windows_triple_is_read :
    parse "-i686--pc-windows-gnullvm" = .ok ⟨"x86", "windows", "gnu"⟩ ∧
      parse "x86-unknown-windows-gnu" = .ok ⟨"x86", "windows", "gnu"⟩ := by
  have hparse : parse "-i686--pc-windows-gnullvm" = .ok ⟨"x86", "windows", "gnu"⟩ := by rfl
  obtain ⟨hread, -⟩ := a_triple_is_read_from_its_full_form "-i686--pc-windows-gnullvm"
  exact ⟨hparse, (hread _ hparse).2.2⟩

end Triple

end CrossBuild
