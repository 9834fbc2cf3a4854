-- A target that is read from variables and one that is read from its triple. They
-- differ in nothing but the environment, and there only if an empty component
-- moves the others to another place.
import CrossBuild.Proofs.Texts
import CrossBuild.Target

namespace CrossBuild

/-! ## Pieces of a text -/

namespace Text

variable {separator : Char}

theorem ne_empty_of_mem_pieces {s piece : String} (h : piece ∈ pieces separator s) :
    piece ≠ "" := by
  unfold pieces at h
  obtain ⟨cs, hcs, rfl⟩ := List.mem_map.1 h
  have hne : cs ≠ [] := by simpa using (List.mem_filter.1 hcs).2
  intro heq
  exact hne (String.ofList_eq_empty_iff.1 heq)

/-- The last piece of the characters is empty if they end in the separator. -/
theorem getLast?_splitOn_iff {cs : List Char} (hne : cs ≠ []) :
    (cs.splitOn separator).getLast? = some [] ↔ cs.getLast? = some separator := by
  by_cases hmem : separator ∈ cs
  · obtain ⟨first, rest, hcs, hfirst⟩ := List.eq_append_cons_of_mem hmem
    have hlength : rest.length < cs.length := by
      rw [hcs, List.length_append, List.length_cons]
      omega
    have hend : cs.getLast? = (separator :: rest).getLast? := by
      rw [hcs, List.getLast?_append, List.getLast?_cons, Option.some_or]
    rw [hend, hcs, List.splitOn_append_cons_self_of_not_mem hfirst,
      List.getLast?_cons_of_ne_nil (List.splitOn_ne_nil _ rest)]
    by_cases hrest : rest = []
    · rw [hrest]
      exact ⟨fun _ => rfl, fun _ => rfl⟩
    · rw [List.getLast?_cons_of_ne_nil hrest]
      exact getLast?_splitOn_iff hrest
  · rw [List.splitOn_eq_singleton hmem]
    constructor
    · intro h
      exact absurd (by simpa using h) hne
    · intro h
      exact absurd (List.mem_of_getLast? h) hmem
termination_by cs.length

/-- Characters that do not end in the separator have a last piece that is one of the nonempty
pieces, and the last one of these. -/
theorem exists_getLast?_splitOn {s : String} (hs : s ≠ "")
    (hlast : s.toList.getLast? ≠ some separator) :
    ∃ last, (s.toList.splitOn separator).getLast? = some last ∧
      (pieces separator s).getLast? = some (String.ofList last) := by
  have hne : s.toList ≠ [] := fun h => hs (String.toList_eq_nil_iff.1 h)
  obtain ⟨init, last, hpieces⟩ : ∃ init last, s.toList.splitOn separator = init ++ [last] :=
    ⟨_, _, (List.dropLast_concat_getLast (List.splitOn_ne_nil _ _)).symm⟩
  have hget : (s.toList.splitOn separator).getLast? = some last := by
    rw [hpieces, List.getLast?_concat]
  have hlast : last ≠ [] := by
    rintro rfl
    exact hlast ((getLast?_splitOn_iff hne).1 hget)
  refine ⟨last, hget, ?_⟩
  unfold pieces
  rw [hpieces, List.filter_append, List.filter_cons_of_pos (by simpa using hlast),
    List.filter_nil, List.map_append, List.map_singleton, List.getLast?_concat]

end Text

/-! ## What a triple says -/

namespace Triple

/-- The environment that a component names where the environment stands. -/
def environmentNamed (component : String) : String := environmentOf ["", "", "", component]

theorem environmentOf_of_getLast? {components : List String} {last : String}
    (hlast : components.getLast? = some last) :
    environmentOf components =
      if 4 ≤ components.length then environmentNamed last else "" := by
  unfold environmentNamed environmentOf
  rw [hlast]
  dsimp only [List.getLast?_cons_cons, List.getLast?_singleton]
  by_cases h : 4 ≤ components.length
  · rw [if_pos h, if_neg (Nat.not_lt.2 h)]
    rfl
  · rw [if_neg h, if_pos (Nat.lt_of_not_le h)]

theorem environmentNamed_empty : environmentNamed "" = "" := by decide

theorem architectureOf_ne_empty {component : String} (h : component ≠ "") :
    architectureOf component ≠ "" := by
  have hnames : ∀ pair ∈ architectureStarts, pair.2 ≠ "" := by decide
  unfold architectureOf
  split
  · decide
  · split
    · rename_i hfind
      exact hnames _ (List.mem_of_find?_eq_some hfind)
    · exact h

theorem knownSystem?_ne_empty {component system : String}
    (h : knownSystem? component = some system) : system ≠ "" := by
  have hnames : ∀ name ∈ knownSystems, name ≠ "" := by decide
  unfold knownSystem? at h
  split at h
  · cases h
    decide
  · split at h
    · cases h
      decide
    · split at h
      · rename_i hknown
        cases h
        exact hnames _ (List.contains_iff_mem.1 hknown)
      · cases h

theorem systemOf_ne_empty {second : String} {rest : List String}
    (h : ∀ component ∈ second :: rest, component ≠ "") : systemOf (second :: rest) ≠ "" := by
  unfold systemOf
  split
  · decide
  · cases hfind : (second :: rest).findSome? knownSystem? with
    | some system =>
      obtain ⟨component, -, hknown⟩ := List.exists_of_findSome?_eq_some hfind
      exact knownSystem?_ne_empty hknown
    | none =>
      cases rest with
      | nil => exact h _ List.mem_cons_self
      | cons third rest => exact h _ (List.mem_cons_of_mem _ List.mem_cons_self)

/-- A triple that can be read has its nonempty components in it. -/
theorem exists_of_parse {triple : String} {parsed : Triple} (h : parse triple = .ok parsed) :
    ∃ first second rest, Text.pieces '-' triple = first :: second :: rest ∧
      parsed = ⟨architectureOf first, systemOf (second :: rest),
        environmentOf (first :: second :: rest)⟩ := by
  unfold parse at h
  split at h
  · rename_i first second rest hpieces
    cases h
    exact ⟨first, second, rest, hpieces, rfl⟩
  · cases h

theorem ne_empty_of_parse {triple : String} {parsed : Triple} (h : parse triple = .ok parsed) :
    triple ≠ "" ∧ parsed.architecture ≠ "" ∧ parsed.system ≠ "" := by
  obtain ⟨first, second, rest, hpieces, rfl⟩ := exists_of_parse h
  have hne : ∀ component ∈ first :: second :: rest, component ≠ "" := by
    intro component hmem
    rw [← hpieces] at hmem
    exact Text.ne_empty_of_mem_pieces hmem
  refine ⟨?_, architectureOf_ne_empty (hne _ List.mem_cons_self),
    systemOf_ne_empty fun component hmem => hne _ (List.mem_cons_of_mem _ hmem)⟩
  rintro rfl
  cases hpieces

/-- The components of a triple with the empty ones among them. -/
def written (triple : String) : List String :=
  (triple.toList.splitOn '-').map String.ofList

/-- Empty components make no difference to the environment: the last nonempty one names none,
or it stands in the place of the environment either way. -/
def KeepsEnvironment (triple : String) : Prop :=
  (∀ last ∈ (Text.pieces '-' triple).getLast?, environmentNamed last = "") ∨
    (4 ≤ (Text.pieces '-' triple).length ↔
      4 ≤ (written triple).length ∧ triple.toList.getLast? ≠ some '-')

instance (triple : String) : Decidable (KeepsEnvironment triple) :=
  inferInstanceAs (Decidable (_ ∨ _))

theorem environmentOf_written_iff {triple : String} (h : triple ≠ "") :
    environmentOf (written triple) = environmentOf (Text.pieces '-' triple) ↔
      KeepsEnvironment triple := by
  unfold KeepsEnvironment
  by_cases hend : triple.toList.getLast? = some '-'
  · have hne : triple.toList ≠ [] := fun hnil => h (String.toList_eq_nil_iff.1 hnil)
    have hwritten : (written triple).getLast? = some "" := by
      unfold written
      rw [List.getLast?_map, (Text.getLast?_splitOn_iff hne).2 hend]
      rfl
    rw [environmentOf_of_getLast? hwritten, environmentNamed_empty, ite_self]
    cases hpieces : (Text.pieces '-' triple).getLast? with
    | none =>
      rw [List.getLast?_eq_none_iff.1 hpieces]
      simp [environmentOf]
    | some last =>
      rw [environmentOf_of_getLast? hpieces]
      grind
  · obtain ⟨last, hlast, hpieces⟩ := Text.exists_getLast?_splitOn h hend
    have hwritten : (written triple).getLast? = some (String.ofList last) := by
      unfold written
      rw [List.getLast?_map, hlast]
      rfl
    rw [environmentOf_of_getLast? hwritten, environmentOf_of_getLast? hpieces, hpieces]
    grind

end Triple

/-! ## Sets of features -/

namespace FeatureSet

theorem nodup_eraseDups (names : List String) : names.eraseDups.Nodup := by
  cases names with
  | nil => exact List.nodup_nil
  | cons name names =>
    have hlength := List.length_filter_le (fun other => !other == name) names
    rw [List.eraseDups_cons, List.nodup_cons]
    exact ⟨by simp, nodup_eraseDups _⟩
termination_by names.length
decreasing_by
  rw [List.length_cons]
  omega

theorem mem_ofList {name : String} {names : List String} :
    name ∈ (ofList names).names ↔ name ∈ names := by
  unfold ofList
  rw [(List.mergeSort_perm _ _).mem_iff, List.mem_eraseDups]

/-- A set of features is known by its members. -/
theorem ofList_eq_iff (names others : List String) :
    ofList names = ofList others ↔ ∀ name, name ∈ names ↔ name ∈ others := by
  constructor
  · intro h name
    rw [← mem_ofList, h, mem_ofList]
  · intro h
    have hsorted (names : List String) :
        (ofList names).names.Pairwise fun a b => decide (a ≤ b) = true := by
      apply List.pairwise_mergeSort
      · intro a b c hab hbc
        exact decide_eq_true (String.le_trans (of_decide_eq_true hab) (of_decide_eq_true hbc))
      · intro a b
        simpa using String.le_total a b
    have hperm : (ofList names).names.Perm (ofList others).names := by
      refine (List.mergeSort_perm _ _).trans (.trans ?_ (List.mergeSort_perm _ _).symm)
      rw [List.perm_ext_iff_of_nodup (nodup_eraseDups names) (nodup_eraseDups others)]
      intro name
      rw [List.mem_eraseDups, List.mem_eraseDups, h]
    rw [FeatureSet.mk.injEq]
    apply hperm.eq_of_pairwise _ (hsorted names) (hsorted others)
    intro a b _ _ hab hba
    exact String.le_antisymm (of_decide_eq_true hab) (of_decide_eq_true hba)

end FeatureSet

/-! ## Two descriptions of one target -/

/-- The variables describe a build for the triple, without a word on its environment, and the
settings say the same as they do about everything besides the triple. -/
structure Environment.Gives (env : Environment) (cwd : Path) (triple : String) (parsed : Triple)
    (s : Target.Settings) : Prop where
  triple : env.lookup "TARGET" = some triple
  architecture : env.lookup "CARGO_CFG_TARGET_ARCH" = some parsed.architecture
  system : env.lookup "CARGO_CFG_TARGET_OS" = some parsed.system
  environment : env.lookup "CARGO_CFG_TARGET_ENV" = none
  host : ∃ name, env.lookup "HOST" = some name ∧ name ≠ "" ∧ s.host = some name
  outDir : ∃ folder, env.lookup "OUT_DIR" = some folder ∧ folder ≠ "" ∧
    s.outDir = .ofString folder
  debugInfo : env.lookup "DEBUG" = some (if s.debugInfo then "true" else "false")
  optLevel : env.lookup "OPT_LEVEL" = some s.optLevel ∧ s.optLevel ≠ ""
  features : ∀ name, name ∈ s.features ↔
    name ∈ (FeatureSet.ofVariables (env.map (·.1))).names
  projectDir : s.projectDir.getD cwd = (env.path? "CARGO_MANIFEST_DIR").getD cwd
  ndkHome : s.ndkHome = env.path? "ANDROID_NDK_HOME"
  prebuilt : s.prebuilt = env.path? "BORING_BSSL_PATH"
  headers : s.headers = env.path? "BORING_BSSL_INCLUDE_PATH"

namespace Target

variable {cwd : Path} {env : Environment} {triple : String} {parsed : Triple} {s : Settings}

theorem require_of_lookup {name value : String} (h : env.lookup name = some value)
    (hne : value ≠ "") : env.require name = .ok value := by
  unfold Environment.require
  rw [h]
  exact if_neg hne

theorem parseDebug_text (debugInfo : Bool) :
    parseDebug (if debugInfo then "true" else "false") = .ok debugInfo := by
  cases debugInfo <;> rfl

/-- The target of the triple with the settings. -/
def described (cwd : Path) (triple : String) (parsed : Triple) (s : Settings) : Target where
  architecture := parsed.architecture
  system := parsed.system
  host := (s.host.filter (· ≠ "")).getD triple
  triple := triple
  features := .ofList s.features
  environment := parsed.environment
  debugInfo := s.debugInfo
  optLevel := s.optLevel
  outDir := s.outDir
  projectDir := s.projectDir.getD cwd
  ndkHome := s.ndkHome
  prebuilt := s.prebuilt
  headers := s.headers

theorem ofTriple_eq (h : Triple.parse triple = .ok parsed) :
    ofTriple cwd triple s = .ok (described cwd triple parsed s) := by
  unfold ofTriple
  rw [h]
  rfl

/-- The variables give the target of the triple, but for the environment, which they take from
the components as they are written. -/
theorem ofEnvironment_eq (h : Triple.parse triple = .ok parsed)
    (hgives : env.Gives cwd triple parsed s) :
    ofEnvironment cwd env =
      .ok { described cwd triple parsed s with
        environment := Triple.environmentOf (Triple.written triple) } := by
  obtain ⟨htriple, harchitecture, hsystem⟩ := Triple.ne_empty_of_parse h
  obtain ⟨host, hhost, hhost', hs⟩ := hgives.host
  obtain ⟨folder, hfolder, hfolder', houtDir⟩ := hgives.outDir
  have hdebug : (if s.debugInfo then "true" else "false") ≠ "" := by cases s.debugInfo <;> decide
  have hfeatures : FeatureSet.ofVariables (env.map (·.1)) = .ofList s.features := by
    unfold FeatureSet.ofVariables
    rw [FeatureSet.ofList_eq_iff]
    intro name
    rw [hgives.features name]
    exact FeatureSet.mem_ofList.symm
  have hnamed : (s.host.filter (· ≠ "")).getD triple = host := by
    rw [hs, Option.filter_some, if_pos (by simpa using hhost')]
    rfl
  unfold ofEnvironment
  rw [require_of_lookup hgives.architecture harchitecture, require_of_lookup hgives.system hsystem,
    require_of_lookup hhost hhost', require_of_lookup hgives.triple htriple,
    require_of_lookup hgives.debugInfo hdebug,
    require_of_lookup hgives.optLevel.1 hgives.optLevel.2, require_of_lookup hfolder hfolder',
    hgives.environment, hfeatures, ← hgives.projectDir, ← hgives.ndkHome, ← hgives.prebuilt,
    ← hgives.headers]
  change (parseDebug _ >>= _) = _
  rw [parseDebug_text, described, hnamed, houtDir]
  rfl

/-- The variables of a build and its triple both describe a target, and the same one but for the
environment. The environment is the same too exactly if empty components of the triple make no
difference to it. -/
theorem both_descriptions_agree_iff (h : Triple.parse triple = .ok parsed)
    (hgives : env.Gives cwd triple parsed s) :
    ∃ fromTriple fromVariables,
      ofTriple cwd triple s = .ok fromTriple ∧ ofEnvironment cwd env = .ok fromVariables ∧
      fromTriple.environment = parsed.environment ∧
      { fromVariables with environment := parsed.environment } = fromTriple ∧
      (fromVariables = fromTriple ↔ Triple.KeepsEnvironment triple) := by
  refine ⟨_, _, ofTriple_eq h, ofEnvironment_eq h hgives, rfl, rfl, ?_⟩
  obtain ⟨first, second, rest, hpieces, rfl⟩ := Triple.exists_of_parse h
  rw [← Triple.environmentOf_written_iff (Triple.ne_empty_of_parse h).1, hpieces]
  unfold described
  simp only [Target.mk.injEq, true_and, and_true]

/-- The variables of a build for Windows with the given triple. -/
def windowsVariables (triple : String) : Environment := [
  ("TARGET", triple), ("HOST", "x86_64-unknown-linux-gnu"), ("OUT_DIR", "/out"),
  ("CARGO_CFG_TARGET_ARCH", "x86_64"), ("CARGO_CFG_TARGET_OS", "windows"),
  ("CARGO_FEATURE_SSL", "1"), ("CARGO_FEATURE_NDK_OLD_GCC", "1"), ("DEBUG", "false"),
  ("OPT_LEVEL", "3"), ("CARGO_MANIFEST_DIR", "/crate"), ("BORING_BSSL_PATH", "/bssl")]

/-- What they say besides the triple. -/
def windowsSettings : Settings where
  outDir := .ofString "/out"
  host := some "x86_64-unknown-linux-gnu"
  features := ["ssl", "ndk-old-gcc"]
  optLevel := "3"
  projectDir := some (.ofString "/crate")
  prebuilt := some (.ofString "/bssl")

theorem windowsVariables_gives (triple environment : String) :
    (windowsVariables triple).Gives (.ofString "/") triple ⟨"x86_64", "windows", environment⟩
      windowsSettings where
  triple := rfl
  architecture := rfl
  system := rfl
  environment := rfl
  host := ⟨_, rfl, by decide, rfl⟩
  outDir := ⟨_, rfl, by decide, rfl⟩
  debugInfo := rfl
  optLevel := ⟨rfl, by decide⟩
  features := by
    have hnames : (windowsVariables triple).map (·.1) = (windowsVariables "").map (·.1) := rfl
    have hfeatures : ((windowsVariables "").map (·.1)).filterMap FeatureSet.ofVariable? =
        windowsSettings.features := by decide +kernel
    intro name
    rw [hnames, FeatureSet.ofVariables, hfeatures, FeatureSet.mem_ofList]
  projectDir := rfl
  ndkHome := rfl
  prebuilt := rfl
  headers := rfl

/-- A build for Windows with the usual triple has one target. -/
theorem the_usual_windows_target_is_one :
    Triple.parse "x86_64-pc-windows-msvc" = .ok ⟨"x86_64", "windows", "msvc"⟩ ∧
    (windowsVariables "x86_64-pc-windows-msvc").Gives (.ofString "/") "x86_64-pc-windows-msvc"
      ⟨"x86_64", "windows", "msvc"⟩ windowsSettings ∧
    ofEnvironment (.ofString "/") (windowsVariables "x86_64-pc-windows-msvc") =
      ofTriple (.ofString "/") "x86_64-pc-windows-msvc" windowsSettings := by
  have hparse : Triple.parse "x86_64-pc-windows-msvc" = .ok ⟨"x86_64", "windows", "msvc"⟩ := by
    rfl
  have hgives := windowsVariables_gives "x86_64-pc-windows-msvc" "msvc"
  obtain ⟨fromTriple, fromVariables, htriple, hvariables, -, -, hiff⟩ :=
    both_descriptions_agree_iff hparse hgives
  refine ⟨hparse, hgives, ?_⟩
  rw [htriple, hvariables, hiff.2 (by decide +kernel)]

/-- With an empty component in the triple, the variables give the environment `msvc` and the
triple gives none. -/
theorem an_empty_component_moves_the_environment :
    Triple.parse "x86_64--windows-msvc" = .ok ⟨"x86_64", "windows", ""⟩ ∧
    (windowsVariables "x86_64--windows-msvc").Gives (.ofString "/") "x86_64--windows-msvc"
      ⟨"x86_64", "windows", ""⟩ windowsSettings ∧
    (ofTriple (.ofString "/") "x86_64--windows-msvc" windowsSettings).map (·.environment) = .ok "" ∧
    (ofEnvironment (.ofString "/") (windowsVariables "x86_64--windows-msvc")).map
      (·.environment) = .ok "msvc" := by
  refine ⟨rfl, windowsVariables_gives _ _, rfl, rfl⟩

end Target

end CrossBuild
