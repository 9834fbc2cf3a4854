-- What a settings file makes of the layout of a project. The entries of the
-- layout are read one by one, so keys that no entry has make no difference to
-- them, but a single one of these that is not a text ends the run.
import CrossBuild.Layout.File
import CrossBuild.Proofs.Actions
import CrossBuild.Proofs.KeptDisks

namespace CrossBuild

/-- The entries of a document for a layout: null has none, and any other value has to be a
mapping. -/
def Document.settings? (d : Document) : Option (List (Value × Value)) :=
  if d.root.isNull then some [] else d.entries? d.root

/-- Whether a value is a text. -/
def Value.isText : Value → Bool
  | text _ => true
  | _ => false

namespace Layout

/-! ## The entries of a layout -/

namespace Key

theorem mem_all (k : Key) : k ∈ all := by cases k <;> decide

theorem name_inj {k k' : Key} (h : Text.codePoints k.name = Text.codePoints k'.name) : k = k' := by
  revert h
  cases k <;> cases k' <;> decide

/-- A table with a text for each key has the text of every key. -/
theorem lookup_map_all (text : Key → String) (k : Key) :
    (all.map fun k => (k, text k)).lookup k = some (text k) := by
  cases k <;> rfl

end Key

/-- The value that the settings give to an entry. Null gives none. -/
def given? (settings : List (Value × Value)) (k : Key) : Option Value :=
  (valueOf? k.name settings).filter fun value => !value.isNull

theorem settingText?_eq (d : Document) (settings : List (Value × Value)) (k : Key) :
    settingText? d settings k =
      match given? settings k with
      | some value => d.display value
      | none => some k.default := by
  unfold settingText? given?
  cases valueOf? k.name settings with
  | none => rfl
  | some value => cases value <;> rfl

section

variable {entry : Key → Option String} {text : Key → String} {keys : List Key}

theorem mapM_of_forall (h : ∀ k ∈ keys, entry k = some (text k)) :
    (keys.mapM fun k => do return (k, ← entry k)) = some (keys.map fun k => (k, text k)) := by
  induction keys with
  | nil => rfl
  | cons k keys ih =>
    rw [List.mapM_cons, h k List.mem_cons_self, ih fun k' hk' => h k' (List.mem_cons_of_mem _ hk')]
    rfl

theorem isSome_of_mapM {texts : List (Key × String)}
    (h : (keys.mapM fun k => do return (k, ← entry k)) = some texts) :
    ∀ k ∈ keys, (entry k).isSome = true := by
  induction keys generalizing texts with
  | nil => exact fun k hk => absurd hk List.not_mem_nil
  | cons k keys ih =>
    rw [List.mapM_cons] at h
    obtain ⟨pair, hpair, h⟩ := Option.bind_eq_some_iff.1 h
    obtain ⟨rest, hrest, -⟩ := Option.bind_eq_some_iff.1 h
    obtain ⟨first, hfirst, -⟩ := Option.bind_eq_some_iff.1 hpair
    intro k' hk'
    rcases List.mem_cons.1 hk' with rfl | hk'
    · exact Option.isSome_of_eq_some hfirst
    · exact ih hrest k' hk'

end

/-- Settings give a layout if each of its entries has the text that they give to it. -/
theorem resolve?_eq_some_iff {d : Document} {settings : List (Value × Value)} {l : Layout} :
    resolve? d settings = some l ↔ ∀ k, settingText? d settings k = some (l.get k) := by
  have hresolve {text : Key → String} (h : ∀ k, settingText? d settings k = some (text k)) :
      resolve? d settings = some (ofKeys text) := by
    unfold resolve?
    rw [mapM_of_forall fun k _ => h k]
    refine congrArg (fun text => some (ofKeys text)) (funext fun k => ?_)
    rw [Key.lookup_map_all]
    rfl
  constructor
  · intro h k
    have hsome : ∀ k, (settingText? d settings k).isSome = true := by
      intro k
      unfold resolve? at h
      obtain ⟨texts, htexts, -⟩ := Option.bind_eq_some_iff.1 h
      exact isSome_of_mapM htexts k k.mem_all
    have htext (k : Key) :
        settingText? d settings k = some ((settingText? d settings k).get (hsome k)) :=
      (Option.some_get _).symm
    rw [hresolve htext] at h
    rw [← Option.some.inj h, get_ofKeys]
    exact htext k
  · exact hresolve

/-! ## A layout as settings -/

/-- The settings that write a layout out. -/
def settings (l : Layout) : List (Value × Value) :=
  Key.all.map fun k => (.ofString k.name, .ofString (l.get k))

theorem valueOf?_map {name : Key → String} {value : Key → Value} {keys : List Key} {k : Key}
    (hname : ∀ k', Text.codePoints (name k') = Text.codePoints (name k) → k' = k) (hk : k ∈ keys) :
    valueOf? (name k) (keys.map fun k => (.ofString (name k), value k)) = some (value k) := by
  induction keys with
  | nil => exact absurd hk List.not_mem_nil
  | cons first keys ih =>
    rw [List.map_cons, Value.ofString, valueOf?]
    by_cases heq : Text.codePoints (name first) = Text.codePoints (name k)
    · rw [if_pos heq, hname first heq]
    · rw [if_neg heq]
      refine ih ((List.mem_cons.1 hk).resolve_left ?_)
      rintro rfl
      exact heq rfl

/-- A text is shown as it is: a character is no half of a pair, so it is never joined to the next
one. -/
theorem display_ofString (d : Document) (s : String) : d.display (.ofString s) = some s := by
  have hjoin (cs : List Char) : Text.joinHalves (cs.map .ofChar) = cs := by
    induction cs with
    | nil => rfl
    | cons c cs ih =>
      have hc := Text.CodePoint.isHalf_ofChar c
      rw [Text.CodePoint.isHalf, Bool.or_eq_false_iff] at hc
      cases cs with
      | nil => simp [Text.joinHalves, Text.CodePoint.toChar_ofChar]
      | cons c' cs =>
        rw [List.map_cons, List.map_cons, Text.joinHalves, hc.1, Bool.false_and,
          if_neg Bool.false_ne_true, Text.CodePoint.toChar_ofChar, ← List.map_cons, ih]
  change some (String.ofList (Text.joinHalves (s.toList.map .ofChar))) = some s
  rw [hjoin, String.ofList_toList]

/-- A layout that is written out gives itself. -/
theorem resolve?_settings (d : Document) (l : Layout) : resolve? d l.settings = some l := by
  rw [resolve?_eq_some_iff]
  intro k
  have hvalue : valueOf? k.name l.settings = some (.ofString (l.get k)) :=
    valueOf?_map (fun k' h => Key.name_inj h) k.mem_all
  unfold settingText?
  rw [hvalue]
  exact display_ofString d (l.get k)

/-! ## Keys that no entry has -/

/-- A key that is the name of an entry. -/
def IsKnown (points : List Text.CodePoint) : Prop := ∃ k : Key, points = Text.codePoints k.name

/-- What the search for unknown keys notes about a key: nothing if it is known, and its text if
it has one. -/
def unknown? : Value → Option (Option (List Text.CodePoint))
  | .text points =>
    if (Key.all.map fun k => Text.codePoints k.name).contains points then none
    else some (some points)
  | _ => some none

theorem unknown?_text_eq_some_iff {points points' : List Text.CodePoint} :
    unknown? (.text points) = some (some points') ↔ ¬IsKnown points ∧ points = points' := by
  have hknown : (Key.all.map fun k => Text.codePoints k.name).contains points = true ↔
      IsKnown points := by
    rw [List.contains_iff_mem, List.mem_map]
    constructor
    · rintro ⟨k, -, hk⟩
      exact ⟨k, hk.symm⟩
    · rintro ⟨k, hk⟩
      exact ⟨k, k.mem_all, hk.symm⟩
  unfold unknown?
  by_cases h : IsKnown points
  · simp only [if_pos (hknown.2 h), reduceCtorEq, h, not_true_eq_false, false_and]
  · simp only [if_neg fun hcontains => h (hknown.1 hcontains), Option.some.injEq, h,
      not_false_eq_true, true_and]

theorem unknownKeys_eq (settings : List (Value × Value)) :
    unknownKeys settings =
      ((settings.filterMap fun entry => unknown? entry.1).mapM id).map fun names =>
        (names.mergeSort Text.codePointsLe).map Text.ofCodePoints := rfl

section

variable {α : Type} {as : List (Option α)}

theorem mapM_id_eq_some_iff {members : List α} :
    as.mapM id = some members ↔ as = members.map some := by
  induction as generalizing members with
  | nil => cases members <;> simp
  | cons a as ih =>
    rw [List.mapM_cons]
    cases a with
    | none => cases members <;> simp
    | some a =>
      cases members with
      | nil => simp [Option.bind_eq_some_iff]
      | cons first members =>
        rw [List.map_cons, List.cons.injEq, ← ih]
        simpa [Option.bind_eq_some_iff] using and_comm

theorem mapM_id_isSome_iff : (as.mapM id).isSome = true ↔ ∀ a ∈ as, a.isSome = true := by
  induction as with
  | nil => simp
  | cons a as ih =>
    rw [List.mapM_cons, List.forall_mem_cons, ← ih]
    cases a with
    | none => simp
    | some a => cases as.mapM id <;> simp

end

/-- The unknown keys can be named exactly if all keys are texts. -/
theorem unknownKeys_isSome_iff (settings : List (Value × Value)) :
    (unknownKeys settings).isSome = true ↔ ∀ entry ∈ settings, entry.1.isText = true := by
  rw [unknownKeys_eq, Option.isSome_map, mapM_id_isSome_iff]
  constructor
  · rintro h ⟨key, value⟩ hmem
    cases key with
    | text points => rfl
    | _ => cases h none (List.mem_filterMap.2 ⟨_, hmem, rfl⟩)
  · intro h note hnote
    obtain ⟨⟨key, value⟩, hmem, hkey⟩ := List.mem_filterMap.1 hnote
    have htext := h _ hmem
    cases key with
    | text points =>
      dsimp only [unknown?] at hkey
      split at hkey
      · cases hkey
      · cases hkey
        rfl
    | _ => cases htext

theorem mem_unknownKeys {settings : List (Value × Value)} {names : List String}
    (h : unknownKeys settings = some names) (name : String) :
    name ∈ names ↔ ∃ points value, (.text points, value) ∈ settings ∧ ¬IsKnown points ∧
      Text.ofCodePoints points = name := by
  have hkeys : ∀ entry ∈ settings, entry.1.isText = true :=
    (unknownKeys_isSome_iff settings).1 (Option.isSome_of_eq_some h)
  rw [unknownKeys_eq] at h
  obtain ⟨members, hmembers, rfl⟩ := Option.map_eq_some_iff.1 h
  have hmem (points : List Text.CodePoint) : points ∈ members ↔
      ∃ value, (.text points, value) ∈ settings ∧ ¬IsKnown points := by
    have hnoted : points ∈ members ↔
        some points ∈ settings.filterMap fun entry => unknown? entry.1 := by
      rw [mapM_id_eq_some_iff.1 hmembers]
      simp
    rw [hnoted, List.mem_filterMap]
    constructor
    · rintro ⟨⟨key, value⟩, hentry, hkey⟩
      have htext := hkeys _ hentry
      cases key with
      | text points' =>
        obtain ⟨hknown, rfl⟩ := unknown?_text_eq_some_iff.1 hkey
        exact ⟨value, hentry, hknown⟩
      | _ => cases htext
    · rintro ⟨value, hentry, hknown⟩
      exact ⟨_, hentry, unknown?_text_eq_some_iff.2 ⟨hknown, rfl⟩⟩
  rw [List.mem_map]
  constructor
  · rintro ⟨points, hpoints, hname⟩
    obtain ⟨value, hentry, hknown⟩ := (hmem points).1 ((List.mergeSort_perm _ _).mem_iff.1 hpoints)
    exact ⟨points, value, hentry, hknown, hname⟩
  · rintro ⟨points, value, hentry, hknown, hname⟩
    have hpoints := (hmem points).2 ⟨value, hentry, hknown⟩
    exact ⟨points, (List.mergeSort_perm _ _).mem_iff.2 hpoints, hname⟩

/-! ## What settings come to -/

variable {host : Host} {s : Session} {path : Path} {d : Document}
  {entries : List (Value × Value)} {l : Layout}

/-- The layout has what the settings give to its entries, each as a text, and the defaults for
the others. -/
def Describes (d : Document) (entries : List (Value × Value)) (l : Layout) : Prop :=
  ∀ k, match given? entries k with
    | some value => d.display value = some (l.get k)
    | none => l.get k = k.default

/-- All keys of the settings are texts, and what they give to the entries of a layout can be
written out. -/
structure CanBeUsed (d : Document) (entries : List (Value × Value)) : Prop where
  keys : ∀ entry ∈ entries, entry.1.isText = true
  values : ∀ k value, given? entries k = some value → (d.display value).isSome = true

theorem resolve?_eq_some_iff_describes : resolve? d entries = some l ↔ Describes d entries l := by
  rw [resolve?_eq_some_iff]
  refine forall_congr' fun k => ?_
  rw [settingText?_eq]
  cases given? entries k with
  | none =>
    rw [Option.some.injEq]
    exact eq_comm
  | some value => exact Iff.rfl

theorem exists_describes_iff :
    (∃ l, Describes d entries l) ↔
      ∀ k value, given? entries k = some value → (d.display value).isSome = true := by
  constructor
  · rintro ⟨l, hl⟩ k value hk
    have hvalue := hl k
    rw [hk] at hvalue
    exact Option.isSome_of_eq_some hvalue
  · intro h
    refine ⟨ofKeys fun k => ((settingText? d entries k).getD ""), fun k => ?_⟩
    rw [get_ofKeys, settingText?_eq]
    cases hk : given? entries k with
    | none => rfl
    | some value =>
      obtain ⟨text, htext⟩ := Option.isSome_iff_exists.1 (h k value hk)
      dsimp only
      rw [htext]
      rfl

/-- What the user is told about a settings file: its unknown keys if there are some, and that it
has been read. -/
def notices (path : Path) (names : List String) : List Event :=
  (if names.isEmpty then []
    else [.logged .warning .layout
      ("Ignoring unknown keys in " ++ path.text ++ ": " ++ ", ".intercalate names)]) ++
  [.logged .debug .layout ("Loaded layout overrides from " ++ path.text)]

theorem result_ofSettings :
    (ofSettings path d entries).result host s =
      if (unknownKeys entries).isSome then
        match resolve? d entries with
        | some l => .ok l
        | none => .error .numberTooLong
      else .error .keyNotText := by
  unfold ofSettings
  cases unknownKeys entries with
  | none => rfl
  | some names =>
    dsimp only
    cases names.isEmpty <;> cases resolve? d entries <;> rfl

theorem result_ofSettings_eq_ok_iff :
    (ofSettings path d entries).result host s = .ok l ↔
      (∀ entry ∈ entries, entry.1.isText = true) ∧ Describes d entries l := by
  rw [result_ofSettings, ← unknownKeys_isSome_iff, ← resolve?_eq_some_iff_describes]
  cases (unknownKeys entries).isSome <;> cases resolve? d entries <;> simp

/-- Settings that can not be used do not end in a problem that is reported. -/
theorem result_ofSettings_ne_problem (p : Problem) :
    (ofSettings path d entries).result host s ≠ .error (.problem p) := by
  rw [result_ofSettings]
  split
  · split <;> nofun
  · nofun

/-- Settings whose keys are texts cause the notices, whatever their values are. -/
theorem left_ofSettings {names : List String} (h : unknownKeys entries = some names) :
    (ofSettings path d entries).left host s = { s with log := s.log ++ notices path names } := by
  unfold ofSettings notices
  rw [h]
  dsimp only
  cases names.isEmpty with
  | true => cases resolve? d entries <;> rfl
  | false =>
    rw [← List.append_assoc]
    cases resolve? d entries <;> rfl

/-! ## Loading -/

/-- What a loader may make of a text: a value, or a fault of the format. -/
def IsReading (loaded : Except Yaml.Fault Document) : Prop :=
  (∃ d, loaded = .ok d) ∨ loaded = .error .malformed ∨ loaded = .error .unfinished

/-- The settings file is there, and the loader makes this of what it holds. -/
def Holds (loader : ByteArray → Except Yaml.Fault Document) (host : Host) (s : Session)
    (path : Path) (loaded : Except Yaml.Fault Document) : Prop :=
  (Job.isFile path).result host s = .ok true ∧
    ∃ content, s.disk.read host.cwd.parts path = .ok content ∧ loader content = loaded

/-- Why no layout is loaded: the given file is not there, it breaks the format, or its value is
neither null nor a mapping. -/
inductive Reason (loader : ByteArray → Except Yaml.Fault Document) (host : Host) (s : Session)
    (projectDir : Path) (config : Option Path) : Problem → Prop where
  | missing (path : Path) (hconfig : config = some path)
      (hfile : (Job.isFile (settingsPath projectDir config)).result host s = .ok false) :
      Reason loader host s projectDir config (.configMissing path)
  | malformed (fault : Yaml.Fault) (hfault : fault = .malformed ∨ fault = .unfinished)
      (hloaded : Holds loader host s (settingsPath projectDir config) (.error fault)) :
      Reason loader host s projectDir config (.malformedConfig (settingsPath projectDir config))
  | notMapping (d : Document) (hentries : d.settings? = none)
      (hloaded : Holds loader host s (settingsPath projectDir config) (.ok d)) :
      Reason loader host s projectDir config
        (.configNotMapping (settingsPath projectDir config) (d.kindName d.root))

/-- The layout comes from the settings file, and the user has been told of its unknown keys, or
no file has been given and none is there. -/
inductive Gives (loader : ByteArray → Except Yaml.Fault Document) (host : Host) (s : Session)
    (projectDir : Path) (config : Option Path) : Layout → List Event → Prop where
  | noFile (hconfig : config = none)
      (hfile : (Job.isFile (settingsPath projectDir config)).result host s = .ok false) :
      Gives loader host s projectDir config default []
  | file (d : Document) (entries : List (Value × Value)) (names : List String) (l : Layout)
      (hloaded : Holds loader host s (settingsPath projectDir config) (.ok d))
      (hentries : d.settings? = some entries) (hdescribes : Describes d entries l)
      (hnames : ∀ name, name ∈ names ↔ ∃ points value, (.text points, value) ∈ entries ∧
        ¬IsKnown points ∧ Text.ofCodePoints points = name) :
      Gives loader host s projectDir config l (notices (settingsPath projectDir config) names)

section

variable {loader : ByteArray → Except Yaml.Fault Document} {projectDir : Path}
  {config : Option Path}

theorem ofLoaded_ok (path : Path) (d : Document) :
    ofLoaded path (.ok d) =
      match d.settings? with
      | some entries => ofSettings path d entries
      | none => Job.fail (.configNotMapping path (d.kindName d.root)) := by
  unfold ofLoaded Document.settings?
  dsimp only
  cases d.root.isNull <;> cases d.entries? d.root <;> rfl

/-- A file that is found can be read. -/
theorem holds_of_find {content : ByteArray} (hnul : path.hasNul = false)
    (h : s.disk.find host.cwd.parts path = .ok (.file content)) :
    Holds loader host s path (loader content) := by
  refine ⟨Job.result_isFile_eq_ok_true.2 ⟨hnul, Disk.isFile_of_find h⟩, content, ?_, rfl⟩
  unfold Disk.read
  rw [h]
  rfl

theorem exists_holds (loader : ByteArray → Except Yaml.Fault Document)
    (h : (Job.isFile path).result host s = .ok true) :
    ∃ loaded, Holds loader host s path loaded := by
  obtain ⟨hnul, hfile⟩ := Job.result_isFile_eq_ok_true.1 h
  obtain ⟨content, hfind⟩ := Disk.find_of_isFile hfile
  exact ⟨loader content, holds_of_find hnul hfind⟩

theorem Holds.unique {loaded loaded' : Except Yaml.Fault Document}
    (h : Holds loader host s path loaded) (h' : Holds loader host s path loaded') :
    loaded = loaded' := by
  obtain ⟨-, content, hread, rfl⟩ := h
  obtain ⟨-, content', hread', rfl⟩ := h'
  rw [hread] at hread'
  cases hread'
  rfl

theorem load_of_holds {loaded : Except Yaml.Fault Document}
    (h : Holds loader host s (settingsPath projectDir config) loaded) :
    (load loader projectDir config).result host s =
        (ofLoaded (settingsPath projectDir config) loaded).result host s ∧
      (load loader projectDir config).left host s =
        (ofLoaded (settingsPath projectDir config) loaded).left host s := by
  obtain ⟨hfile, content, hread, rfl⟩ := h
  have hrequire : (Job.require (settingsPath projectDir config) fun d cwd =>
      d.read cwd (settingsPath projectDir config)).result host s = .ok content := by
    rw [Job.result_require, (Job.result_isFile_eq_ok_true.1 hfile).1, hread]
    rfl
  unfold load
  dsimp only
  rw [Job.result_bind_of_ok hfile, Job.left_bind_of_ok hfile, Job.left_isFile, if_pos rfl,
    Job.result_bind_of_ok hrequire, Job.left_bind_of_ok hrequire, Job.left_require]
  exact ⟨rfl, rfl⟩

theorem load_of_not_isFile
    (h : (Job.isFile (settingsPath projectDir config)).result host s = .ok false) :
    (load loader projectDir config).result host s =
        config.elim (.ok default) (fun path => .error (.problem (.configMissing path))) ∧
      (load loader projectDir config).left host s = s := by
  unfold load
  dsimp only
  rw [Job.result_bind_of_ok h, Job.left_bind_of_ok h, Job.left_isFile, if_neg Bool.false_ne_true]
  cases config <;> exact ⟨rfl, rfl⟩

theorem exists_system_of_isFile {f : Failure} (h : (Job.isFile path).result host s = .error f) :
    ∃ e, f = .system e := by
  unfold Job.isFile Job.test at h
  cases hnul : path.hasNul with
  | true =>
    rw [hnul, if_pos rfl] at h
    cases h
  | false =>
    rw [hnul, if_neg Bool.false_ne_true, Job.result_require, hnul, if_neg Bool.false_ne_true] at h
    cases hfound : s.disk.isFile host.cwd.parts path with
    | error code =>
      rw [hfound, Job.mapError_error] at h
      exact ⟨_, (Except.error.inj h).symm⟩
    | ok found =>
      rw [hfound] at h
      cases h

/-- Loading ends in a problem for a reason, or it goes on with the settings of the file, or
there is no file, or the path is one that nothing can have. -/
theorem load_cases
    (hloader : ∀ loaded, Holds loader host s (settingsPath projectDir config) loaded →
      IsReading loaded) :
    (∃ e, (Job.isFile (settingsPath projectDir config)).result host s = .error (.system e) ∧
      (load loader projectDir config).result host s = .error (.system e)) ∨
    (config = none ∧ (Job.isFile (settingsPath projectDir config)).result host s = .ok false) ∨
    (∃ d entries, Holds loader host s (settingsPath projectDir config) (.ok d) ∧
      d.settings? = some entries) ∨
    ∃ p, Reason loader host s projectDir config p := by
  cases hfile : (Job.isFile (settingsPath projectDir config)).result host s with
  | error f =>
    obtain ⟨e, rfl⟩ := exists_system_of_isFile hfile
    exact Or.inl ⟨e, rfl, Job.result_bind_of_error hfile _⟩
  | ok found =>
    cases found with
    | false =>
      cases config with
      | none => exact Or.inr (Or.inl ⟨rfl, rfl⟩)
      | some path => exact Or.inr (Or.inr (Or.inr ⟨_, .missing path rfl hfile⟩))
    | true =>
      obtain ⟨loaded, hloaded⟩ := exists_holds loader hfile
      rcases hloader loaded hloaded with ⟨d, rfl⟩ | rfl | rfl
      · cases hentries : d.settings? with
        | some entries => exact Or.inr (Or.inr (Or.inl ⟨d, entries, hloaded, hentries⟩))
        | none => exact Or.inr (Or.inr (Or.inr ⟨_, .notMapping d hentries hloaded⟩))
      · exact Or.inr (Or.inr (Or.inr ⟨_, .malformed _ (Or.inl rfl) hloaded⟩))
      · exact Or.inr (Or.inr (Or.inr ⟨_, .malformed _ (Or.inr rfl) hloaded⟩))

theorem load_of_settings (h : Holds loader host s (settingsPath projectDir config) (.ok d))
    (hentries : d.settings? = some entries) :
    (load loader projectDir config).result host s =
        (ofSettings (settingsPath projectDir config) d entries).result host s ∧
      (load loader projectDir config).left host s =
        (ofSettings (settingsPath projectDir config) d entries).left host s := by
  rw [(load_of_holds h).1, (load_of_holds h).2, ofLoaded_ok, hentries]
  exact ⟨rfl, rfl⟩

theorem result_load_of_reason {p : Problem} (h : Reason loader host s projectDir config p) :
    (load loader projectDir config).result host s = .error (.problem p) := by
  cases h with
  | missing path hconfig hfile =>
    rw [(load_of_not_isFile hfile).1, hconfig]
    rfl
  | malformed fault hfault hloaded =>
    rw [(load_of_holds hloaded).1]
    rcases hfault with rfl | rfl <;> rfl
  | notMapping d hentries hloaded =>
    rw [(load_of_holds hloaded).1, ofLoaded_ok, hentries]
    rfl

theorem Reason.kind_eq {p : Problem} (h : Reason loader host s projectDir config p) :
    p.kind = .configuration := by
  cases h <;> rfl

theorem result_load_eq_problem_iff
    (hloader : ∀ loaded, Holds loader host s (settingsPath projectDir config) loaded →
      IsReading loaded) (p : Problem) :
    (load loader projectDir config).result host s = .error (.problem p) ↔
      Reason loader host s projectDir config p := by
  refine ⟨fun h => ?_, result_load_of_reason⟩
  rcases load_cases hloader with ⟨e, -, hload⟩ | ⟨hconfig, hfile⟩ | ⟨d, entries, hholds, hentries⟩ |
    ⟨p', hreason⟩
  · rw [hload] at h
    cases h
  · rw [(load_of_not_isFile hfile).1, hconfig] at h
    cases h
  · rw [(load_of_settings hholds hentries).1] at h
    exact absurd h (result_ofSettings_ne_problem p)
  · rw [result_load_of_reason hreason] at h
    cases h
    exact hreason

theorem exists_gives
    (hloader : ∀ loaded, Holds loader host s (settingsPath projectDir config) loaded →
      IsReading loaded) (h : (load loader projectDir config).result host s = .ok l) :
    ∃ events, Gives loader host s projectDir config l events ∧
      (load loader projectDir config).left host s = { s with log := s.log ++ events } := by
  rcases load_cases hloader with ⟨e, -, hload⟩ | ⟨hconfig, hfile⟩ | ⟨d, entries, hholds, hentries⟩ |
    ⟨p, hreason⟩
  · rw [hload] at h
    cases h
  · rw [(load_of_not_isFile hfile).1, hconfig] at h
    cases h
    exact ⟨[], .noFile hconfig hfile, by rw [(load_of_not_isFile hfile).2, List.append_nil]⟩
  · rw [(load_of_settings hholds hentries).1, result_ofSettings_eq_ok_iff,
      ← unknownKeys_isSome_iff] at h
    obtain ⟨hkeys, hdescribes⟩ := h
    obtain ⟨names, hnames⟩ := Option.isSome_iff_exists.1 hkeys
    refine ⟨_, .file d entries names l hholds hentries hdescribes (mem_unknownKeys hnames), ?_⟩
    rw [(load_of_settings hholds hentries).2, left_ofSettings hnames]
  · rw [result_load_of_reason hreason] at h
    cases h

/-- Loading ends in a layout, or in a problem that is reported and is one of the
configuration. -/
def Settles (loaded : Except Failure Layout) : Prop :=
  (∃ l, loaded = .ok l) ∨ ∃ p, loaded = .error (.problem p) ∧ p.kind = .configuration

/-- The path of the settings file can be looked for, and the settings in it can be used. -/
structure IsUsable (loader : ByteArray → Except Yaml.Fault Document) (host : Host) (s : Session)
    (path : Path) : Prop where
  searched : ∃ found, (Job.isFile path).result host s = .ok found
  settings : ∀ d entries, Holds loader host s path (.ok d) → d.settings? = some entries →
    CanBeUsed d entries

theorem isUsable_of_settles (h : Settles ((load loader projectDir config).result host s)) :
    IsUsable loader host s (settingsPath projectDir config) where
  searched := by
    cases hfile : (Job.isFile (settingsPath projectDir config)).result host s with
    | ok found => exact ⟨found, rfl⟩
    | error f =>
      obtain ⟨e, rfl⟩ := exists_system_of_isFile hfile
      have hload : (load loader projectDir config).result host s = .error (.system e) :=
        Job.result_bind_of_error hfile _
      rw [hload] at h
      rcases h with ⟨l, hl⟩ | ⟨p, hp, -⟩
      · cases hl
      · cases hp
  settings := by
    intro d entries hholds hentries
    rw [(load_of_settings hholds hentries).1] at h
    rcases h with ⟨l, hl⟩ | ⟨p, hp, -⟩
    · obtain ⟨hkeys, hdescribes⟩ := result_ofSettings_eq_ok_iff.1 hl
      exact ⟨hkeys, exists_describes_iff.1 ⟨l, hdescribes⟩⟩
    · exact absurd hp (result_ofSettings_ne_problem p)

theorem settles_of_isUsable
    (hloader : ∀ loaded, Holds loader host s (settingsPath projectDir config) loaded →
      IsReading loaded) (h : IsUsable loader host s (settingsPath projectDir config)) :
    Settles ((load loader projectDir config).result host s) := by
  rcases load_cases hloader with ⟨e, hfile, -⟩ | ⟨hconfig, hfile⟩ | ⟨d, entries, hholds, hentries⟩ |
    ⟨p, hreason⟩
  · obtain ⟨found, hfound⟩ := h.searched
    rw [hfile] at hfound
    cases hfound
  · refine Or.inl ⟨default, ?_⟩
    rw [(load_of_not_isFile hfile).1, hconfig]
    rfl
  · have huse := h.settings d entries hholds hentries
    obtain ⟨l, hl⟩ := exists_describes_iff.2 huse.values
    refine Or.inl ⟨l, ?_⟩
    rw [(load_of_settings hholds hentries).1, result_ofSettings_eq_ok_iff]
    exact ⟨huse.keys, hl⟩
  · exact Or.inr ⟨p, result_load_of_reason hreason, hreason.kind_eq⟩

/-- Entries of the same texts describe the same layout. -/
theorem Describes.congr {d' : Document} {entries' : List (Value × Value)}
    (h : Describes d entries l)
    (hsame : ∀ k, (given? entries k).map d.display = (given? entries' k).map d'.display) :
    Describes d' entries' l := by
  intro k
  have hk := h k
  have hsame := hsame k
  cases hgiven : given? entries k <;> cases hgiven' : given? entries' k
  · rw [hgiven] at hk
    exact hk
  · rw [hgiven, hgiven'] at hsame
    cases hsame
  · rw [hgiven, hgiven'] at hsame
    cases hsame
  · rw [hgiven, hgiven', Option.map_some, Option.map_some, Option.some.injEq] at hsame
    rw [hgiven] at hk
    exact hsame.symm.trans hk

/-- A loader that gives values and faults of the format only lets loading end in a layout or in a
configuration problem exactly if all keys are texts, the values under known keys can be written
out, and the path of the file can be looked for. A problem has one of three reasons. A layout has
what the settings say and the defaults for the rest, the unknown keys cause one warning, and as
settings of its own it stays as it is. Whatever else settings with text keys say, they give the
same layout if they say the same about its entries. -/
theorem a_layout_is_loaded_iff
    (hloader : ∀ loaded, Holds loader host s (settingsPath projectDir config) loaded →
      IsReading loaded) :
    (Settles ((load loader projectDir config).result host s) ↔
      IsUsable loader host s (settingsPath projectDir config)) ∧
    (∀ p, (load loader projectDir config).result host s = .error (.problem p) ↔
      Reason loader host s projectDir config p) ∧
    (∀ l, (load loader projectDir config).result host s = .ok l →
      (∃ events, Gives loader host s projectDir config l events ∧
        (load loader projectDir config).left host s = { s with log := s.log ++ events }) ∧
      ∀ d, resolve? d l.settings = some l) ∧
    ∀ other d d' entries entries' l,
      Holds loader host s (settingsPath projectDir config) (.ok d) →
      Holds other host s (settingsPath projectDir config) (.ok d') →
      d.settings? = some entries → d'.settings? = some entries' →
      (∀ k, (given? entries k).map d.display = (given? entries' k).map d'.display) →
      (∀ entry ∈ entries', entry.1.isText = true) →
      (load loader projectDir config).result host s = .ok l →
      (load other projectDir config).result host s = .ok l := by
  refine ⟨⟨isUsable_of_settles, settles_of_isUsable hloader⟩, result_load_eq_problem_iff hloader,
    fun l hl => ⟨exists_gives hloader hl, fun d => resolve?_settings d l⟩, ?_⟩
  intro other d d' entries entries' l hholds hholds' hentries hentries' hsame hkeys hl
  rw [(load_of_settings hholds hentries).1, result_ofSettings_eq_ok_iff] at hl
  rw [(load_of_settings hholds' hentries').1, result_ofSettings_eq_ok_iff]
  exact ⟨hkeys, hl.2.congr hsame⟩

end

/-- A project in the folder `crate` whose settings file has the text. -/
def projectWith (text : String) : Session :=
  { disk := ⟨.folder [("crate", .folder [(fileName, .file text.toUTF8)])]⟩ }

/-- A host without any tool. -/
def bareHost : Host := ⟨.ofString "/", fun _ _ => .refused .noEntry⟩

theorem isReading_projectWith (text : String) (h : (Yaml.load text.toUTF8).isOk = true) :
    ∀ loaded, Holds Yaml.load bareHost (projectWith text) (settingsPath (.ofString "/crate") none)
      loaded → IsReading loaded := by
  rintro loaded ⟨-, content, hread, rfl⟩
  have hcontent : (projectWith text).disk.read bareHost.cwd.parts
      (settingsPath (.ofString "/crate") none) = .ok text.toUTF8 := rfl
  rw [hcontent] at hread
  cases hread
  exact Or.inl (Job.exists_of_isOk h)

/-- A key that is a text and no entry has is passed over. -/
theorem an_unknown_text_key_is_passed_over :
    (∀ loaded, Holds Yaml.load bareHost (projectWith "source_dir: third_party\nextra: 1\n")
      (settingsPath (.ofString "/crate") none) loaded → IsReading loaded) ∧
    ∃ l events, (load Yaml.load (.ofString "/crate") none).result bareHost
        (projectWith "source_dir: third_party\nextra: 1\n") = .ok l ∧
      Gives Yaml.load bareHost (projectWith "source_dir: third_party\nextra: 1\n")
        (.ofString "/crate") none l events := by
  have hreading := isReading_projectWith "source_dir: third_party\nextra: 1\n" (by decide +kernel)
  have hok : ((load Yaml.load (.ofString "/crate") none).result bareHost
      (projectWith "source_dir: third_party\nextra: 1\n")).isOk = true := by decide +kernel
  obtain ⟨l, hl⟩ := Job.exists_of_isOk hok
  obtain ⟨-, -, hgives, -⟩ := a_layout_is_loaded_iff hreading
  obtain ⟨⟨events, hevents, -⟩, -⟩ := hgives l hl
  exact ⟨hreading, l, events, hl, hevents⟩

/-- A key that is a number ends the run, though no entry has it and the loader has read it. -/
theorem an_unknown_number_key_ends_the_run :
    (Yaml.load "1: x\n".toUTF8).isOk = true ∧
    ¬Settles ((load Yaml.load (.ofString "/crate") none).result bareHost
      (projectWith "1: x\n")) := by
  have hresult : Job.isTold ((load Yaml.load (.ofString "/crate") none).result bareHost
      (projectWith "1: x\n")) = false := by decide +kernel
  refine ⟨by decide +kernel, ?_⟩
  rintro (⟨l, hl⟩ | ⟨p, hp, -⟩)
  · rw [hl] at hresult
    cases hresult
  · rw [hp] at hresult
    cases hresult

end Layout

end CrossBuild
