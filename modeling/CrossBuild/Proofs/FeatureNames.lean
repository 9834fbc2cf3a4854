-- The names of features and the variables that enable them. A name is written into its variable
-- in capitals and with underscores, and it is read back as it was: from the variables of any
-- number of features come these features, and no others.
import CrossBuild.Proofs.RequiredVariables
import CrossBuild.Text.Digit

namespace CrossBuild

/-! ## Small letters -/

namespace Text

/-- What holds of the ASCII characters one by one holds of each of them. -/
theorem forall_ascii {p : Char → Prop} (h : ∀ n < 128, p (Char.ofNat n)) {c : Char}
    (hc : c.toNat < 128) : p c := by
  rw [← Char.ofNat_toNat c]
  exact h c.toNat hc

/-- Without the two characters whose form is not one character of its own, a text is put into
small letters one character after the other. -/
theorem lowerAfter_eq_map {cs : List Char} (h : ∀ c ∈ cs, c ≠ 'Σ' ∧ c ≠ 'İ')
    (before : List Char) : lowerAfter before cs = cs.map lowerChar := by
  induction cs generalizing before with
  | nil => rfl
  | cons c cs ih =>
    rw [List.forall_mem_cons] at h
    rw [lowerAfter, if_neg h.1.1, if_neg h.1.2, ih h.2]
    rfl

end Text

namespace FeatureSet

/-! ## One name and its variable -/

/-- The characters of the names of features: small letters, digits and hyphens. -/
def isNameChar (c : Char) : Bool := ('a' ≤ c && c ≤ 'z') || Text.isAsciiDigit c || c == '-'

/-- A name that a feature can have. -/
def IsName (name : String) : Prop := name ≠ "" ∧ name.toList.all isNameChar = true

instance (name : String) : Decidable (IsName name) := inferInstanceAs (Decidable (_ ∧ _))

/-- How a character of a name stands in the name of a variable. -/
def writtenChar (c : Char) : Char := if c = '-' then '_' else Text.capital c

/-- A small character as it stands in the name of a feature. -/
def hyphenated (c : Char) : Char := if c = '_' then '-' else c

variable {c : Char} {name : String}

theorem toNat_lt_of_isNameChar (h : isNameChar c = true) : c.toNat < 128 := by
  have hascii (last : Char) (hlast : last.toNat < 128) (hle : c ≤ last) : c.toNat < 128 :=
    Nat.lt_of_le_of_lt (UInt32.le_iff_toNat_le.1 (Char.le_def.1 hle)) hlast
  unfold isNameChar Text.isAsciiDigit at h
  simp only [Bool.or_eq_true, Bool.and_eq_true, decide_eq_true_eq, beq_iff_eq] at h
  rcases h with (⟨-, hletter⟩ | ⟨-, hdigit⟩) | rfl
  · exact hascii 'z' (by decide) hletter
  · exact hascii '9' (by decide) hdigit
  · decide

/-- A character of a name is read as it was before it was written, and it is written in ASCII. -/
theorem read_writtenChar (h : isNameChar c = true) :
    hyphenated (Text.lowerChar (writtenChar c)) = c ∧ writtenChar c ≠ 'Σ' ∧ writtenChar c ≠ 'İ' :=
  Text.forall_ascii (p := fun c => isNameChar c = true →
    hyphenated (Text.lowerChar (writtenChar c)) = c ∧ writtenChar c ≠ 'Σ' ∧ writtenChar c ≠ 'İ')
    (by decide +kernel) (toNat_lt_of_isNameChar h) h

theorem map_read_written {cs : List Char} (h : cs.all isNameChar = true) :
    ((cs.map writtenChar).map Text.lowerChar).map hyphenated = cs := by
  induction cs with
  | nil => rfl
  | cons c cs ih =>
    rw [List.all_cons, Bool.and_eq_true] at h
    rw [List.map_cons, List.map_cons, List.map_cons, (read_writtenChar h.1).1, ih h.2]

theorem toList_variableOf (name : String) :
    (variableOf name).toList = variableStart.toList ++ name.toList.map writtenChar := by
  unfold variableOf
  rw [String.toList_append, String.toList_ofList]
  rfl

theorem isVariable_variableOf (h : name ≠ "") : IsVariable (variableOf name) := by
  constructor
  · unfold Text.startsWith
    rw [List.isPrefixOf_iff_prefix, toList_variableOf]
    exact List.prefix_append _ _
  · intro heq
    have hlist := congrArg String.toList heq
    rw [toList_variableOf] at hlist
    have hnil := List.map_eq_nil_iff.1 (List.append_right_eq_self.1 hlist)
    exact h (String.toList_eq_nil_iff.1 hnil)

/-- A name is read from its variable as it was. -/
theorem ofVariable?_variableOf (h : IsName name) : ofVariable? (variableOf name) = some name := by
  have hrest : (variableOf name).toList.drop variableStart.toList.length =
      name.toList.map writtenChar := by
    rw [toList_variableOf, List.drop_left]
  have hascii : ∀ c ∈ name.toList.map writtenChar, c ≠ 'Σ' ∧ c ≠ 'İ' := by
    intro c hc
    obtain ⟨c, hmem, rfl⟩ := List.mem_map.1 hc
    exact (read_writtenChar (List.all_eq_true.1 h.2 c hmem)).2
  have hlower : (Text.lower (String.ofList (name.toList.map writtenChar))).toList =
      (name.toList.map writtenChar).map Text.lowerChar := by
    unfold Text.lower
    rw [String.toList_ofList, String.toList_ofList, Text.lowerAfter_eq_map hascii]
  have hvariable := isVariable_variableOf h.1
  unfold ofVariable?
  rw [if_pos ⟨hvariable.1, hvariable.2⟩, hrest]
  dsimp only
  rw [hlower]
  change some (String.ofList (List.map hyphenated _)) = some name
  rw [map_read_written h.2, String.ofList_toList]

end FeatureSet

/-! ## All names at once -/

/-- The variables of the environment that enable features are exactly those of the given ones.
The bare beginning is the variable of no feature: it may be there or not. -/
def Environment.Enables (env : Environment) (features : List String) : Prop :=
  ∀ key, FeatureSet.IsVariable key →
    (key ∈ env.map (·.1) ↔ key ∈ features.map FeatureSet.variableOf)

namespace FeatureSet

variable {env other : Environment} {features others : List String}

theorem enables_iff :
    env.Enables features ↔
      (∀ key ∈ env.map (·.1), IsVariable key → key ∈ features.map variableOf) ∧
        ∀ key ∈ features.map variableOf, IsVariable key → key ∈ env.map (·.1) := by
  constructor
  · intro h
    exact ⟨fun key hmem hkey => (h key hkey).1 hmem, fun key hmem hkey => (h key hkey).2 hmem⟩
  · intro h key hkey
    exact ⟨fun hmem => h.1 key hmem hkey, fun hmem => h.2 key hmem hkey⟩

instance (env : Environment) (features : List String) : Decidable (env.Enables features) :=
  decidable_of_iff _ enables_iff.symm

/-- The variable of a name is there exactly if the name is one of the features: no two names share
a variable. -/
theorem variableOf_mem_iff (hname : IsName name) (hnames : ∀ name ∈ features, IsName name)
    (henv : env.Enables features) : variableOf name ∈ env.map (·.1) ↔ name ∈ features := by
  rw [henv _ (isVariable_variableOf hname.1)]
  constructor
  · intro h
    obtain ⟨read, hmem, heq⟩ := List.mem_map.1 h
    have hread := ofVariable?_variableOf (hnames read hmem)
    rw [heq, ofVariable?_variableOf hname] at hread
    exact Option.some.inj hread ▸ hmem
  · exact fun h => List.mem_map_of_mem h

/-- The features that are read from the variables are those that the variables enable. -/
theorem mem_ofVariables_iff (hnames : ∀ name ∈ features, IsName name)
    (henv : env.Enables features) :
    name ∈ (ofVariables (env.map (·.1))).names ↔ name ∈ features := by
  unfold ofVariables
  rw [mem_ofList, List.mem_filterMap]
  constructor
  · rintro ⟨key, hmem, hkey⟩
    have hvariable := (henv key (isVariable_of_ofVariable? hkey)).1 hmem
    obtain ⟨read, hread, rfl⟩ := List.mem_map.1 hvariable
    rw [ofVariable?_variableOf (hnames read hread)] at hkey
    exact Option.some.inj hkey ▸ hread
  · intro hmem
    have hname := hnames name hmem
    exact ⟨variableOf name, (variableOf_mem_iff hname hnames henv).2 hmem,
      ofVariable?_variableOf hname⟩

/-- A feature of one environment is one of any other that has its variables. -/
theorem mem_of_mem (hnames : ∀ name ∈ features, IsName name) (henv : env.Enables features)
    (hnames' : ∀ name ∈ others, IsName name) (hother : other.Enables others)
    (hkeys : ∀ key, IsVariable key → key ∈ env.map (·.1) → key ∈ other.map (·.1))
    (h : name ∈ features) : name ∈ others := by
  have hname := hnames name h
  have hmem := (variableOf_mem_iff hname hnames henv).2 h
  exact (variableOf_mem_iff hname hnames' hother).1 (hkeys _ (isVariable_variableOf hname.1) hmem)

/-- The features of a target are those that its variables enable. -/
theorem enables_iff_of_ofEnvironment {cwd : Path} {t : Target}
    (hnames : ∀ name ∈ features, IsName name) (henv : env.Enables features)
    (h : Target.ofEnvironment cwd env = .ok t) (f : Feature) :
    t.enables f = true ↔ f.name ∈ features := by
  obtain ⟨-, rfl⟩ := Target.ofEnvironment_eq_ok_iff.1 h
  unfold Target.enables contains
  rw [List.contains_iff_mem]
  exact mem_ofVariables_iff hnames henv

/-- From the variables of features, among any others and with any values, exactly these features
are read, and a target that is read from them has exactly these. So no two sets of features have
the same variables, whether or not the bare beginning is among them. -/
theorem the_enabled_features_are_read_back (hnames : ∀ name ∈ features, IsName name)
    (henv : env.Enables features) :
    ofVariables (env.map (·.1)) = ofList features ∧
      (∀ name, name ∈ (ofVariables (env.map (·.1))).names ↔ name ∈ features) ∧
      (∀ cwd t, Target.ofEnvironment cwd env = .ok t →
        ∀ f, t.enables f = true ↔ f.name ∈ features) ∧
      ∀ (other : Environment) (others : List String),
        (∀ name ∈ others, IsName name) → other.Enables others →
        (∀ key, IsVariable key → (key ∈ env.map (·.1) ↔ key ∈ other.map (·.1))) →
        ∀ name, name ∈ features ↔ name ∈ others := by
  have hread : ∀ name, name ∈ (ofVariables (env.map (·.1))).names ↔ name ∈ features :=
    fun name => mem_ofVariables_iff hnames henv
  refine ⟨?_, hread, fun cwd t h f => enables_iff_of_ofEnvironment hnames henv h f, ?_⟩
  · unfold ofVariables at hread ⊢
    rw [ofList_eq_iff]
    intro name
    rw [← hread, mem_ofList]
  · intro other others hnames' hother hkeys name
    exact ⟨mem_of_mem hnames henv hnames' hother fun key hkey => (hkeys key hkey).1,
      mem_of_mem hnames' hother hnames henv fun key hkey => (hkeys key hkey).2⟩

/-- The variables of a build for Windows, and the bare beginning. -/
def bareVariables : Environment :=
  ("CARGO_FEATURE_", "1") :: Target.windowsVariables "x86_64-pc-windows-msvc"

/-- The features of a build for Windows are read back, and no other set of features has its
variables. -/
theorem the_features_of_a_windows_build_are_read_back :
    (∀ name ∈ ["ndk-old-gcc", "ssl"], IsName name) ∧
      bareVariables.Enables ["ndk-old-gcc", "ssl"] ∧
      ofVariables (bareVariables.map (·.1)) = ofList ["ndk-old-gcc", "ssl"] ∧
      (∃ t, Target.ofEnvironment (.ofString "/") bareVariables = .ok t ∧
        t.enables .ndkOldGcc = true ∧ t.enables .fips = false) ∧
      ∀ features, (∀ name ∈ features, IsName name) → bareVariables.Enables features →
        ∀ name, name ∈ ["ndk-old-gcc", "ssl"] ↔ name ∈ features := by
  have hnames : ∀ name ∈ ["ndk-old-gcc", "ssl"], IsName name := by decide +kernel
  have henv : bareVariables.Enables ["ndk-old-gcc", "ssl"] := by decide +kernel
  obtain ⟨hset, -, htarget, hsame⟩ := the_enabled_features_are_read_back hnames henv
  have hsupplied : ∀ name ∈ Environment.required, bareVariables.Supplies name := by decide
  have hread : Target.ofEnvironment (.ofString "/") bareVariables =
      .ok (bareVariables.target (.ofString "/")) :=
    Target.ofEnvironment_eq_ok_iff.2 ⟨hsupplied, rfl⟩
  refine ⟨hnames, henv, hset, ⟨_, hread, ?_, ?_⟩, ?_⟩
  · exact (htarget _ _ hread _).2 (by decide)
  · rw [Bool.eq_false_iff, Ne, htarget _ _ hread]
    decide
  · exact fun features hfeatures hothers => hsame _ features hfeatures hothers fun _ _ => Iff.rfl

end FeatureSet

end CrossBuild
