-- Options that the commands share. The grammar of `link` has one option more than the
-- others, so it reads what they read the same way, unless an argument means this one.
import CrossBuild.CommandLine.Command

namespace CrossBuild.CommandLine

/-! ## Words of a grammar -/

namespace Grammar

variable {g : Grammar} {argument : String} {cs : List Char}

theorem toList_cutAtEquals (cs : List Char) :
    (cutAtEquals cs).1.toList = cs.takeWhile (· ≠ '=') := by
  unfold cutAtEquals
  split <;> simp

/-- The long options that an argument may mean are those that it starts. -/
theorem fitting_long (g : Grammar) (cs : List Char) :
    g.fitting ('-' :: '-' :: cs) =
      (g.names.filter fun entry =>
        ('-' :: '-' :: cs.takeWhile (· ≠ '=')).isPrefixOf entry.1.toList).map fun entry =>
          (entry.1, entry.2, (cutAtEquals ('-' :: '-' :: cs)).2) := by
  have hstart : ('-' :: '-' :: cs).takeWhile (· ≠ '=') = '-' :: '-' :: cs.takeWhile (· ≠ '=') := by
    rw [List.takeWhile_cons_of_pos (by decide), List.takeWhile_cons_of_pos (by decide)]
  rw [← hstart, ← toList_cutAtEquals]
  rfl

/-- What an argument is if it gives an option by its name. -/
def spelled? (g : Grammar) (argument : String) : Option Word :=
  let cut := cutAtEquals argument.toList
  ((g.names.lookup argument).map fun o => .option o argument none).or
    (cut.2.bind fun text => (g.names.lookup cut.1).map fun o => .option o cut.1 (some text))

/-- What an argument is if it gives no option by its name. -/
def shortened (g : Grammar) (argument : String) : Except OptionError Word :=
  match g.fitting argument.toList with
  | [(name, o, attached)] => .ok (.option o name attached)
  | fit :: fits => .error (.ambiguous argument ((fit :: fits).map (·.1)))
  | [] =>
    if isNegativeNumber argument.toList ∨ argument.toList.contains ' ' then .ok .operand
    else .ok .unknownOption

theorem wordOf_eq (g : Grammar) (argument : String) :
    g.wordOf argument =
      if argument.toList.head? ≠ some '-' ∨ argument.toList.length = 1 then .ok .operand
      else (g.spelled? argument).elim (g.shortened argument) .ok := by
  unfold wordOf spelled?
  dsimp only
  split
  · rfl
  · cases g.names.lookup argument with
    | some o => rfl
    | none =>
      cases (cutAtEquals argument.toList).2 with
      | none => rfl
      | some text => cases g.names.lookup (cutAtEquals argument.toList).1 <;> rfl

theorem words_cons (h : argument ≠ "--") (g : Grammar) (rest : List String) :
    g.words (argument :: rest) = do
      let word ← g.wordOf argument
      return (argument, word) :: (← g.words rest) := by
  rw [words]
  exact fun hseparator => h hseparator

theorem exists_of_words_cons (h : argument ≠ "--") {rest : List String}
    {words : List (String × Word)} (hwords : g.words (argument :: rest) = .ok words) :
    ∃ word words', g.wordOf argument = .ok word ∧ g.words rest = .ok words' ∧
      words = (argument, word) :: words' := by
  rw [words_cons h] at hwords
  cases hword : g.wordOf argument with
  | error e => rw [hword] at hwords; cases hwords
  | ok word =>
    cases hrest : g.words rest with
    | error e => rw [hword, hrest] at hwords; cases hwords
    | ok words' =>
      rw [hword, hrest] at hwords
      cases hwords
      exact ⟨word, words', rfl, rfl, rfl⟩

/-- What an option is told by is one of its names. -/
theorem mem_names_of_fitting {name : String} {o : OptionSpec} {attached : Option String}
    (h : (name, o, attached) ∈ g.fitting cs) : (name, o) ∈ g.names := by
  unfold fitting at h
  split at h
  · obtain ⟨entry, hentry, heq⟩ := List.mem_map.1 h
    cases heq
    exact (List.mem_filter.1 hentry).1
  · obtain ⟨entry, hentry, heq⟩ := List.mem_map.1 h
    cases heq
    exact (List.mem_filter.1 hentry).1
  · cases h

theorem mem_names_of_lookup {name : String} {o : OptionSpec} (h : g.names.lookup name = some o) :
    (name, o) ∈ g.names := by
  obtain ⟨before, after, hnames, -⟩ := List.lookup_eq_some_iff.1 h
  exact hnames ▸ List.mem_append_right _ List.mem_cons_self

theorem exists_mem_names_of_wordOf {o : OptionSpec} {name : String} {attached : Option String}
    (h : g.wordOf argument = .ok (.option o name attached)) : ∃ name, (name, o) ∈ g.names := by
  rw [wordOf_eq] at h
  split at h
  · cases h
  · cases hspelled : g.spelled? argument with
    | some word =>
      rw [hspelled] at h
      cases h
      unfold spelled? at hspelled
      rcases Option.or_eq_some_iff.1 hspelled with hlookup | ⟨-, hlookup⟩
      · obtain ⟨_, hname, heq⟩ := Option.map_eq_some_iff.1 hlookup
        cases heq
        exact ⟨_, mem_names_of_lookup hname⟩
      · obtain ⟨text, -, hlookup⟩ := Option.bind_eq_some_iff.1 hlookup
        obtain ⟨_, hname, heq⟩ := Option.map_eq_some_iff.1 hlookup
        cases heq
        exact ⟨_, mem_names_of_lookup hname⟩
    | none =>
      rw [hspelled] at h
      change g.shortened argument = _ at h
      unfold shortened at h
      split at h
      · rename_i hfitting
        cases h
        exact ⟨_, mem_names_of_fitting (hfitting ▸ List.mem_singleton.2 rfl)⟩
      · cases h
      · split at h <;> cases h

theorem mem_names_of_words {arguments : List String} {words : List (String × Word)}
    (h : g.words arguments = .ok words) {o : OptionSpec} {name : String} {attached : Option String}
    (hword : (argument, .option o name attached) ∈ words) : ∃ name, (name, o) ∈ g.names := by
  induction arguments generalizing words with
  | nil =>
    cases h
    cases hword
  | cons first rest ih =>
    by_cases hseparator : first = "--"
    · subst hseparator
      cases h
      simp at hword
    · obtain ⟨word, words', hfirst, hrest, rfl⟩ := exists_of_words_cons hseparator h
      rcases List.mem_cons.1 hword with heq | hword
      · cases heq
        exact exists_mem_names_of_wordOf hfirst
      · exact ih hrest hword

end Grammar

/-- The option of `link` that the other commands do not have. -/
def artifactRoot : OptionSpec :=
  ⟨["--artifact-root"], .text, "root of the build (default: BORING_BSSL_PATH or OUT_DIR)"⟩

theorem names_link : (Command.grammar .link).names =
    (Command.grammar .build).names ++ [("--artifact-root", artifactRoot)] := rfl

theorem fitting_link_of_short {cs : List Char} (h : ∀ rest, cs ≠ '-' :: '-' :: rest) :
    (Command.grammar .link).fitting cs = (Command.grammar .build).fitting cs := by
  unfold Grammar.fitting
  split
  · exact absurd rfl (h _)
  · rw [names_link, List.filter_append, List.filter_cons_of_neg ?_, List.filter_nil,
      List.append_nil]
    intro heq
    have hlength := congrArg (fun name => name.toList.length) (of_decide_eq_true heq)
    simp at hlength
  · rfl

/-- The root of the build is meant only where no other option fits, or where several do. -/
theorem fitting_link (cs : List Char) :
    (Command.grammar .link).fitting cs = (Command.grammar .build).fitting cs ∨
      ((Command.grammar .build).fitting cs = [] ∧ ∃ attached,
        (Command.grammar .link).fitting cs = [("--artifact-root", artifactRoot, attached)]) ∨
      2 ≤ ((Command.grammar .build).fitting cs).length := by
  by_cases hlong : ∃ rest, cs = '-' :: '-' :: rest
  · obtain ⟨rest, rfl⟩ := hlong
    rw [Grammar.fitting_long, Grammar.fitting_long, names_link, List.filter_append, List.map_append]
    cases rest.takeWhile (· ≠ '=') with
    | nil =>
      refine Or.inr (Or.inr ?_)
      rw [List.length_map]
      decide +kernel
    | cons c more =>
      cases hfits : ('-' :: '-' :: c :: more).isPrefixOf "--artifact-root".toList with
      | false =>
        rw [List.filter_cons_of_neg (by rw [hfits]; exact Bool.false_ne_true)]
        exact Or.inl (List.append_nil _)
      | true =>
        obtain ⟨after, hafter⟩ := List.isPrefixOf_iff_prefix.1 hfits
        obtain rfl : c = 'a' := Option.some.inj (congrArg (fun cs => cs[2]?) hafter)
        have hothers : ∀ entry ∈ (Command.grammar .build).names, entry.1.toList[2]? ≠ some 'a' := by
          decide +kernel
        have hnone : (Command.grammar .build).names.filter (fun entry =>
            ('-' :: '-' :: 'a' :: more).isPrefixOf entry.1.toList) = [] := by
          rw [List.filter_eq_nil_iff]
          intro entry hentry hprefix
          obtain ⟨after, hafter⟩ := List.isPrefixOf_iff_prefix.1 hprefix
          exact hothers entry hentry (congrArg (fun cs => cs[2]?) hafter).symm
        rw [hnone, List.filter_eq_self.2 fun entry hentry => List.mem_singleton.1 hentry ▸ hfits]
        exact Or.inr (Or.inl ⟨rfl, _, rfl⟩)
  · exact Or.inl (fitting_link_of_short fun rest hrest => hlong ⟨rest, hrest⟩)

/-! ## Words -/

/-- `link` takes the argument for the root of the build, in full or cut short. -/
def TakesRoot (argument : String) : Prop :=
  ∃ name attached,
    (Command.grammar .link).wordOf argument = .ok (.option artifactRoot name attached)

/-- The option that a word gives. -/
def Word.spec? : Word → Option OptionSpec
  | .option o _ _ => some o
  | _ => none

theorem takesRoot_iff {argument : String} : TakesRoot argument ↔
    ((Command.grammar .link).wordOf argument).toOption.bind Word.spec? = some artifactRoot := by
  unfold TakesRoot
  cases (Command.grammar .link).wordOf argument with
  | error e => exact ⟨nofun, nofun⟩
  | ok word => cases word <;> simp [Except.toOption, Word.spec?]

instance (argument : String) : Decidable (TakesRoot argument) :=
  decidable_of_iff' _ takesRoot_iff

theorem lookup_names_link (name : String) :
    (Command.grammar .link).names.lookup name = (Command.grammar .build).names.lookup name ∨
      (Command.grammar .link).names.lookup name = some artifactRoot := by
  rw [names_link, List.lookup_append]
  cases (Command.grammar .build).names.lookup name with
  | some o => exact Or.inl rfl
  | none =>
    by_cases hname : name = "--artifact-root"
    · exact Or.inr (by simp [hname])
    · exact Or.inl (by simp [List.lookup_cons, beq_eq_false_iff_ne.2 hname])

theorem spelled?_link (argument : String) :
    (Command.grammar .link).spelled? argument = (Command.grammar .build).spelled? argument ∨
      ∃ name attached,
        (Command.grammar .link).spelled? argument = some (.option artifactRoot name attached) := by
  unfold Grammar.spelled?
  dsimp only
  rcases lookup_names_link argument with hlookup | hlookup
  · rw [hlookup]
    cases (Command.grammar .build).names.lookup argument with
    | some o => exact Or.inl rfl
    | none =>
      cases (Grammar.cutAtEquals argument.toList).2 with
      | none => exact Or.inl rfl
      | some text =>
        rcases lookup_names_link (Grammar.cutAtEquals argument.toList).1 with hstart | hstart
        · exact Or.inl (by rw [Option.bind_some, Option.bind_some, hstart])
        · exact Or.inr ⟨_, _, by rw [Option.bind_some, hstart]; rfl⟩
  · exact Or.inr ⟨_, _, by rw [hlookup]; rfl⟩

theorem shortened_link {argument : String} {word : Word}
    (h : (Command.grammar .build).shortened argument = .ok word) :
    (Command.grammar .link).shortened argument = .ok word ∨
      ∃ name attached, (Command.grammar .link).shortened argument =
        .ok (.option artifactRoot name attached) := by
  unfold Grammar.shortened at h ⊢
  rcases fitting_link argument.toList with hfits | ⟨-, attached, hfits⟩ | hfits
  · rw [hfits]
    exact Or.inl h
  · rw [hfits]
    exact Or.inr ⟨_, _, rfl⟩
  · cases hfitting : (Command.grammar .build).fitting argument.toList with
    | nil => simp [hfitting] at hfits
    | cons fit fits =>
      rw [hfitting] at h hfits
      cases fits with
      | nil => simp at hfits
      | cons fit' fits => cases h

theorem wordOf_link {argument : String} {word : Word}
    (h : (Command.grammar .build).wordOf argument = .ok word) (hroot : ¬TakesRoot argument) :
    (Command.grammar .link).wordOf argument = .ok word := by
  unfold TakesRoot at hroot
  rw [Grammar.wordOf_eq] at h hroot ⊢
  split
  · rename_i hoperand
    rwa [if_pos hoperand] at h
  · rename_i hoption
    rw [if_neg hoption] at h hroot
    rcases spelled?_link argument with hspelled | ⟨name, attached, hspelled⟩
    · rw [hspelled] at hroot ⊢
      cases hword : (Command.grammar .build).spelled? argument with
      | some word' =>
        rwa [hword] at h
      | none =>
        rw [hword] at h hroot
        exact (shortened_link h).resolve_right hroot
    · rw [hspelled] at hroot
      exact absurd ⟨name, attached, rfl⟩ hroot

/-! ## Reading -/

theorem words_link {arguments : List String} {words : List (String × Word)}
    (h : (Command.grammar .build).words arguments = .ok words)
    (hroot : ∀ argument ∈ arguments, ¬TakesRoot argument) :
    (Command.grammar .link).words arguments = .ok words := by
  induction arguments generalizing words with
  | nil => exact h
  | cons argument rest ih =>
    rw [List.forall_mem_cons] at hroot
    by_cases hseparator : argument = "--"
    · subst hseparator
      exact h
    · obtain ⟨word, words', hword, hrest, rfl⟩ := Grammar.exists_of_words_cons hseparator h
      rw [Grammar.words_cons hseparator, wordOf_link hword hroot.1, ih hrest hroot.2]
      rfl

/-- Options that the commands share say the same to `link` as to the other commands. -/
theorem read_link {arguments : List String} {p : Parsed}
    (h : (Command.grammar .build).read arguments = .ok p)
    (hroot : ∀ argument ∈ arguments, ¬TakesRoot argument) :
    (Command.grammar .link).read arguments = .ok p := by
  unfold Grammar.read at h ⊢
  cases hwords : (Command.grammar .build).words arguments with
  | error e => rw [hwords] at h; cases h
  | ok words =>
    rw [hwords] at h
    rw [words_link hwords hroot]
    exact h

/-- What holds of the name of every option among the words. -/
def OptionNames (good : String → Prop) (words : List (String × Word)) : Prop :=
  ∀ argument o name attached, (argument, .option o name attached) ∈ words → good o.name

namespace OptionNames

variable {good : String → Prop} {word : String × Word} {words words' : List (String × Word)}

theorem of_subset (h : OptionNames good words) (hsub : words' ⊆ words) : OptionNames good words' :=
  fun argument o name attached hword => h argument o name attached (hsub hword)

theorem tail (h : OptionNames good (word :: words)) : OptionNames good words :=
  h.of_subset (List.subset_cons_self _ _)

theorem head {argument name : String} {o : OptionSpec} {attached : Option String}
    (h : OptionNames good ((argument, .option o name attached) :: words)) : good o.name :=
  h _ _ _ _ List.mem_cons_self

end OptionNames

theorem dropSeparator_subset (words : List (String × Word)) : dropSeparator words ⊆ words := by
  unfold dropSeparator
  split
  · exact List.subset_cons_self _ _
  · exact List.Subset.refl _

theorem forall_given_snoc {good : String → Prop} {p : Parsed} {name : String}
    {value : Option String} (hname : good name) (hp : ∀ option ∈ p.given, good option.1) :
    ∀ option ∈ p.given ++ [(name, value)], good option.1 := by
  intro option hoption
  rcases List.mem_append.1 hoption with hoption | hoption
  · exact hp option hoption
  · exact List.mem_singleton.1 hoption ▸ hname

/-- What holds of the names of all options among the words holds of all that are given. -/
theorem forall_given_of_readWords (good : String → Prop) {words : List (String × Word)}
    {wantsOperand : Bool} {p p' : Parsed} (h : readWords wantsOperand p words = .ok p')
    (hwords : OptionNames good words) (hp : ∀ option ∈ p.given, good option.1) :
    ∀ option ∈ p'.given, good option.1 := by
  induction p, words using readWords.induct wantsOperand with
  | case1 p =>
    rw [readWords] at h
    cases h
    exact hp
  | case2 p argument rest ih =>
    rw [readWords] at h
    exact ih h hwords.tail hp
  | case3 p argument rest hwants ih =>
    rw [readWords, if_pos hwants] at h
    exact ih h (hwords.of_subset fun word hword =>
      List.mem_cons_of_mem _ (dropSeparator_subset rest hword)) hp
  | case4 p argument rest hwants ih =>
    rw [readWords, if_neg hwants] at h
    exact ih h hwords.tail hp
  | case5 p first argument word rest hwants ih =>
    rw [readWords, if_pos hwants] at h
    exact ih h hwords.tail.tail hp
  | case6 p first argument word rest hwants ih =>
    rw [readWords, if_neg hwants] at h
    exact ih h hwords.tail hp
  | case7 p first =>
    rw [readWords] at h
    cases h
    exact hp
  | case8 p first o name attached rest hkind ih =>
    rw [readWords.eq_def] at h
    dsimp only at h
    rw [if_pos hkind] at h
    cases hflag : takeFlag o name attached with
    | error e => rw [hflag] at h; cases h
    | ok u =>
      rw [hflag] at h
      exact ih h hwords.tail (forall_given_snoc hwords.head hp)
  | case9 p first o name hkind text rest ih =>
    rw [readWords, if_neg hkind] at h
    cases hvalue : takeAttached o text with
    | error e => rw [hvalue] at h; cases h
    | ok value =>
      rw [hvalue] at h
      exact ih value h hwords.tail (forall_given_snoc hwords.head hp)
  | case10 p first o name hkind argument rest ih =>
    rw [readWords, if_neg hkind] at h
    cases hvalue : takeValue o argument with
    | error e => rw [hvalue] at h; cases h
    | ok value =>
      rw [hvalue] at h
      exact ih value h hwords.tail.tail (forall_given_snoc hwords.head hp)
  | case11 p first o name rest hkind hvalue =>
    rw [readWords] at h
    · rw [if_neg hkind] at h
      cases h
    · exact hvalue

theorem Grammar.exists_words_of_read {g : Grammar} {arguments : List String} {p : Parsed}
    (h : g.read arguments = .ok p) :
    ∃ words, g.words arguments = .ok words ∧ readWords g.operand.isSome {} words = .ok p := by
  unfold read at h
  cases hwords : g.words arguments with
  | error e => rw [hwords] at h; cases h
  | ok words =>
    rw [hwords] at h
    change readWords g.operand.isSome {} words >>= _ = _ at h
    cases hread : readWords g.operand.isSome {} words with
    | error e => rw [hread] at h; cases h
    | ok p' =>
      rw [hread] at h
      refine ⟨words, rfl, ?_⟩
      simp only [bind, Except.bind] at h
      split at h
      · cases h
      · split at h
        · exact hread.trans h
        · cases h

/-- The other commands are not given the root of a build. -/
theorem value?_root {arguments : List String} {p : Parsed}
    (h : (Command.grammar .build).read arguments = .ok p) : p.value? "--artifact-root" = none := by
  have hnames : ∀ entry ∈ (Command.grammar .build).names, entry.2.name ≠ "--artifact-root" := by
    decide +kernel
  obtain ⟨words, hwords, hread⟩ := Grammar.exists_words_of_read h
  have hgiven : ∀ option ∈ p.given, option.1 ≠ "--artifact-root" := by
    refine forall_given_of_readWords (· ≠ "--artifact-root") hread
      (fun argument o name attached hword => ?_) nofun
    obtain ⟨_, hmem⟩ := Grammar.mem_names_of_words hwords hword
    exact hnames _ hmem
  have hlookup : p.given.reverse.lookup "--artifact-root" = none := by
    rw [List.lookup_eq_none_iff]
    intro option hoption
    exact bne_iff_ne.2 (Ne.symm (hgiven option (List.mem_reverse.1 hoption)))
  unfold Parsed.value? Parsed.last?
  rw [hlookup]
  rfl

end CrossBuild.CommandLine
