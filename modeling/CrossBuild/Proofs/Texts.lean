-- What the plain searches in texts find: a part that is contained is an infix,
-- the words of a text are infixes of it, what is trimmed is all that can be, and
-- a number that stands in a text may be part of a longer one.
import CrossBuild.Text.Blank
import CrossBuild.Text.Search

namespace CrossBuild.Text

/-! ## Parts of a text -/

theorem occursIn_iff (part cs : List Char) : occursIn part cs = true ↔ part <:+: cs := by
  induction cs with
  | nil => simp [occursIn]
  | cons c cs ih => simp [occursIn, ih, List.infix_cons_iff]

theorem contains_iff (s part : String) : contains s part = true ↔ part.toList <:+: s.toList :=
  occursIn_iff _ _

theorem contains_empty {part : String} (h : part ≠ "") : contains "" part = false := by
  rw [Bool.eq_false_iff, Ne, contains_iff]
  simpa using h

theorem contains_trans {s part inner : String} (h : contains s part = true)
    (hpart : contains part inner = true) : contains s inner = true := by
  rw [contains_iff] at h hpart ⊢
  exact hpart.trans h

theorem contains_self (s : String) : contains s s = true :=
  (contains_iff s s).2 (List.infix_refl _)

theorem contains_append_left {s part : String} (h : contains s part = true) (rest : String) :
    contains (s ++ rest) part = true := by
  rw [contains_iff] at h ⊢
  rw [String.toList_append]
  exact List.infix_append_of_infix_left h

theorem contains_append_right {s part : String} (h : contains s part = true) (before : String) :
    contains (before ++ s) part = true := by
  rw [contains_iff] at h ⊢
  rw [String.toList_append]
  exact List.infix_append_of_infix_right h

/-- Each of several texts is found when they are joined. -/
theorem contains_intercalate {line : String} {lines : List String} (h : line ∈ lines)
    (separator : String) : contains (separator.intercalate lines) line = true := by
  rw [contains_iff, String.toList_intercalate]
  induction lines with
  | nil => cases h
  | cons first rest ih =>
    cases rest with
    | nil =>
      rw [List.mem_singleton.1 h]
      simp
    | cons second rest =>
      simp only [List.map_cons, List.intercalate_cons_cons] at ih ⊢
      rcases List.mem_cons.1 h with rfl | h
      · exact List.infix_append_of_infix_left (List.infix_append_of_infix_left (List.infix_refl _))
      · exact List.infix_append_of_infix_right (ih h)

/-! ## Up to a separator -/

section

variable {α : Type} [DecidableEq α] {separator : α} {first : List α}

theorem forall_ne_of_not_mem (h : separator ∉ first) : ∀ a ∈ first, decide (a ≠ separator) = true :=
  fun _ ha => decide_eq_true fun heq => h (heq ▸ ha)

theorem takeWhile_ne_append (h : separator ∉ first) (rest : List α) :
    (first ++ separator :: rest).takeWhile (· ≠ separator) = first := by
  rw [List.takeWhile_append_of_pos (forall_ne_of_not_mem h)]
  simp

theorem dropWhile_ne_append (h : separator ∉ first) (rest : List α) :
    (first ++ separator :: rest).dropWhile (· ≠ separator) = separator :: rest := by
  rw [List.dropWhile_append_of_pos (forall_ne_of_not_mem h)]
  simp

end

/-! ## Words of a text -/

theorem infix_of_mem_splitOn {separator : Char} {piece cs : List Char}
    (h : piece ∈ cs.splitOn separator) : piece <:+: cs := by
  by_cases hmem : separator ∈ cs
  · obtain ⟨first, rest, hcs, hfirst⟩ := List.eq_append_cons_of_mem hmem
    have hlength : rest.length < cs.length := by
      rw [hcs, List.length_append, List.length_cons]
      omega
    rw [hcs, List.splitOn_append_cons_self_of_not_mem hfirst, List.mem_cons] at h
    rw [hcs]
    rcases h with rfl | h
    · exact List.infix_append' [] _ _
    · have hrest : rest <:+: first ++ separator :: rest :=
        (List.suffix_append_of_suffix (List.suffix_cons _ _)).isInfix
      exact (infix_of_mem_splitOn h).trans hrest
  · rw [List.splitOn_eq_singleton hmem, List.mem_singleton] at h
    exact h ▸ List.infix_refl _
termination_by cs.length

/-- A piece between separators has none in it. -/
theorem not_mem_of_mem_splitOn {separator : Char} {piece cs : List Char}
    (h : piece ∈ cs.splitOn separator) : separator ∉ piece := by
  induction cs generalizing piece with
  | nil =>
    rw [List.mem_singleton.1 h]
    exact List.not_mem_nil
  | cons c cs ih =>
    rw [List.splitOn_cons_eq_if_modifyHead] at h
    split at h
    · rcases List.mem_cons.1 h with rfl | h
      · exact List.not_mem_nil
      · exact ih h
    · rename_i hc
      have hc : separator ≠ c := fun heq => hc (beq_iff_eq.2 heq.symm)
      cases hpieces : cs.splitOn separator with
      | nil => exact absurd hpieces (List.splitOn_ne_nil _ _)
      | cons first rest =>
        rw [hpieces, List.modifyHead_cons] at h
        rcases List.mem_cons.1 h with rfl | h
        · have hfirst : separator ∉ first := ih (by rw [hpieces]; exact List.mem_cons_self)
          exact List.not_mem_cons_of_ne_of_not_mem hc hfirst
        · exact ih (by rw [hpieces]; exact List.mem_cons_of_mem _ h)

theorem contains_of_mem_pieces {separator : Char} {s word part : String}
    (h : word ∈ pieces separator s) (hpart : contains word part = true) :
    contains s part = true := by
  unfold pieces at h
  obtain ⟨piece, hpiece, rfl⟩ := List.mem_map.1 h
  have hinfix := infix_of_mem_splitOn (List.mem_filter.1 hpiece).1
  rw [contains_iff, String.toList_ofList] at hpart
  exact (contains_iff s part).2 (hpart.trans hinfix)

/-- A text that goes on after a word and a separator has this word and the words of the rest. -/
theorem pieces_eq_cons {separator : Char} {s word rest : String}
    (hs : s.toList = word.toList ++ separator :: rest.toList) (hword : separator ∉ word.toList)
    (hne : word ≠ "") : pieces separator s = word :: pieces separator rest := by
  unfold pieces
  rw [hs, List.splitOn_append_cons_self_of_not_mem hword,
    List.filter_cons_of_pos (by simpa using hne), List.map_cons, String.ofList_toList]

/-! ## The end of a text -/

/-- What is dropped from the end of the characters, and that nothing more is to be dropped. -/
theorem exists_dropEndWhile (p : Char → Bool) (cs : List Char) :
    ∃ dropped, cs = dropEndWhile p cs ++ dropped ∧ (∀ c ∈ dropped, p c = true) ∧
      ∀ c ∈ (dropEndWhile p cs).getLast?, p c = false := by
  refine ⟨(cs.reverse.takeWhile p).reverse, ?_, ?_, ?_⟩
  · unfold dropEndWhile
    rw [← List.reverse_append, List.takeWhile_append_dropWhile, List.reverse_reverse]
  · intro c hc
    exact List.all_eq_true.1 List.all_takeWhile c (List.mem_reverse.1 hc)
  · intro c hc
    unfold dropEndWhile at hc
    rw [List.getLast?_reverse] at hc
    simpa [Option.mem_def.1 hc] using List.head?_dropWhile_not p cs.reverse

/-- What is left of the end of a text is left of the text. -/
theorem dropEndWhile_infix_append (p : Char → Bool) (before cs : List Char) :
    dropEndWhile p cs <:+: dropEndWhile p (before ++ cs) := by
  unfold dropEndWhile
  rw [List.reverse_append, List.dropWhile_append]
  by_cases hnone : (cs.reverse.dropWhile p).isEmpty = true
  · rw [List.isEmpty_iff.1 hnone]
    exact List.nil_infix
  · rw [if_neg hnone, List.reverse_append]
    exact (List.suffix_append _ _).isInfix

/-- A text is what is left without the blanks at its end, and then blanks. -/
theorem exists_trimEnd (s : String) :
    ∃ blanks, s.toList = (trimEnd s).toList ++ blanks ∧ (∀ c ∈ blanks, isBlank c = true) ∧
      ∀ c ∈ (trimEnd s).toList.getLast?, isBlank c = false := by
  obtain ⟨blanks, hs, hblanks, hlast⟩ := exists_dropEndWhile isBlank s.toList
  unfold trimEnd
  rw [String.toList_ofList]
  exact ⟨blanks, hs, hblanks, hlast⟩

/-- Nothing is left of a text of blanks, and of no other one. -/
theorem trimEnd_eq_empty_iff {s : String} :
    trimEnd s = "" ↔ ∀ c ∈ s.toList, isBlank c = true := by
  obtain ⟨blanks, hs, hblanks, hlast⟩ := exists_trimEnd s
  constructor
  · intro hempty
    rw [hs, hempty]
    exact hblanks
  · intro hall
    rw [← String.toList_inj]
    cases hkept : (trimEnd s).toList.getLast? with
    | none => exact List.getLast?_eq_none_iff.1 hkept
    | some c =>
      have hmem : c ∈ s.toList := by
        rw [hs]
        exact List.mem_append_left _ (List.mem_of_getLast? hkept)
      exact absurd ((hall c hmem).symm.trans (hlast c hkept)) (by decide)

/-- A text stands at the end of another one, but for the blanks around it, when the blanks at the
end of that one are gone. -/
theorem contains_trimEnd_append (before s : String) :
    contains (trimEnd (before ++ s)) (trim s) = true := by
  rw [contains_iff]
  unfold trimEnd trim
  rw [String.toList_ofList, String.toList_ofList, String.toList_append]
  have hs : before.toList ++ s.toList =
      (before.toList ++ s.toList.takeWhile isBlank) ++ s.toList.dropWhile isBlank := by
    rw [List.append_assoc, List.takeWhile_append_dropWhile]
  rw [hs]
  exact dropEndWhile_infix_append _ _ _

/-- A text is what is left without the slashes at its end, and then slashes. -/
theorem exists_trimEndSlashes (s : String) :
    ∃ slashes, s = trimEndSlashes s ++ slashes ∧ (∀ c ∈ slashes.toList, c = '/') ∧
      endsWith (trimEndSlashes s) "/" = false := by
  obtain ⟨dropped, hs, hdropped, hlast⟩ := exists_dropEndWhile (· == '/') s.toList
  refine ⟨String.ofList dropped, ?_, by simpa using hdropped, ?_⟩
  · rw [trimEndSlashes, ← String.ofList_append, ← hs, String.ofList_toList]
  · unfold endsWith trimEndSlashes
    rw [Bool.eq_false_iff, Ne, List.isSuffixOf_iff_suffix]
    rintro ⟨first, hfirst⟩
    simp only [String.toList_ofList] at hfirst
    have hslash := hlast '/' (by rw [← hfirst]; simp)
    cases hslash

/-! ## Numbers in a text -/

/-- A number stands in the text by itself: no digit goes before it and none comes after it. -/
def HoldsNumber (s number : String) : Prop :=
  ∃ before after, s.toList = before ++ number.toList ++ after ∧
    (∀ c ∈ before.getLast?, c.isDigit = false) ∧ ∀ c ∈ after.head?, c.isDigit = false

/-- Whether the number stands by itself where it starts after `n` characters. -/
def holdsNumberAt (s number : String) (n : Nat) : Bool :=
  let before := s.toList.take n
  let after := s.toList.drop (n + number.toList.length)
  s.toList == before ++ number.toList ++ after &&
    (before.getLast?.all fun c => !c.isDigit) && after.head?.all fun c => !c.isDigit

theorem holdsNumber_iff (s number : String) :
    (List.range (s.toList.length + 1)).any (holdsNumberAt s number) = true ↔
      HoldsNumber s number := by
  simp only [List.any_eq_true, List.mem_range, holdsNumberAt, Bool.and_eq_true, beq_iff_eq,
    Option.all_eq_true, Bool.not_eq_true']
  constructor
  · rintro ⟨n, -, ⟨hs, hbefore⟩, hafter⟩
    exact ⟨_, _, hs, hbefore, hafter⟩
  · rintro ⟨before, after, hs, hbefore, hafter⟩
    have htake : s.toList.take before.length = before := by
      rw [hs, List.append_assoc, List.take_left]
    have hdrop : s.toList.drop (before.length + number.toList.length) = after := by
      rw [hs, ← List.length_append, List.drop_left]
    refine ⟨before.length, ?_, ?_⟩
    · simp only [hs, List.length_append]
      omega
    · rw [htake, hdrop]
      exact ⟨⟨hs, hbefore⟩, hafter⟩

instance (s number : String) : Decidable (HoldsNumber s number) :=
  decidable_of_iff _ (holdsNumber_iff s number)

example : HoldsNumber "clang version 7.0.1 (final)" "7.0.1" := by decide +kernel

example : ¬HoldsNumber "clang version 17.0.1" "7.0.1" := by decide +kernel

end CrossBuild.Text
