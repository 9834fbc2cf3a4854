-- Lines of a text that a tool has written.

namespace CrossBuild.Text

/-- The characters that end a line: the usual line breaks, the vertical tab, the form feed,
the separators U+001C to U+001E, and the Unicode line and paragraph breaks. -/
def isLineEnd (c : Char) : Bool :=
  let n := c.toNat
  (0x0a ≤ n && n ≤ 0x0d) || (0x1c ≤ n && n ≤ 0x1e) || n == 0x85 || n == 0x2028 || n == 0x2029

/-- The first line of a text without its line end; empty for an empty text. -/
def firstLine (s : String) : String :=
  String.ofList (s.toList.takeWhile fun c => !isLineEnd c)

/-! ## First lines -/

/-- The characters that end a line, one by one. -/
def lineEnds : List Char :=
  ['\n', '\x0b', '\x0c', '\r', '\x1c', '\x1d', '\x1e', '\u0085', '\u2028', '\u2029']

theorem isLineEnd_iff (c : Char) : isLineEnd c = true ↔ c ∈ lineEnds := by
  simp only [isLineEnd, lineEnds, List.mem_cons, List.not_mem_nil, or_false, ← Char.toNat_inj,
    Bool.or_eq_true, Bool.and_eq_true, decide_eq_true_eq, beq_iff_eq]
  simp only [show '\n'.toNat = 10 from rfl, show '\x0b'.toNat = 11 from rfl,
    show '\x0c'.toNat = 12 from rfl, show '\r'.toNat = 13 from rfl,
    show '\x1c'.toNat = 28 from rfl, show '\x1d'.toNat = 29 from rfl,
    show '\x1e'.toNat = 30 from rfl, show '\u0085'.toNat = 133 from rfl,
    show '\u2028'.toNat = 8232 from rfl, show '\u2029'.toNat = 8233 from rfl]
  omega

/-- The first line of a text: a line at its start that has no line end in it and is followed by
nothing or by a line end. -/
structure IsFirstLine (s line : String) : Prop where
  one_line : ∀ c ∈ line.toList, c ∉ lineEnds
  leads : ∃ rest, s.toList = line.toList ++ rest ∧ ∀ c ∈ rest.head?, c ∈ lineEnds

theorem isFirstLine_firstLine (s : String) : IsFirstLine s (firstLine s) := by
  have hline : (firstLine s).toList = s.toList.takeWhile fun c => !isLineEnd c := by
    simp [firstLine]
  constructor
  · intro c hc
    rw [hline] at hc
    have hnot := List.all_eq_true.1 List.all_takeWhile c hc
    rw [← isLineEnd_iff]
    simpa using hnot
  · refine ⟨s.toList.dropWhile fun c => !isLineEnd c, ?_, fun c hc => ?_⟩
    · rw [hline, List.takeWhile_append_dropWhile]
    · have hend := List.head?_dropWhile_not (fun c => !isLineEnd c) s.toList
      rw [Option.mem_def] at hc
      rw [hc] at hend
      exact (isLineEnd_iff c).1 (by simpa using hend)

/-- A text has one first line only. -/
theorem isFirstLine_iff (s line : String) : IsFirstLine s line ↔ firstLine s = line := by
  constructor
  · rintro ⟨hline, rest, hs, hrest⟩
    have hinside : ∀ c ∈ line.toList, (!isLineEnd c) = true := by
      intro c hc
      have hnot := hline c hc
      rw [← isLineEnd_iff] at hnot
      simpa using hnot
    have hstop : rest.takeWhile (fun c => !isLineEnd c) = [] := by
      cases rest with
      | nil => rfl
      | cons c cs =>
        have hc : isLineEnd c = true := (isLineEnd_iff c).2 (hrest c rfl)
        simp [hc]
    unfold firstLine
    rw [hs, List.takeWhile_append_of_pos hinside, hstop, List.append_nil, String.ofList_toList]
  · rintro rfl
    exact isFirstLine_firstLine s

end CrossBuild.Text
