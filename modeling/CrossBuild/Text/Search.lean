-- Plain searches in texts: a text at the start, at the end or inside another one, the pieces
-- between separators, and the character that no path and no call of a tool can have.

namespace CrossBuild.Text

/-- Whether `s` starts with `start`. -/
def startsWith (s start : String) : Bool :=
  start.toList.isPrefixOf s.toList

/-- Whether `s` ends with `tail`. -/
def endsWith (s tail : String) : Bool :=
  tail.toList.isSuffixOf s.toList

/-- Whether `part` stands somewhere in the characters, without a gap. -/
def occursIn (part : List Char) : List Char → Bool
  | [] => part.isEmpty
  | c :: cs => part.isPrefixOf (c :: cs) || occursIn part cs

/-- Whether `part` stands somewhere in `s`. -/
def contains (s part : String) : Bool :=
  occursIn part.toList s.toList

/-- The nonempty pieces of a text between the separators. -/
def pieces (separator : Char) (s : String) : List String :=
  ((s.toList.splitOn separator).filter fun piece => !piece.isEmpty).map String.ofList

/-! ## NUL characters -/

/-- Whether a text has a NUL byte in UTF-8. -/
def hasNul (s : String) : Bool := s.toUTF8.data.toList.contains 0

theorem zero_mem_utf8EncodeChar (c : Char) : 0 ∈ String.utf8EncodeChar c ↔ c = '\x00' := by
  have hzero (n : Nat) : 0 = UInt8.ofNat n ↔ n % 256 = 0 := by
    rw [← UInt8.toNat_inj]
    simp [eq_comm]
  have hnul : c = '\x00' ↔ c.val.toNat = 0 := by
    rw [← Char.toNat_inj]
    rfl
  unfold String.utf8EncodeChar
  rw [hnul]
  dsimp only
  split
  · simp only [List.mem_singleton, hzero]
    omega
  · split
    · simp only [List.mem_cons, List.not_mem_nil, or_false, hzero]
      omega
    · split
      · simp only [List.mem_cons, List.not_mem_nil, or_false, hzero]
        omega
      · simp only [List.mem_cons, List.not_mem_nil, or_false, hzero]
        omega

/-- A text has a NUL byte exactly if it has a NUL character. -/
theorem hasNul_iff (s : String) : hasNul s = true ↔ '\x00' ∈ s.toList := by
  have hbytes : s.toUTF8.data.toList = s.toList.flatMap String.utf8EncodeChar := by
    rw [String.toUTF8, ← String.utf8Encode_toList, List.utf8Encode, List.data_toByteArray]
  unfold hasNul
  rw [hbytes, List.contains_iff_mem, List.mem_flatMap]
  simp only [zero_mem_utf8EncodeChar, exists_eq_right]

end CrossBuild.Text
