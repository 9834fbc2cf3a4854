-- Paths as they are written on a command line. A path is held as its anchor and its parts, so
-- doubled slashes, slashes at the end and parts that are a single dot are gone once a text has
-- become a path, while a part of two dots stays: only `resolve` removes it. The text of a path
-- reads back as the same path (`ofString_text`).
import CrossBuild.Text.Search

namespace CrossBuild

/-- Where a path starts: at the current folder, at the root, or at the root written with
exactly two slashes, which stay two. -/
inductive Anchor where
  | here
  | root
  | twoSlashes
  deriving DecidableEq, Repr

namespace Anchor

def text : Anchor → String
  | here => ""
  | root => "/"
  | twoSlashes => "//"

/-- The anchor of the path that the characters write. -/
def ofChars : List Char → Anchor
  | '/' :: '/' :: '/' :: _ => root
  | '/' :: '/' :: _ => twoSlashes
  | '/' :: _ => root
  | _ => here

end Anchor

/-- Whether a text can be a part of a path: it is nonempty, has no slash and is not a single
dot. -/
def isPathPart (part : String) : Bool :=
  part ≠ "" && part ≠ "." && !part.toList.contains '/'

/-- A path: its anchor and its parts from left to right. -/
@[ext]
structure Path where
  anchor : Anchor
  parts : List String
  isPathPart_of_mem : ∀ part ∈ parts, isPathPart part = true
  deriving DecidableEq

namespace Path

def ofString (s : String) : Path where
  anchor := Anchor.ofChars s.toList
  parts := ((s.toList.splitOn '/').map String.ofList).filter isPathPart
  isPathPart_of_mem _ h := (List.mem_filter.1 h).2

/-- The current folder, as a path that adds nothing. -/
def here : Path := ⟨.here, [], by simp⟩

def text (p : Path) : String :=
  if p.anchor = .here ∧ p.parts = [] then "."
  else p.anchor.text ++ "/".intercalate p.parts

instance : ToString Path := ⟨text⟩

/-- The characters of a path after its anchor. -/
def body (p : Path) : List Char := ['/'].intercalate (p.parts.map String.toList)

theorem slash_not_mem_of_isPathPart {part : String} (h : isPathPart part = true) :
    '/' ∉ part.toList := by
  simp [isPathPart] at h
  exact h.2

theorem head?_body_ne_slash (p : Path) : p.body.head? ≠ some '/' := by
  unfold body
  match h : p.parts with
  | [] => simp
  | part :: parts =>
    have hpart := p.isPathPart_of_mem part (by simp [h])
    have hslash := slash_not_mem_of_isPathPart hpart
    match hcs : part.toList with
    | [] => simp [isPathPart, String.toList_eq_nil_iff.1 hcs] at hpart
    | c :: cs =>
      have hc : c ≠ '/' := fun h => by simp [hcs, h] at hslash
      cases parts <;> simp [hcs, hc]

/-- The parts of a path are found in its characters again. -/
theorem filter_splitOn_body (p : Path) :
    ((p.body.splitOn '/').map String.ofList).filter isPathPart = p.parts := by
  unfold body
  match h : p.parts with
  | [] => rfl
  | part :: parts =>
    have hmem (q : String) (hq : q ∈ part :: parts) : isPathPart q = true :=
      p.isPathPart_of_mem q (h ▸ hq)
    have hslash (cs : List Char) (hcs : cs ∈ part.toList :: parts.map String.toList) :
        '/' ∉ cs := by
      rw [← List.map_cons, List.mem_map] at hcs
      obtain ⟨q, hq, rfl⟩ := hcs
      exact slash_not_mem_of_isPathPart (hmem q hq)
    rw [List.map_cons, List.splitOn_intercalate _ hslash (List.cons_ne_nil _ _), ← List.map_cons,
      List.map_map, List.filter_eq_self.2]
    · simp [Function.comp_def]
    · simpa [Function.comp_def] using hmem

/-- The text of a path reads back as the same path. -/
theorem ofString_text (p : Path) : ofString p.text = p := by
  have htext (h : ¬(p.anchor = .here ∧ p.parts = [])) :
      p.text.toList = p.anchor.text.toList ++ p.body := by
    simp [text, h, body]
  have hbody := p.head?_body_ne_slash
  have hparts := p.filter_splitOn_body
  by_cases hhere : p.anchor = .here ∧ p.parts = []
  · exact Path.ext (by simp [text, hhere, ofString, Anchor.ofChars])
      (by simp [text, hhere, ofString, List.splitOn_cons_eq_if_modifyHead, isPathPart])
  · refine Path.ext ?_ ?_
    · simp only [ofString, htext hhere]
      cases ha : p.anchor <;> cases hb : p.body <;> simp_all [Anchor.text, Anchor.ofChars]
    · simp only [ofString, htext hhere]
      cases ha : p.anchor <;>
        simp_all [Anchor.text, List.splitOn_cons_eq_if_modifyHead, isPathPart]

def isAbsolute (p : Path) : Bool := p.anchor ≠ .here

/-- The right path seen from the left one; an absolute right path stands for itself. -/
def join (p q : Path) : Path :=
  if q.isAbsolute then q
  else
    { anchor := p.anchor
      parts := p.parts ++ q.parts
      isPathPart_of_mem := fun part h =>
        (List.mem_append.1 h).elim (p.isPathPart_of_mem part) (q.isPathPart_of_mem part) }

instance : HDiv Path Path Path := ⟨join⟩

instance : HDiv Path String Path := ⟨fun p s => p.join (ofString s)⟩

/-- The path without its last part; an anchor alone is its own parent. -/
def parent (p : Path) : Path where
  anchor := p.anchor
  parts := p.parts.dropLast
  isPathPart_of_mem part h := p.isPathPart_of_mem part (List.dropLast_subset _ h)

/-- The last part. -/
def name? (p : Path) : Option String := p.parts.getLast?

/-- Two parts written one after the other make a part. -/
theorem isPathPart_append {part suffix : String} (h : isPathPart part = true)
    (h' : isPathPart suffix = true) : isPathPart (part ++ suffix) = true := by
  have nonempty {s : String} (hs : s ≠ "") : 0 < s.toList.length :=
    List.length_pos_iff.2 fun h0 => hs (String.toList_inj.1 (by simpa using h0))
  simp only [isPathPart, Bool.and_eq_true, Bool.not_eq_true', ne_eq, decide_not,
    decide_eq_false_iff_not, List.contains_eq_mem] at h h' ⊢
  have hl := nonempty h.1.1
  have hl' := nonempty h'.1.1
  refine ⟨⟨fun h0 => ?_, fun h0 => ?_⟩, ?_⟩
  · have h1 := congrArg (fun s => s.toList.length) h0
    simp only [String.toList_append, List.length_append, String.toList_empty, List.length_nil] at h1
    omega
  · have h1 : (part ++ suffix).toList.length = 1 := by rw [h0]; rfl
    rw [String.toList_append, List.length_append] at h1
    omega
  · simp [String.toList_append, h.2, h'.2]

/-- The path whose last part has a suffix after it; nothing for a path without a last
part. -/
def withSuffix? (p : Path) (suffix : String) (h : isPathPart suffix = true := by decide) :
    Option Path :=
  match hname : p.name? with
  | none => none
  | some name =>
    some
      { anchor := p.anchor
        parts := p.parts.dropLast ++ [name ++ suffix]
        isPathPart_of_mem := by
          intro part hpart
          rcases List.mem_append.1 hpart with hpart | hpart
          · exact p.isPathPart_of_mem part (List.dropLast_subset _ hpart)
          · rw [List.mem_singleton.1 hpart]
            exact isPathPart_append (p.isPathPart_of_mem name (List.mem_of_getLast? hname)) h }

/-- One part of a walk that goes up at two dots, over the parts gone down so far in
reverse. -/
def stepBack (gone : List String) (part : String) : List String :=
  if part = ".." then gone.tail else part :: gone

/-- The absolute path without parts of two dots, seen from the folder `cwd`. -/
def resolve (cwd p : Path) : Path :=
  let parts := ((cwd / p).parts.foldl stepBack []).reverse.filter isPathPart
  ⟨.root, parts, fun _ h => (List.mem_filter.1 h).2⟩

/-- Whether a NUL character stands in the path: no file can have such a name. -/
def hasNul (p : Path) : Bool := p.parts.any Text.hasNul

end Path

end CrossBuild
