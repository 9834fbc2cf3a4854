-- Files on a disk. A path leads to the location that it has without its dots, an
-- operation changes the tree only where its path leads, and no file comes up at a
-- location that nothing has been written or moved to.
import CrossBuild.Disk

namespace CrossBuild

/-! ## The tree -/

namespace Entry

variable {e new : Entry} {loc loc' : Location} {content : ByteArray}

theorem lookup_cons_eq (name other : String) (child : Entry) (rest : List (String × Entry)) :
    ((name, child) :: rest).lookup other =
      if other = name then some child else rest.lookup other := by
  rw [List.lookup_cons]
  by_cases h : other = name
  · simp [h]
  · simp [h, beq_false_of_ne h]

theorem lookup_setChild (name other : String) (child : Entry) (children : List (String × Entry)) :
    (setChild name child children).lookup other =
      if other = name then some child else children.lookup other := by
  induction children with
  | nil => exact lookup_cons_eq name other child []
  | cons first rest ih =>
    obtain ⟨firstName, e⟩ := first
    unfold setChild
    by_cases hfirst : firstName = name
    · rw [if_pos hfirst, lookup_cons_eq, lookup_cons_eq, hfirst]
      split <;> rfl
    · rw [if_neg hfirst, lookup_cons_eq, lookup_cons_eq, ih]
      by_cases h : other = firstName
      · rw [if_pos h, if_neg (h ▸ hfirst), if_pos h]
      · rw [if_neg h, if_neg h]

theorem lookup_filter_ne (name other : String) (children : List (String × Entry)) :
    (children.filter fun child => child.1 ≠ name).lookup other =
      if other = name then none else children.lookup other := by
  induction children with
  | nil => simp
  | cons first rest ih =>
    obtain ⟨firstName, e⟩ := first
    by_cases hfirst : firstName = name
    · rw [List.filter_cons_of_neg (by simpa using hfirst), ih, lookup_cons_eq, hfirst]
      split <;> rfl
    · rw [List.filter_cons_of_pos (by simpa using hfirst), lookup_cons_eq, lookup_cons_eq, ih]
      by_cases h : other = firstName
      · rw [if_pos h, if_neg (h ▸ hfirst), if_pos h]
      · rw [if_neg h, if_neg h]

@[simp]
theorem at?_nil (e : Entry) : e.at? [] = some e := rfl

theorem at?_cons (e : Entry) (name : String) (rest : Location) :
    e.at? (name :: rest) = (e.children.lookup name).bind fun child => child.at? rest := rfl

theorem at?_append (e : Entry) (loc loc' : Location) :
    e.at? (loc ++ loc') = (e.at? loc).bind fun found => found.at? loc' := by
  induction loc generalizing e with
  | nil => simp
  | cons name rest ih =>
    rw [List.cons_append, at?_cons, at?_cons]
    cases e.children.lookup name with
    | none => rfl
    | some child => exact ih child

/-- A file after an entry has been put somewhere was there before or is part of the entry. -/
theorem at?_put (h : (put new e loc').at? loc = some (file content)) :
    e.at? loc = some (file content) ∨
      ∃ rest, loc = loc' ++ rest ∧ new.at? rest = some (file content) := by
  induction loc' generalizing e loc with
  | nil =>
    unfold put at h
    exact Or.inr ⟨loc, rfl, h⟩
  | cons name rest' ih =>
    unfold put at h
    cases loc with
    | nil => simp at h
    | cons other rest =>
      rw [at?_cons, children, lookup_setChild] at h
      by_cases hname : other = name
      · rw [if_pos hname] at h
        rcases ih h with hold | ⟨rest'', rfl, hnew⟩
        · refine Or.inl ?_
          rw [at?_cons, hname]
          cases hchild : e.children.lookup name with
          | some child =>
            rw [hchild] at hold
            exact hold
          | none =>
            rw [hchild] at hold
            cases rest with
            | nil => simp at hold
            | cons _ _ => simp [at?_cons, children] at hold
        · exact Or.inr ⟨rest'', by rw [hname]; rfl, hnew⟩
      · rw [if_neg hname] at h
        exact Or.inl (by rw [at?_cons]; exact h)

theorem erase_cons_cons (e : Entry) (name next : String) (rest : Location) :
    e.erase (name :: next :: rest) =
      match e.children.lookup name with
      | none => e
      | some child => folder (setChild name (child.erase (next :: rest)) e.children) := rfl

/-- What is in a folder once a child of it has been erased. -/
theorem lookup_children_erase (e : Entry) (name other : String) (rest : Location) :
    (e.erase (name :: rest)).children.lookup other =
      if other = name then
        match rest with
        | [] => none
        | next :: rest => (e.children.lookup name).map fun child => child.erase (next :: rest)
      else e.children.lookup other := by
  cases rest with
  | nil =>
    cases e with
    | file content => simp [erase, children]
    | folder children => exact lookup_filter_ne name other children
  | cons next rest =>
    rw [erase_cons_cons]
    cases hchild : e.children.lookup name with
    | none =>
      by_cases h : other = name
      · simp [h, hchild]
      · simp [h]
    | some child => exact lookup_setChild name other _ e.children

theorem erase_isFile (e : Entry) (loc : Location) (content : ByteArray)
    (h : e.erase loc = file content) : e = file content := by
  cases loc with
  | nil => exact h
  | cons name rest =>
    cases rest with
    | nil =>
      cases e with
      | file content' => exact h
      | folder children => cases h
    | cons next rest =>
      rw [erase_cons_cons] at h
      split at h
      · exact h
      · cases h

/-- Nothing comes up when something is erased. -/
theorem at?_erase (h : (e.erase loc').at? loc = some (file content)) :
    e.at? loc = some (file content) := by
  induction loc' generalizing e loc with
  | nil => exact h
  | cons name rest' ih =>
    cases loc with
    | nil =>
      rw [at?_nil, Option.some.injEq] at h
      rw [at?_nil, erase_isFile e _ content h]
    | cons other rest =>
      rw [at?_cons, lookup_children_erase] at h
      rw [at?_cons]
      by_cases hname : other = name
      · rw [if_pos hname] at h
        rw [hname]
        cases rest' with
        | nil => cases h
        | cons next rest' =>
          cases hchild : e.children.lookup name with
          | none => rw [hchild] at h; cases h
          | some child =>
            rw [hchild] at h
            exact ih h
      · rw [if_neg hname] at h
        exact h

/-- Nothing is left where something has been erased. -/
theorem at?_erase_self (h : loc ≠ []) : (e.erase loc).at? loc = none := by
  induction loc generalizing e with
  | nil => exact absurd rfl h
  | cons name rest ih =>
    rw [at?_cons, lookup_children_erase, if_pos rfl]
    cases rest with
    | nil => rfl
    | cons next rest =>
      cases hchild : e.children.lookup name with
      | none => rfl
      | some child => exact ih (by simp)

end Entry

/-! ## Walks -/

namespace Spot

variable {root : Entry} {s s' : Spot} {parts : List String}

/-- The spots of a tree: the root, and the child of a spot under a name. -/
inductive On (root : Entry) : Spot → Prop
  | root : On root ⟨root, []⟩
  | child {s : Spot} {name : String} {e : Entry} (h : On root s)
      (hchild : s.entry.children.lookup name = some e) : On root ⟨e, (name, s.entry) :: s.above⟩

theorem On.up (h : On root s) : On root s.up := by
  cases h with
  | root => exact .root
  | child h hchild => exact h

theorem location_child (s : Spot) (name : String) (e : Entry) :
    location ⟨e, (name, s.entry) :: s.above⟩ = s.location ++ [name] := by
  simp [location]

/-- What a spot of a tree is at is at its location. -/
theorem On.at?_location (h : On root s) : root.at? s.location = some s.entry := by
  induction h with
  | root => exact Entry.at?_nil root
  | child h hchild ih =>
    rw [location_child, Entry.at?_append, ih, Option.bind_some, Entry.at?_cons, hchild,
      Option.bind_some, Entry.at?_nil]

theorem follow_nil (s : Spot) : s.follow [] = .ok s := rfl

theorem follow_up (s : Spot) (rest : List String) :
    s.follow (".." :: rest) = s.children >>= fun _ => s.up.follow rest := rfl

theorem follow_down {name : String} (h : name ≠ "..") (s : Spot) (rest : List String) :
    s.follow (name :: rest) = s.child? name >>= fun
      | some e => Spot.follow ⟨e, (name, s.entry) :: s.above⟩ rest
      | none => .error .noEntry := by
  conv => lhs; unfold follow
  split
  · rename_i heq
    cases heq
  · rename_i heq
    exact absurd (List.cons.inj heq).1 h
  · rename_i heq
    cases heq
    rfl

/-- A child is found only in a folder that holds it. -/
theorem lookup_of_child? {name : String} {e : Option Entry} (h : s.child? name = .ok e) :
    s.entry.children.lookup name = e ∧ name.utf8ByteSize ≤ Disk.longestName := by
  unfold child? children at h
  cases hentry : s.entry with
  | file content =>
    rw [hentry] at h
    cases h
  | folder children =>
    rw [hentry] at h
    change (if Disk.longestName < name.utf8ByteSize then _ else _) = _ at h
    split at h
    · cases h
    · rename_i hlength
      cases h
      exact ⟨rfl, Nat.le_of_not_lt hlength⟩

theorem child?_ne_noEntry {name : String} : s.child? name ≠ .error .noEntry := by
  unfold child? children
  cases s.entry with
  | file content =>
    intro h
    exact absurd (Except.error.inj h) (by decide)
  | folder children =>
    change (if Disk.longestName < name.utf8ByteSize then _ else _) ≠ _
    split
    · intro h
      exact absurd (Except.error.inj h) (by decide)
    · nofun

/-- A walk stays on the tree, and its spot is where the parts lead without their dots. -/
theorem On.follow (h : On root s) (hfollow : s.follow parts = .ok s') :
    On root s' ∧ s'.above.map (·.1) = parts.foldl Path.stepBack (s.above.map (·.1)) := by
  induction parts generalizing s with
  | nil =>
    rw [follow_nil] at hfollow
    cases hfollow
    exact ⟨h, rfl⟩
  | cons part rest ih =>
    by_cases hpart : part = ".."
    · subst hpart
      rw [follow_up] at hfollow
      cases hchildren : s.children with
      | error code => rw [hchildren] at hfollow; cases hfollow
      | ok children =>
        rw [hchildren] at hfollow
        obtain ⟨hon, hnames⟩ := ih h.up hfollow
        refine ⟨hon, ?_⟩
        rw [hnames, List.foldl_cons, Path.stepBack, if_pos rfl]
        unfold Spot.up
        cases habove : s.above <;> simp [habove]
    · rw [follow_down hpart] at hfollow
      cases hchild : s.child? part with
      | error code => rw [hchild] at hfollow; cases hfollow
      | ok found =>
        rw [hchild] at hfollow
        cases found with
        | none => cases hfollow
        | some e =>
          obtain ⟨hon, hnames⟩ := ih (h.child (lookup_of_child? hchild).1) hfollow
          refine ⟨hon, ?_⟩
          rw [hnames, List.foldl_cons, Path.stepBack, if_neg hpart]
          rfl

theorem follow_append (s : Spot) (parts rest : List String) :
    s.follow (parts ++ rest) = s.follow parts >>= fun s => s.follow rest := by
  induction parts generalizing s with
  | nil => rw [follow_nil]; rfl
  | cons part parts ih =>
    rw [List.cons_append]
    by_cases hpart : part = ".."
    · subst hpart
      rw [follow_up, follow_up]
      cases s.children with
      | error code => rfl
      | ok children => exact ih _
    · rw [follow_down hpart, follow_down hpart]
      cases s.child? part with
      | error code => rfl
      | ok found =>
        cases found with
        | none => rfl
        | some e => exact ih _

/-- A walk down to something that is there does not miss it. -/
theorem follow_ne_noEntry {e : Entry} (hparts : ".." ∉ parts) (he : s.entry.at? parts = some e) :
    s.follow parts ≠ .error .noEntry := by
  induction parts generalizing s with
  | nil => simp [follow_nil]
  | cons part rest ih =>
    rw [List.mem_cons, not_or] at hparts
    rw [Entry.at?_cons] at he
    rw [follow_down (Ne.symm hparts.1)]
    cases hchild : s.child? part with
    | error code =>
      have hcode : code ≠ .noEntry := by
        rintro rfl
        exact child?_ne_noEntry hchild
      exact fun h => hcode (Except.error.inj h)
    | ok found =>
      rw [(lookup_of_child? hchild).1] at he
      cases found with
      | none => cases he
      | some child => exact ih hparts.2 he

end Spot

/-! ## Where paths lead -/

namespace Path

/-- A text that can be a part of a path is read as this part. -/
theorem ofString_of_isPathPart {part : String} (h : isPathPart part = true) :
    (ofString part).anchor = .here ∧ (ofString part).parts = [part] := by
  have hslash := slash_not_mem_of_isPathPart h
  constructor
  · change Anchor.ofChars part.toList = .here
    cases hcs : part.toList with
    | nil => rfl
    | cons c cs =>
      rw [hcs, List.mem_cons, not_or] at hslash
      unfold Anchor.ofChars
      split <;> simp_all
  · change ((part.toList.splitOn '/').map String.ofList).filter isPathPart = [part]
    rw [List.splitOn_eq_singleton hslash]
    simp [h]

theorem div_part (p : Path) {part : String} (h : isPathPart part = true) :
    (p / part).anchor = p.anchor ∧ (p / part).parts = p.parts ++ [part] := by
  obtain ⟨hanchor, hparts⟩ := ofString_of_isPathPart h
  have hjoin : p / part = p.join (ofString part) := rfl
  rw [← hparts, hjoin]
  unfold join
  rw [if_neg (by simp [isAbsolute, hanchor])]
  exact ⟨rfl, rfl⟩

theorem isAbsolute_div {p : Path} (habsolute : p.isAbsolute = true) (q : Path) :
    (p / q).isAbsolute = true := by
  change (p.join q).isAbsolute = true
  unfold join
  split
  · assumption
  · exact habsolute

theorem name?_div {p : Path} {part : String} (h : isPathPart part = true) :
    (p / part).name? = some part := by
  obtain ⟨-, hparts⟩ := p.div_part h
  rw [name?, hparts, List.getLast?_concat]

theorem parent_div {p : Path} {part : String} (h : isPathPart part = true) :
    (p / part).parent = p := by
  obtain ⟨hanchor, hparts⟩ := p.div_part h
  refine Path.ext hanchor ?_
  change (p / part).parts.dropLast = p.parts
  rw [hparts, List.dropLast_concat]

end Path

namespace Disk

variable {d d' : Disk} {cwd : Location} {p : Path} {loc : Location}

/-- The folder that a path starts in. -/
def base (cwd : Location) (p : Path) : Location := if p.isAbsolute then [] else cwd

/-- Where a path leads: the names on its way, without those that its dots undo. -/
def target (cwd : Location) (p : Path) : Location :=
  ((base cwd p ++ p.parts).foldl Path.stepBack []).reverse

theorem mem_of_mem_foldl_stepBack {parts gone : List String} {part : String}
    (h : part ∈ parts.foldl Path.stepBack gone) : part ∈ parts ∨ part ∈ gone := by
  induction parts generalizing gone with
  | nil => exact Or.inr h
  | cons first rest ih =>
    rcases ih h with h | h
    · exact Or.inl (List.mem_cons_of_mem _ h)
    · unfold Path.stepBack at h
      split at h
      · exact Or.inr (List.mem_of_mem_tail h)
      · rcases List.mem_cons.1 h with rfl | h
        · exact Or.inl List.mem_cons_self
        · exact Or.inr h

theorem parts_div (cwd p : Path) : (cwd / p).parts = base cwd.parts p ++ p.parts := by
  change (cwd.join p).parts = _
  unfold Path.join base
  split <;> rfl

/-- The resolved path leads to where the path leads. -/
theorem parts_resolve (cwd p : Path) : (Path.resolve cwd p).parts = target cwd.parts p := by
  unfold Path.resolve target
  rw [← parts_div]
  dsimp only
  rw [List.filter_eq_self]
  intro part hpart
  rcases mem_of_mem_foldl_stepBack (List.mem_reverse.1 hpart) with hpart | hpart
  · exact (cwd / p).isPathPart_of_mem part hpart
  · cases hpart

theorem foldl_stepBack_of_not_mem {parts gone : List String} (h : ".." ∉ parts) :
    parts.foldl Path.stepBack gone = parts.reverse ++ gone := by
  induction parts generalizing gone with
  | nil => rfl
  | cons first rest ih =>
    rw [List.mem_cons, not_or] at h
    rw [List.foldl_cons, ih h.2, Path.stepBack, if_neg (Ne.symm h.1)]
    simp

/-- A path without two dots leads where its names lead. -/
theorem target_of_not_mem (h : ".." ∉ base cwd p ++ p.parts) :
    target cwd p = base cwd p ++ p.parts := by
  unfold target
  rw [foldl_stepBack_of_not_mem h]
  simp

theorem base_div_part {part : String} (h : isPathPart part = true) :
    base cwd (p / part) = base cwd p := by
  unfold base Path.isAbsolute
  rw [(p.div_part h).1]

/-- A name after a path leads one step further down. -/
theorem target_div_part {part : String} (h : isPathPart part = true) (hdots : part ≠ "..") :
    target cwd (p / part) = target cwd p ++ [part] := by
  unfold target
  rw [base_div_part h, (p.div_part h).2, ← List.append_assoc, List.foldl_append, List.foldl_cons,
    List.foldl_nil, Path.stepBack, if_neg hdots, List.reverse_cons]

/-- A path without two dots has none after one more name. -/
theorem straight_div_part {part : String} (h : isPathPart part = true) (hdots : part ≠ "..")
    (hp : ".." ∉ base cwd p ++ p.parts) : ".." ∉ base cwd (p / part) ++ (p / part).parts := by
  rw [base_div_part h, (p.div_part h).2, ← List.append_assoc, List.mem_append, not_or,
    List.mem_singleton]
  exact ⟨hp, Ne.symm hdots⟩

theorem straight_parent (h : ".." ∉ base cwd p ++ p.parts) :
    ".." ∉ base cwd p.parent ++ p.parent.parts := fun hmem =>
  h (List.mem_append.2 ((List.mem_append.1 hmem).imp_right (List.dropLast_subset _ ·)))

theorem start_bind_follow (d : Disk) (cwd : Location) (p : Path) (parts : List String) :
    (d.start cwd p >>= fun s => s.follow parts) =
      if longestPath < p.text.utf8ByteSize then .error .nameTooLong
      else Spot.follow ⟨d.root, []⟩ (base cwd p ++ parts) := by
  unfold start base
  rw [Spot.follow_append]
  split <;> rfl

/-- A walk that comes to an end is at the location that it leads to. -/
theorem location_of_start_bind_follow {parts : List String} {s : Spot}
    (h : (d.start cwd p >>= fun s => s.follow parts) = .ok s) :
    s.location = ((base cwd p ++ parts).foldl Path.stepBack []).reverse ∧
      d.at? s.location = some s.entry := by
  rw [start_bind_follow] at h
  split at h
  · cases h
  · obtain ⟨hon, hnames⟩ := Spot.On.root.follow h
    refine ⟨?_, hon.at?_location⟩
    unfold Spot.location
    rw [hnames]
    rfl

/-- What a path finds is at the location that it leads to. -/
theorem at?_target_of_find {e : Entry} (h : d.find cwd p = .ok e) :
    d.at? (target cwd p) = some e := by
  unfold find spot at h
  cases hspot : d.start cwd p >>= fun s => s.follow p.parts with
  | error code => rw [hspot] at h; cases h
  | ok s =>
    rw [hspot] at h
    cases h
    obtain ⟨hlocation, hat⟩ := location_of_start_bind_follow hspot
    rw [← hat, hlocation]
    rfl

/-- There is a file at a location. -/
def HoldsFile (d : Disk) (loc : Location) : Prop := ∃ content, d.at? loc = some (.file content)

instance (d : Disk) (loc : Location) : Decidable (d.HoldsFile loc) :=
  match h : d.at? loc with
  | some (.file content) => isTrue ⟨content, h⟩
  | some (.folder children) => isFalse (by simp [HoldsFile, h])
  | none => isFalse (by simp [HoldsFile, h])

theorem find_of_isFile (h : d.isFile cwd p = .ok true) :
    ∃ content, d.find cwd p = .ok (.file content) := by
  unfold isFile find? at h
  cases hfind : d.find cwd p with
  | error code =>
    rw [hfind] at h
    dsimp only at h
    split at h <;> cases h
  | ok e =>
    rw [hfind] at h
    cases e with
    | file content => exact ⟨content, rfl⟩
    | folder children => cases h

theorem holdsFile_of_isFile (h : d.isFile cwd p = .ok true) : d.HoldsFile (target cwd p) := by
  obtain ⟨content, hfind⟩ := find_of_isFile h
  exact ⟨content, at?_target_of_find hfind⟩

/-! ## Places -/

theorem parts_eq_append {name : String} (h : p.name? = some name) :
    p.parts = p.parts.dropLast ++ [name] := by
  obtain ⟨before, hbefore⟩ := List.getLast?_eq_some_iff.1 h
  rw [hbefore, List.dropLast_concat]

/-- A path with a name leads into the folder that its parent leads to. -/
theorem target_of_name? {name : String} (hname : p.name? = some name)
    (hdots : name ≠ "..") : target cwd p = target cwd p.parent ++ [name] := by
  have hbase : base cwd p.parent = base cwd p := rfl
  unfold target
  rw [hbase, parts_eq_append hname, ← List.append_assoc, List.foldl_append, List.foldl_cons,
    List.foldl_nil, Path.stepBack, if_neg hdots, List.reverse_cons]
  rfl

/-- The place that a path with a last name leads to. -/
theorem place_eq {name : String} (hname : p.name? = some name) (hdots : name ≠ "..") :
    d.place cwd p =
      (d.start cwd p >>= fun s => s.follow p.parts.dropLast) >>= fun folder =>
        folder.child? name >>= fun e => .ok (.named folder.location name e) := by
  unfold place
  rw [hname, bind_assoc]
  dsimp only
  refine bind_congr fun start => bind_congr fun folder => ?_
  rw [if_neg hdots]

theorem name?_of_place {folder : Location} {name : String} {e : Option Entry}
    (h : d.place cwd p = .ok (.named folder name e)) : p.name? = some name ∧ name ≠ ".." := by
  unfold place at h
  cases hstart : d.start cwd p with
  | error code => rw [hstart] at h; cases h
  | ok start =>
    rw [hstart] at h
    cases hname : p.name? with
    | none => rw [hname] at h; cases h
    | some name' =>
      rw [hname] at h
      cases hfolder : start.follow p.parts.dropLast with
      | error code => simp [hfolder, bind, Except.bind] at h
      | ok s =>
        by_cases hdots : name' = ".."
        · cases hchildren : s.children <;>
            simp [hfolder, hdots, hchildren, bind, Except.bind] at h
        · cases hchild : s.child? name' with
          | error code => simp [hfolder, hdots, hchild, bind, Except.bind] at h
          | ok e' =>
            simp [hfolder, hdots, hchild, bind, Except.bind] at h
            exact ⟨by rw [h.2.1], h.2.1 ▸ hdots⟩

/-- The folder of a named place is where a walk leads, and what the place names is its child. -/
theorem spot_of_place {folder : Location} {name : String} {e : Option Entry}
    (h : d.place cwd p = .ok (.named folder name e)) :
    ∃ s, (d.start cwd p >>= fun s => s.follow p.parts.dropLast) = .ok s ∧
      s.location = folder ∧ s.child? name = .ok e := by
  obtain ⟨hname, hdots⟩ := name?_of_place h
  rw [place_eq hname hdots] at h
  cases hfolder : d.start cwd p >>= fun s => s.follow p.parts.dropLast with
  | error code => rw [hfolder] at h; cases h
  | ok s =>
    rw [hfolder] at h
    cases hchild : s.child? name with
    | error code => simp [hchild, bind, Except.bind] at h
    | ok e' =>
      simp only [hchild, bind, Except.bind, Except.ok.injEq, Place.named.injEq, true_and] at h
      exact ⟨s, rfl, h.1, h.2 ▸ hchild⟩

/-- A named place is where its path leads, and what it names is there. -/
theorem target_of_place {folder : Location} {name : String} {e : Option Entry}
    (h : d.place cwd p = .ok (.named folder name e)) :
    folder ++ [name] = target cwd p ∧ d.at? (target cwd p) = e := by
  obtain ⟨hname, hdots⟩ := name?_of_place h
  obtain ⟨s, hfolder, rfl, hchild⟩ := spot_of_place h
  obtain ⟨hlocation, hat⟩ := location_of_start_bind_follow hfolder
  have htarget : s.location ++ [name] = target cwd p := by
    unfold target
    rw [parts_eq_append hname, ← List.append_assoc, List.foldl_append, List.foldl_cons,
      List.foldl_nil, Path.stepBack, if_neg hdots, List.reverse_cons, hlocation]
  refine ⟨htarget, ?_⟩
  rw [← htarget]
  unfold at?
  unfold at? at hat
  rw [Entry.at?_append, hat, Option.bind_some, Entry.at?_cons, (Spot.lookup_of_child? hchild).1]
  cases e <;> simp

/-- The folder of a path without two dots is not missed if something is in it. -/
theorem folder_ne_noEntry {name : String} {e : Entry} (hname : p.name? = some name)
    (hdots : ".." ∉ base cwd p ++ p.parts) (he : d.at? (target cwd p) = some e) :
    (d.start cwd p >>= fun s => s.follow p.parts.dropLast) ≠ .error .noEntry := by
  rw [target_of_not_mem hdots, parts_eq_append hname, ← List.append_assoc] at he
  rw [parts_eq_append hname, ← List.append_assoc, List.mem_append, not_or] at hdots
  unfold at? at he
  rw [Entry.at?_append] at he
  rw [start_bind_follow]
  split
  · intro h
    exact absurd (Except.error.inj h) (by decide)
  · cases hfolder : d.root.at? (base cwd p ++ p.parts.dropLast) with
    | none => rw [hfolder] at he; cases he
    | some folder => exact Spot.follow_ne_noEntry hdots.1 hfolder

/-! ## Operations -/

/-- Where a removal does not find anything, nothing is: no step on the way there fails because
nothing is at its place. -/
theorem at?_of_unlink {name : String} (hname : p.name? = some name)
    (hdots : ".." ∉ base cwd p ++ p.parts) (h : d.unlink cwd p = .error .noEntry) :
    d.at? (target cwd p) = none := by
  refine Option.eq_none_iff_forall_ne_some.2 fun found hat => ?_
  have hne : name ≠ ".." := by
    rintro rfl
    exact hdots (List.mem_append_right _ (List.mem_of_getLast? hname))
  have hplace : d.place cwd p =
      (d.start cwd p >>= fun s => s.follow p.parts.dropLast) >>= fun folder =>
        folder.child? name >>= fun e => .ok (.named folder.location name e) := place_eq hname hne
  have hfolder := folder_ne_noEntry hname hdots hat
  unfold unlink at h
  cases hwalk : d.start cwd p >>= fun s => s.follow p.parts.dropLast with
  | error code =>
    rw [hplace, hwalk] at h
    rw [hwalk] at hfolder
    exact hfolder (congrArg _ (Except.error.inj h))
  | ok s =>
    cases hchild : s.child? name with
    | error code =>
      rw [hplace, hwalk] at h
      simp only [hchild, bind, Except.bind, Except.error.injEq] at h
      exact Spot.child?_ne_noEntry (h ▸ hchild)
    | ok e =>
      have hnamed : d.place cwd p = .ok (.named s.location name e) := by
        rw [hplace, hwalk]
        simp only [hchild, bind, Except.bind]
      rw [(target_of_place hnamed).2] at hat
      rw [hnamed, hat] at h
      cases found <;> cases h

/-- A removal takes away the file that its path leads to. -/
theorem eq_erase_of_unlink (h : d.unlink cwd p = .ok d') :
    d' = d.erase (target cwd p) ∧ target cwd p ≠ [] ∧ d.HoldsFile (target cwd p) := by
  unfold unlink at h
  cases hplace : d.place cwd p with
  | error code => rw [hplace] at h; cases h
  | ok place =>
    rw [hplace] at h
    cases place with
    | unnamed => cases h
    | named folder name e =>
      obtain ⟨htarget, hat⟩ := target_of_place hplace
      cases e with
      | none => cases h
      | some e =>
        cases e with
        | file content =>
          cases h
          exact ⟨by rw [htarget], by simp [← htarget], content, hat⟩
        | folder children => cases h

/-- A file that is there under a name can be removed. -/
theorem exists_unlink_of_isFile {name : String} (hname : p.name? = some name) (hdots : name ≠ "..")
    (h : d.isFile cwd p = .ok true) : ∃ d', d.unlink cwd p = .ok d' := by
  obtain ⟨content, hfind⟩ := find_of_isFile h
  unfold find spot at hfind
  have hwalk : d.start cwd p >>= (fun s => s.follow p.parts) =
      (d.start cwd p >>= fun s => s.follow p.parts.dropLast) >>= fun s => s.follow [name] := by
    rw [bind_assoc]
    refine bind_congr fun s => ?_
    rw [← Spot.follow_append, ← parts_eq_append hname]
  rw [hwalk] at hfind
  cases hfolder : d.start cwd p >>= fun s => s.follow p.parts.dropLast with
  | error code => rw [hfolder] at hfind; cases hfind
  | ok s =>
    rw [hfolder] at hfind
    change (s.follow [name] >>= _) = _ at hfind
    rw [Spot.follow_down hdots] at hfind
    unfold unlink
    rw [place_eq hname hdots, hfolder]
    cases hchild : s.child? name with
    | error code => rw [hchild] at hfind; cases hfind
    | ok e =>
      rw [hchild] at hfind
      cases e with
      | none => cases hfind
      | some e =>
        change (Spot.follow _ [] >>= _) = _ at hfind
        rw [Spot.follow_nil] at hfind
        cases hfind
        simp only [bind, Except.bind, hchild]
        exact ⟨_, rfl⟩

/-- A file after a removal was there before. -/
theorem holdsFile_of_erase (h : (d.erase (target cwd p)).HoldsFile loc) : d.HoldsFile loc := by
  obtain ⟨content, hat⟩ := h
  exact ⟨content, Entry.at?_erase hat⟩

theorem not_holdsFile_of_erase (h : loc ≠ []) : ¬(d.erase loc).HoldsFile loc := by
  rintro ⟨content, hat⟩
  unfold at? erase at hat
  rw [Entry.at?_erase_self h] at hat
  cases hat

theorem not_file_below_folder {rest : Location} {content : ByteArray} :
    (Entry.folder []).at? rest ≠ some (.file content) := by
  cases rest with
  | nil => simp
  | cons name rest => simp [Entry.at?_cons, Entry.children]

/-- A folder is made at a place where nothing is. -/
theorem place_of_makeFolder (h : d.makeFolder cwd p = .ok d') :
    ∃ folder name, d.place cwd p = .ok (.named folder name none) ∧
      d' = d.put (folder ++ [name]) (.folder []) := by
  unfold makeFolder at h
  cases hplace : d.place cwd p with
  | error code => rw [hplace] at h; cases h
  | ok place =>
    rw [hplace] at h
    cases place with
    | unnamed => cases h
    | named folder name e =>
      cases e with
      | some e => cases h
      | none =>
        cases h
        exact ⟨folder, name, rfl, rfl⟩

/-- A file beside a new folder was there before. -/
theorem holdsFile_of_makeFolder (h : d.makeFolder cwd p = .ok d') (hfile : d'.HoldsFile loc) :
    d.HoldsFile loc := by
  obtain ⟨folder, name, -, rfl⟩ := place_of_makeFolder h
  obtain ⟨content, hat⟩ := hfile
  rcases Entry.at?_put hat with hold | ⟨rest, -, hnew⟩
  · exact ⟨content, hold⟩
  · exact absurd hnew not_file_below_folder

/-- A folder that is ensured is made, or it is there already. -/
theorem makeFolder_of_ensureFolder (h : d.ensureFolder cwd p = .ok d') :
    d.makeFolder cwd p = .ok d' ∨ d' = d ∧ d.isFolder cwd p = .ok true := by
  unfold ensureFolder at h
  split at h
  · rename_i hmade
    cases h
    exact Or.inl hmade
  · split at h
    · cases h
    · cases hfolder : d.isFolder cwd p with
      | error code => rw [hfolder] at h; cases h
      | ok found =>
        rw [hfolder] at h
        cases found
        · cases h
        · cases h
          exact Or.inr ⟨rfl, rfl⟩

theorem holdsFile_of_ensureFolder (h : d.ensureFolder cwd p = .ok d') (hfile : d'.HoldsFile loc) :
    d.HoldsFile loc := by
  rcases makeFolder_of_ensureFolder h with hmade | ⟨rfl, -⟩
  · exact holdsFile_of_makeFolder hmade hfile
  · exact hfile

/-- A file after folders have been made was there before. -/
theorem holdsFile_of_ensureFolders (hfile : (d.ensureFolders cwd p).1.HoldsFile loc) :
    d.HoldsFile loc := by
  fun_induction ensureFolders d cwd p with
  | case1 p d' h => exact holdsFile_of_ensureFolder h hfile
  | case2 p code h hmissing d₁ hparent d₂ hfolder ih =>
    exact ih (by rw [hparent]; exact holdsFile_of_ensureFolder hfolder hfile)
  | case3 p code h hmissing d₁ hparent code' hfolder ih => exact ih (by rw [hparent]; exact hfile)
  | case4 p code h hmissing d₁ code' hparent ih => exact ih (by rw [hparent]; exact hfile)
  | case5 p code h hother => exact hfile

/-- A file is written to a place that no folder has. -/
theorem place_of_write {content : ByteArray} (h : d.write cwd p content = .ok d') :
    ∃ folder name e, d.place cwd p = .ok (.named folder name e) ∧
      (∀ children, e ≠ some (.folder children)) ∧
      d' = d.put (folder ++ [name]) (.file content) := by
  unfold write at h
  cases hplace : d.place cwd p with
  | error code => rw [hplace] at h; cases h
  | ok place =>
    rw [hplace] at h
    cases place with
    | unnamed => cases h
    | named folder name e =>
      cases e with
      | none =>
        cases h
        exact ⟨folder, name, none, rfl, by simp, rfl⟩
      | some e =>
        cases e with
        | file old =>
          cases h
          exact ⟨folder, name, some (.file old), rfl, by simp, rfl⟩
        | folder children => cases h

/-- A file after another one has been written was there before, unless it is that one. -/
theorem holdsFile_of_write {content : ByteArray} (h : d.write cwd p content = .ok d')
    (hfile : d'.HoldsFile loc) : d.HoldsFile loc ∨ loc = target cwd p := by
  obtain ⟨folder, name, e, hplace, -, rfl⟩ := place_of_write h
  obtain ⟨content', hat⟩ := hfile
  rcases Entry.at?_put hat with hold | ⟨rest, hloc, hnew⟩
  · exact Or.inl ⟨content', hold⟩
  · cases rest with
    | nil =>
      refine Or.inr ?_
      rw [hloc, List.append_nil, (target_of_place hplace).1]
    | cons name' rest => simp [Entry.at?_cons, Entry.children] at hnew

end Disk

end CrossBuild
