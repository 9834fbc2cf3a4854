-- The choice of the compilers of a FIPS build. A pair is chosen exactly if the
-- C compilers before it report something else and both of its compilers report
-- the required text, which may be a part of another version.
import CrossBuild.Compiler
import CrossBuild.Proofs.Actions
import CrossBuild.Proofs.Texts

namespace CrossBuild.Compilers

open Job

variable {host : Host} {s s' : Session} {required : String}

/-- The call that asks a tool for its version. -/
def probe (tool : String) : Call := ⟨tool, ["--version"], none⟩

/-! ## One probe -/

theorem within_version (acts : Action → Prop) (tool : String) (h : acts (.start (probe tool))) :
    Within acts (version tool) host s := by
  unfold version
  refine Within.bind (within_start h) fun r _ => ?_
  cases r with
  | error e => exact Within.bind (within_log _ _ _) fun _ _ => within_pure _
  | ok exit =>
    dsimp only
    split
    · exact Within.bind (within_fail _) fun _ _ => within_pure _
    · exact within_pure _

/-- A probe that gives a version comes from a tool that has been started and has ended well, and the
version is the first line that it has written. -/
theorem exit_of_version {tool line : String} (h : (version tool).result host s = .ok line)
    (hne : line ≠ "") :
    ∃ exit, host.tools (callsOf s.log) (probe tool) = .ended exit ∧ exit.code = 0 ∧
      Text.IsFirstLine exit.stdout line ∧
      ((version tool).left host s).log = s.log ++ [.started (probe tool)] := by
  unfold version at h ⊢
  obtain ⟨answer, hstart, h⟩ := result_bind_eq_ok.1 h
  change (start (probe tool)).result host s = _ at hstart
  change ∃ exit, _ ∧ _ ∧ _ ∧ ((start (probe tool) >>= _).left host s).log = _
  rw [left_bind_of_ok hstart]
  cases answer with
  | error e =>
    rw [result_bind] at h
    exact absurd (Except.ok.inj h).symm hne
  | ok exit =>
    dsimp only at h ⊢
    split at h
    · cases h
    · rename_i hcode
      rw [if_neg hcode]
      refine ⟨exit, tools_of_result_start hstart, Decidable.of_not_not hcode, ?_, ?_⟩
      · exact (Text.isFirstLine_iff _ _).2 (Except.ok.inj h)
      · exact congrArg Session.log (left_start (probe tool))

/-! ## The search through the candidates -/

/-- The search starts nothing but the compilers of candidates. -/
theorem within_select {acts : Action → Prop} {candidates : List Compilers}
    (h : ∀ c ∈ candidates, acts (.start (probe c.c)) ∧ acts (.start (probe c.cxx))) :
    Within acts (select required candidates) host s := by
  induction candidates generalizing s with
  | nil => exact within_fail _
  | cons c rest ih =>
    have hrest (s : Session) : Within acts (select required rest) host s :=
      ih fun c' hc' => h c' (List.mem_cons_of_mem _ hc')
    rw [select]
    refine Within.bind (within_version acts c.c (h c List.mem_cons_self).1) fun found _ => ?_
    split
    · refine Within.bind (within_version acts c.cxx (h c List.mem_cons_self).2) fun partner _ => ?_
      dsimp only
      split
      · exact Within.bind (within_fail _) nofun
      · exact Within.bind (within_log _ _ _) fun _ _ => within_pure _
    · split
      · exact within_fail _
      · dsimp only
        split
        · exact Within.bind (within_log _ _ _) fun _ _ => hrest _
        · exact hrest _

/-- The session in which the search goes on after a candidate that reports something else. -/
def passed (required found : String) (s : Session) : Session :=
  if found ≠ "" then
    { s with log := s.log ++ [.logged .warning .compiler
        ("FIPS requires clang version " ++ required ++ ", skipping incompatible version \"" ++
          found ++ "\"")] }
  else s

/-- The session after the choice of a candidate. -/
def chosen (c : Compilers) (found : String) (s : Session) : Session :=
  { s with log := s.log ++ [.logged .info .compiler
      ("FIPS toolchain: " ++ c.c ++ " / " ++ c.cxx ++ " (" ++ found ++ ")")] }

/-- The search goes past candidates: the C compiler of each reports something else. -/
inductive Passes (required : String) (host : Host) : List Compilers → Session → Session → Prop
  | nil (s : Session) : Passes required host [] s s
  | cons {c : Compilers} {rest : List Compilers} {s s' : Session} {found : String}
      (hfound : (version c.c).result host s = .ok found)
      (hother : Text.contains found required = false)
      (hrest : Passes required host rest (passed required found ((version c.c).left host s)) s') :
      Passes required host (c :: rest) s s'

/-- Both compilers of a candidate report the required text. -/
structure Accepted (required : String) (host : Host) (s : Session) (c : Compilers)
    (found partner : String) : Prop where
  c_reports : (version c.c).result host s = .ok found
  c_holds : Text.contains found required = true
  cxx_reports : (version c.cxx).result host ((version c.c).left host s) = .ok partner
  cxx_holds : Text.contains partner required = true

theorem select_of_accepted {c : Compilers} {found partner : String}
    (h : Accepted required host s c found partner) (rest : List Compilers) :
    (select required (c :: rest)).result host s = .ok c ∧
      (select required (c :: rest)).left host s =
        chosen c found ((version c.cxx).left host ((version c.c).left host s)) := by
  obtain ⟨hfound, hc, hpartner, hcxx⟩ := h
  rw [select, result_bind_of_ok hfound, left_bind_of_ok hfound, if_pos hc,
    result_bind_of_ok hpartner, left_bind_of_ok hpartner]
  simp only [hcxx, Bool.not_true, Bool.false_eq_true, if_false]
  exact ⟨rfl, rfl⟩

theorem select_of_passed {c : Compilers} {rest : List Compilers} {found : String}
    (hfound : (version c.c).result host s = .ok found)
    (hother : Text.contains found required = false) (hrest : rest ≠ []) :
    (select required (c :: rest)).result host s =
        (select required rest).result host (passed required found ((version c.c).left host s)) ∧
      (select required (c :: rest)).left host s =
        (select required rest).left host (passed required found ((version c.c).left host s)) := by
  have hempty : rest.isEmpty = false := by simpa using hrest
  rw [select, result_bind_of_ok hfound, left_bind_of_ok hfound]
  simp only [hother, hempty, Bool.false_eq_true, if_false]
  unfold passed
  split
  · exact ⟨rfl, rfl⟩
  · exact ⟨rfl, rfl⟩

/-- A search that chooses a pair has accepted its first candidate or has gone past it. -/
theorem accepted_or_passed {c first : Compilers} {rest : List Compilers}
    (h : (select required (first :: rest)).result host s = .ok c) :
    (first = c ∧ ∃ found partner, Accepted required host s c found partner) ∨
      ∃ found, (version first.c).result host s = .ok found ∧
        Text.contains found required = false ∧ rest ≠ [] := by
  rw [select] at h
  obtain ⟨found, hfound, h⟩ := result_bind_eq_ok.1 h
  cases hc : Text.contains found required with
  | true =>
    rw [if_pos hc] at h
    obtain ⟨partner, hpartner, h⟩ := result_bind_eq_ok.1 h
    cases hcxx : Text.contains partner required with
    | true =>
      simp only [hcxx, Bool.not_true, Bool.false_eq_true, if_false] at h
      cases h
      exact Or.inl ⟨rfl, found, partner, hfound, hc, hpartner, hcxx⟩
    | false =>
      simp only [hcxx, Bool.not_false, if_true] at h
      cases h
  | false =>
    refine Or.inr ⟨found, hfound, hc, ?_⟩
    rintro rfl
    simp only [hc, Bool.false_eq_true, if_false, List.isEmpty_nil, if_true] at h
    cases h

/-- A pair is chosen exactly if it is the first one that the search does not go past, and both
of its compilers report the required text. -/
theorem select_eq_ok_iff {candidates : List Compilers} {c : Compilers} :
    (select required candidates).result host s = .ok c ↔
      ∃ done rest s₁ found partner, candidates = done ++ c :: rest ∧
        Passes required host done s s₁ ∧ Accepted required host s₁ c found partner := by
  constructor
  · intro h
    induction candidates generalizing s with
    | nil => cases h
    | cons first rest ih =>
      rcases accepted_or_passed h with ⟨rfl, found, partner, hacc⟩ | ⟨found, hfound, hother, hne⟩
      · exact ⟨[], rest, s, found, partner, rfl, .nil s, hacc⟩
      · rw [(select_of_passed hfound hother hne).1] at h
        obtain ⟨done, rest', s₁, found', partner, rfl, hpasses, hacc⟩ := ih h
        exact ⟨first :: done, rest', s₁, found', partner, rfl, .cons hfound hother hpasses, hacc⟩
  · rintro ⟨done, rest, s₁, found, partner, rfl, hpasses, hacc⟩
    induction hpasses with
    | nil s => exact (select_of_accepted hacc rest).1
    | cons hfound hother _ ih =>
      rw [List.cons_append, (select_of_passed hfound hother (by simp)).1]
      exact ih hacc

/-- The session that a search leaves is that of the pair that it chooses. -/
theorem left_select {done rest : List Compilers} {c : Compilers} {found partner : String}
    {s₁ : Session} (hpasses : Passes required host done s s₁)
    (hacc : Accepted required host s₁ c found partner) :
    (select required (done ++ c :: rest)).left host s =
      chosen c found ((version c.cxx).left host ((version c.c).left host s₁)) := by
  induction hpasses with
  | nil s => exact (select_of_accepted hacc rest).2
  | cons hfound hother _ ih =>
    rw [List.cons_append, (select_of_passed hfound hother (by simp)).2]
    exact ih hacc

/-! ## What the chosen compilers report -/

theorem ne_empty_of_contains {s part : String} (h : Text.contains s part = true)
    (hpart : part ≠ "") : s ≠ "" := by
  rintro rfl
  rw [Text.contains_empty hpart] at h
  cases h

/-- Among the events after a session, a tool has been asked for its version, it has ended well,
and the first line that it has written holds the required text. -/
def Reported (host : Host) (s : Session) (events : List Event) (tool required : String) : Prop :=
  ∃ before after exit, events = before ++ .started (probe tool) :: after ∧
    host.tools (callsOf s.log ++ callsOf before) (probe tool) = .ended exit ∧ exit.code = 0 ∧
    ∃ line, Text.IsFirstLine exit.stdout line ∧ required.toList <:+: line.toList

theorem Reported.append {events : List Event} {tool : String}
    (h : Reported host s events tool required) (later : List Event) :
    Reported host s (events ++ later) tool required := by
  obtain ⟨before, after, exit, rfl, hrest⟩ := h
  exact ⟨before, after ++ later, exit, by simp, hrest⟩

/-- What is reported after some events is reported from their start on. -/
theorem Reported.prepend {earlier events : List Event} {tool : String}
    (hlog : s'.log = s.log ++ earlier) (h : Reported host s' events tool required) :
    Reported host s (earlier ++ events) tool required := by
  obtain ⟨before, after, exit, rfl, htools, hcode, hline⟩ := h
  refine ⟨earlier ++ before, after, exit, by simp, ?_, hcode, hline⟩
  rw [hlog, callsOf_append, List.append_assoc] at htools
  rwa [callsOf_append]

/-- The log only grows while the search goes past candidates. -/
theorem Passes.exists_log_eq {done : List Compilers} (h : Passes required host done s s') :
    ∃ events, s'.log = s.log ++ events := by
  induction h with
  | nil s => exact ⟨[], by simp⟩
  | @cons c rest s s' found hfound hother _ ih =>
    obtain ⟨events, hevents⟩ := ih
    have hversion : ((version c.c).left host s).log = s.log ++ (version c.c).events host s :=
      Within.log_left (within_version (fun _ => True) c.c trivial)
    unfold passed at hevents
    split at hevents
    · exact ⟨_, by rw [hevents, hversion, List.append_assoc, List.append_assoc]⟩
    · exact ⟨_, by rw [hevents, hversion, List.append_assoc]⟩

/-- A pair that is chosen is a candidate of which both compilers report the required text. -/
theorem reported_of_select {candidates : List Compilers} {c : Compilers} (hrequired : required ≠ "")
    (h : (select required candidates).result host s = .ok c) :
    c ∈ candidates ∧ Reported host s ((select required candidates).events host s) c.c required ∧
      Reported host s ((select required candidates).events host s) c.cxx required := by
  obtain ⟨done, rest, s₁, found, partner, rfl, hpasses, hacc⟩ := select_eq_ok_iff.1 h
  obtain ⟨passes, hlog⟩ := hpasses.exists_log_eq
  obtain ⟨e, htools, hcode, hline, hlog₁⟩ :=
    exit_of_version hacc.c_reports (ne_empty_of_contains hacc.c_holds hrequired)
  obtain ⟨e', htools', hcode', hline', hlog₂⟩ :=
    exit_of_version hacc.cxx_reports (ne_empty_of_contains hacc.cxx_holds hrequired)
  have hevents : ∃ message, (select required (done ++ c :: rest)).events host s =
      passes ++ [.started (probe c.c), .started (probe c.cxx), message] := by
    unfold events
    rw [left_select hpasses hacc]
    unfold chosen
    rw [hlog₂, hlog₁, hlog]
    simp only [List.append_assoc, List.drop_left]
    exact ⟨_, rfl⟩
  obtain ⟨message, hevents⟩ := hevents
  rw [hevents]
  have hc := (Text.contains_iff _ _).1 hacc.c_holds
  have hcxx := (Text.contains_iff _ _).1 hacc.cxx_holds
  refine ⟨by simp, ⟨passes, _, e, rfl, ?_, hcode, found, hline, hc⟩,
    ⟨passes ++ [.started (probe c.c)], [message], e', by simp, ?_, hcode', partner, hline', hcxx⟩⟩
  · rwa [← callsOf_append, ← hlog]
  · rwa [← callsOf_append, ← List.append_assoc, ← hlog, ← hlog₁]

/-- The last two calls of a log ask the compilers of a pair for their versions. Both have ended
well, and these are the first lines that they have written. -/
def LastReports (host : Host) (log : List Event) (c : Compilers) (found partner : String) : Prop :=
  ∃ earlier e e', callsOf log = earlier ++ [probe c.c, probe c.cxx] ∧
    host.tools earlier (probe c.c) = .ended e ∧
    host.tools (earlier ++ [probe c.c]) (probe c.cxx) = .ended e' ∧
    e.code = 0 ∧ e'.code = 0 ∧ Text.IsFirstLine e.stdout found ∧ Text.IsFirstLine e'.stdout partner

/-- A log has only one pair of last reports. -/
theorem LastReports.unique {log : List Event} {c : Compilers}
    {found found' partner partner' : String} (h : LastReports host log c found partner)
    (h' : LastReports host log c found' partner') :
    found = found' ∧ partner = partner' := by
  obtain ⟨earlier, e₁, e₂, hcalls, h₁, h₂, -, -, hfound, hpartner⟩ := h
  obtain ⟨earlier', e₁', e₂', hcalls', h₁', h₂', -, -, hfound', hpartner'⟩ := h'
  rw [hcalls] at hcalls'
  obtain rfl := List.append_cancel_right hcalls'
  rw [h₁, Reply.ended.injEq] at h₁'
  rw [h₂, Reply.ended.injEq] at h₂'
  rw [← h₁', Text.isFirstLine_iff] at hfound'
  rw [← h₂', Text.isFirstLine_iff] at hpartner'
  rw [Text.isFirstLine_iff] at hfound hpartner
  exact ⟨hfound.symm.trans hfound', hpartner.symm.trans hpartner'⟩

theorem Accepted.lastReports {c : Compilers} {found partner : String} (hrequired : required ≠ "")
    (h : Accepted required host s c found partner) :
    LastReports host (chosen c found ((version c.cxx).left host ((version c.c).left host s))).log
      c found partner := by
  obtain ⟨e, htools, hcode, hline, hlog⟩ :=
    exit_of_version h.c_reports (ne_empty_of_contains h.c_holds hrequired)
  obtain ⟨e', htools', hcode', hline', hlog'⟩ :=
    exit_of_version h.cxx_reports (ne_empty_of_contains h.cxx_holds hrequired)
  have hcalls : callsOf ((version c.c).left host s).log = callsOf s.log ++ [probe c.c] := by
    rw [hlog, callsOf_append]
    rfl
  rw [hcalls] at htools'
  refine ⟨callsOf s.log, e, e', ?_, htools, htools', hcode, hcode', hline, hline'⟩
  have hchosen (s' : Session) : callsOf (chosen c found s').log = callsOf s'.log := by
    unfold chosen
    rw [callsOf_append]
    exact List.append_nil _
  rw [hchosen, hlog', callsOf_append, hcalls, List.append_assoc]
  rfl

theorem requiredVersion_ne_empty : requiredVersion ≠ "" := by decide

/-- The chosen compilers report the required version as a text. They report it as a number of
its own exactly if the first candidate that both report the text from does so. -/
theorem chosen_versions_stand_alone_iff (host : Host) (s : Session) (candidates : List Compilers) :
    (∀ c, (select requiredVersion candidates).result host s = .ok c →
      ∃ found partner,
        LastReports host ((select requiredVersion candidates).left host s).log c found partner ∧
        Text.contains found requiredVersion = true ∧
        Text.contains partner requiredVersion = true) ∧
    ((∀ c, (select requiredVersion candidates).result host s = .ok c →
      ∃ found partner,
        LastReports host ((select requiredVersion candidates).left host s).log c found partner ∧
        Text.HoldsNumber found requiredVersion ∧ Text.HoldsNumber partner requiredVersion) ↔
      ∀ done c rest s₁ found partner, candidates = done ++ c :: rest →
        Passes requiredVersion host done s s₁ →
        Accepted requiredVersion host s₁ c found partner →
        Text.HoldsNumber found requiredVersion ∧ Text.HoldsNumber partner requiredVersion) := by
  have hreports {done rest : List Compilers} {c : Compilers} {s₁ : Session} {found partner : String}
      (hpasses : Passes requiredVersion host done s s₁)
      (hacc : Accepted requiredVersion host s₁ c found partner) :
      LastReports host ((select requiredVersion (done ++ c :: rest)).left host s).log c found
        partner := by
    rw [left_select hpasses hacc]
    exact hacc.lastReports requiredVersion_ne_empty
  refine ⟨?_, ?_, ?_⟩
  · intro c hc
    obtain ⟨done, rest, s₁, found, partner, rfl, hpasses, hacc⟩ := select_eq_ok_iff.1 hc
    exact ⟨found, partner, hreports hpasses hacc, hacc.c_holds, hacc.cxx_holds⟩
  · rintro h done c rest s₁ found partner rfl hpasses hacc
    have hc := select_eq_ok_iff.2 ⟨done, rest, s₁, found, partner, rfl, hpasses, hacc⟩
    obtain ⟨found', partner', hlast, hholds⟩ := h c hc
    obtain ⟨rfl, rfl⟩ := (hreports hpasses hacc).unique hlast
    exact hholds
  · intro h c hc
    obtain ⟨done, rest, s₁, found, partner, rfl, hpasses, hacc⟩ := select_eq_ok_iff.1 hc
    exact ⟨found, partner, hreports hpasses hacc, h done c rest s₁ found partner rfl hpasses hacc⟩

/-- A machine on which `clang` has the version 17.0.1 and no other compiler is there. -/
def laterClang : Host where
  cwd := .ofString "/"
  tools := .scripted [
    ("clang", [{ reply := .ended { stdout := "clang version 17.0.1\n" } }]),
    ("clang++", [{ reply := .ended { stdout := "clang version 17.0.1\n" } }])]

/-- The number 17.0.1 has 7.0.1 in it, and a compiler of that version is chosen. -/
theorem a_later_version_is_chosen :
    ¬∀ c, (select requiredVersion candidates).result laterClang { disk := .empty } = .ok c →
      ∃ found partner,
        LastReports laterClang
          ((select requiredVersion candidates).left laterClang { disk := .empty }).log c found
          partner ∧
        Text.HoldsNumber found requiredVersion ∧ Text.HoldsNumber partner requiredVersion := by
  intro h
  obtain ⟨found, partner, hlast, hholds, -⟩ := h ⟨"clang", "clang++"⟩ rfl
  have hreports : LastReports laterClang
      ((select requiredVersion candidates).left laterClang { disk := .empty }).log
      ⟨"clang", "clang++"⟩ "clang version 17.0.1" "clang version 17.0.1" :=
    ⟨[probe "clang-7"], { stdout := "clang version 17.0.1\n" },
      { stdout := "clang version 17.0.1\n" }, by decide +kernel, rfl, rfl, rfl, rfl,
      (Text.isFirstLine_iff _ _).2 (by decide +kernel),
      (Text.isFirstLine_iff _ _).2 (by decide +kernel)⟩
  obtain ⟨rfl, -⟩ := hlast.unique hreports
  exact absurd hholds (by decide +kernel)

end CrossBuild.Compilers
