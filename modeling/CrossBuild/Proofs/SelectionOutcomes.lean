-- What comes of the search for the compilers of a FIPS build, told by what the
-- compilers say. The search stops at the first candidate that settles it, and no
-- compiler of a later candidate is asked.
import CrossBuild.Proofs.CompilerSelection

namespace CrossBuild.Compilers

open Job

variable {host : Host} {s s' : Session} {required tool : String}

/-! ## What compilers say -/

/-- What a compiler says when it is asked for its version. -/
inductive Told where
  /-- A version; it is empty if the compiler can not be started. -/
  | version (line : String)
  /-- It has ended badly. -/
  | broken (code : Int) (stderr : String)
  /-- It can not even be asked: there is a NUL character in its name. -/
  | barred
  /-- What it prints is not text. -/
  | garbled

/-- What a tool that is called in a session says about its version. -/
inductive Says (host : Host) (s : Session) (tool : String) : Told → Prop
  | version {exit : Exit} {line : String}
      (hstart : (start (probe tool)).result host s = .ok (.ok exit)) (hcode : exit.code = 0)
      (hline : Text.IsFirstLine exit.stdout line) : Says host s tool (.version line)
  | missing {e : SystemError} (hstart : (start (probe tool)).result host s = .ok (.error e)) :
      Says host s tool (.version "")
  | broken {exit : Exit} (hstart : (start (probe tool)).result host s = .ok (.ok exit))
      (hcode : exit.code ≠ 0) : Says host s tool (.broken exit.code exit.stderr)
  | barred (hnul : (probe tool).hasNul = true) : Says host s tool .barred
  | garbled (hstart : (start (probe tool)).result host s = .error (.outputNotText (probe tool))) :
      Says host s tool .garbled

/-- A tool that is called in a session reports the required text. -/
def Reports (host : Host) (s : Session) (required tool : String) : Prop :=
  ∃ line, Says host s tool (.version line) ∧ required.toList <:+: line.toList

/-- A tool that is called in a session has a version without the required text. -/
def Lacks (host : Host) (s : Session) (required tool line : String) : Prop :=
  Says host s tool (.version line) ∧ ¬required.toList <:+: line.toList

/-- The session after tools have been asked for their versions. -/
def afterProbes (host : Host) (s : Session) (tools : List String) : Session :=
  tools.foldl (fun s tool => (start (probe tool)).left host s) s

namespace Told

def ofStart : Except Failure (Except SystemError Exit) → Told
  | .ok (.ok exit) =>
    if exit.code = 0 then version (Text.firstLine exit.stdout) else broken exit.code exit.stderr
  | .ok (.error _) => version ""
  | .error (.nulInCall _) => barred
  | .error _ => garbled

/-- What the search gets to hear from a tool that says this: its version, or a failure to end
with. -/
def heard (tool : String) : Told → Except Failure String
  | version line => .ok line
  | broken code stderr => .error (.problem (.probeFailed tool code stderr))
  | barred => .error (.nulInCall (probe tool))
  | garbled => .error (.outputNotText (probe tool))

/-- Whether the required text has been told. -/
def reports (required : String) : Told → Bool
  | version line => Text.contains line required
  | _ => false

/-- Whether the search does not go past a C compiler that says this. -/
def stops (required : String) : Told → Bool
  | version line => Text.contains line required
  | _ => true

end Told

/-- What a tool says about its version after others have been asked. -/
def told (host : Host) (s : Session) (earlier : List String) (tool : String) : Told :=
  .ofStart ((start (probe tool)).result host (afterProbes host s earlier))

/-- A tool says one thing in a session. -/
theorem says_iff {earlier : List String} {t : Told} :
    Says host (afterProbes host s earlier) tool t ↔ told host s earlier tool = t := by
  unfold told
  constructor
  · intro h
    cases h with
    | version hstart hcode hline =>
      rw [Text.isFirstLine_iff] at hline
      simp [hstart, Told.ofStart, hcode, hline]
    | missing hstart => simp [hstart, Told.ofStart]
    | broken hstart hcode => simp [hstart, Told.ofStart, hcode]
    | barred hnul => simp [result_start_eq_error.2 (.inl ⟨hnul, rfl⟩), Told.ofStart]
    | garbled hstart => simp [hstart, Told.ofStart]
  · rintro rfl
    cases hstart : (start (probe tool)).result host (afterProbes host s earlier) with
    | error f =>
      rcases result_start_eq_error.1 hstart with ⟨hnul, rfl⟩ | ⟨-, rfl, -⟩
      · exact .barred hnul
      · exact .garbled hstart
    | ok answer =>
      cases answer with
      | error e => exact .missing hstart
      | ok exit =>
        by_cases hcode : exit.code = 0
        · simpa [Told.ofStart, hcode] using
            Says.version hstart hcode (Text.isFirstLine_firstLine exit.stdout)
        · simpa [Told.ofStart, hcode] using Says.broken hstart hcode

theorem reports_iff {earlier : List String} :
    Reports host (afterProbes host s earlier) required tool ↔
      (told host s earlier tool).reports required = true := by
  unfold Reports
  simp only [says_iff]
  cases told host s earlier tool <;> simp [Told.reports, Text.contains_iff]

theorem lacks_iff {earlier : List String} {line : String} :
    Lacks host (afterProbes host s earlier) required tool line ↔
      told host s earlier tool = .version line ∧ Text.contains line required = false := by
  unfold Lacks
  rw [says_iff, Bool.eq_false_iff, Ne, Text.contains_iff]

/-! ## Sessions that tools can not tell apart -/

/-- Two sessions with the same disk in which the same tools have been started. -/
def Alike (s s' : Session) : Prop := s.disk = s'.disk ∧ callsOf s.log = callsOf s'.log

theorem Alike.trans {s'' : Session} (h : Alike s s') (h' : Alike s' s'') : Alike s s'' :=
  ⟨h.1.trans h'.1, h.2.trans h'.2⟩

theorem Alike.result_start_eq (h : Alike s s') (call : Call) :
    (start call).result host s = (start call).result host s' := by
  rw [result_start, result_start, h.1, h.2]

theorem Alike.start (h : Alike s s') (call : Call) :
    Alike ((start call).left host s) ((start call).left host s') := by
  rw [left_start, left_start, h.1, h.2]
  exact ⟨rfl, by simp only [callsOf_append, h.2]⟩

theorem Alike.afterProbes (h : Alike s s') (tools : List String) :
    Alike (afterProbes host s tools) (afterProbes host s' tools) := by
  induction tools generalizing s s' with
  | nil => exact h
  | cons tool rest ih => exact ih (h.start (probe tool))

theorem Alike.told_eq (h : Alike s s') (earlier : List String) (tool : String) :
    told host s earlier tool = told host s' earlier tool :=
  congrArg Told.ofStart ((h.afterProbes earlier).result_start_eq (probe tool))

theorem alike_passed (found : String) (s : Session) : Alike (passed required found s) s := by
  unfold passed
  split
  · exact ⟨rfl, by simp [callsOf]⟩
  · exact ⟨rfl, rfl⟩

theorem callsOf_afterProbes (tools : List String) :
    callsOf (afterProbes host s tools).log = callsOf s.log ++ tools.map probe := by
  induction tools generalizing s with
  | nil => exact (List.append_nil _).symm
  | cons tool rest ih =>
    change callsOf (afterProbes host ((start (probe tool)).left host s) rest).log = _
    rw [ih, callsOf_left_start, List.append_assoc]
    rfl

/-! ## One probe -/

theorem result_version (host : Host) (s : Session) (tool : String) :
    (version tool).result host s = (told host s [] tool).heard tool := by
  change (start (probe tool) >>= _).result host s =
    (Told.ofStart ((start (probe tool)).result host s)).heard tool
  cases hstart : (start (probe tool)).result host s with
  | error f =>
    rw [result_bind_of_error hstart]
    rcases result_start_eq_error.1 hstart with ⟨-, rfl⟩ | ⟨-, rfl, -⟩
    · rfl
    · rfl
  | ok answer =>
    rw [result_bind_of_ok hstart]
    cases answer with
    | error e => rfl
    | ok exit =>
      dsimp only [Told.ofStart]
      split
      · rfl
      · rename_i hcode
        rw [if_pos (Decidable.of_not_not hcode)]
        rfl

/-- Only a version is heard as one. -/
theorem Told.heard_eq_ok {t : Told} {line : String} :
    t.heard tool = .ok line ↔ t = .version line := by
  cases t <;> simp [heard]

theorem told_of_version {line : String} (h : (version tool).result host s = .ok line) :
    told host s [] tool = .version line := by
  rw [result_version] at h
  exact Told.heard_eq_ok.1 h

/-- A message about a tool that can not be started makes no difference to later tools. -/
theorem alike_version (tool : String) :
    Alike ((version tool).left host s) (afterProbes host s [tool]) := by
  change Alike ((start (probe tool) >>= _).left host s) ((start (probe tool)).left host s)
  cases hstart : (start (probe tool)).result host s with
  | error f =>
    rw [left_bind_of_error hstart]
    exact ⟨rfl, rfl⟩
  | ok answer =>
    rw [left_bind_of_ok hstart]
    cases answer with
    | error e =>
      refine ⟨rfl, ?_⟩
      change callsOf (((start (probe tool)).left host s).log ++ [_]) = _
      rw [callsOf_append]
      exact List.append_nil _
    | ok exit =>
      dsimp only
      split
      · exact ⟨rfl, rfl⟩
      · exact ⟨rfl, rfl⟩

theorem callsOf_version (tool : String) :
    callsOf ((version tool).left host s).log = callsOf s.log ++ [probe tool] := by
  rw [(alike_version tool).2]
  exact callsOf_afterProbes [tool]

/-! ## The candidate at which the search stops -/

/-- The C compilers of pairs. -/
def names (pairs : List Compilers) : List String := pairs.map (·.c)

/-- What comes of a candidate at which the search stops. -/
def settled (required : String) (c : Compilers) (first partner : Told) :
    Except Failure Compilers :=
  match first.heard c.c with
  | .error f => .error f
  | .ok line =>
    if Text.contains line required then
      match partner.heard c.cxx with
      | .error f => .error f
      | .ok line' =>
        if Text.contains line' required then .ok c
        else .error (.problem (.compilerMismatch c.c c.cxx required line'))
    else .error (.problem (.unsupportedCompiler required line))

section

variable {c : Compilers} {first partner : Told}

theorem settled_eq_ok {pair : Compilers} :
    settled required c first partner = .ok pair ↔
      pair = c ∧ first.reports required = true ∧ partner.reports required = true := by
  cases first <;> cases partner <;> grind [settled, Told.heard, Told.reports]

theorem settled_eq_mismatch {found : String} :
    settled required c first partner =
        .error (.problem (.compilerMismatch c.c c.cxx required found)) ↔
      first.reports required = true ∧ partner = .version found ∧
        Text.contains found required = false := by
  cases first <;> cases partner <;> grind [settled, Told.heard, Told.reports]

theorem settled_eq_probeFailed {code : Int} {stderr : String} :
    settled required c first partner = .error (.problem (.probeFailed tool code stderr)) ↔
      (tool = c.c ∧ first = .broken code stderr) ∨
        (tool = c.cxx ∧ first.reports required = true ∧ partner = .broken code stderr) := by
  cases first <;> cases partner <;> grind [settled, Told.heard, Told.reports]

theorem settled_eq_barred :
    settled required c first partner = .error (.nulInCall (probe tool)) ↔
      (tool = c.c ∧ first = .barred) ∨
        (tool = c.cxx ∧ first.reports required = true ∧ partner = .barred) := by
  cases first <;> cases partner <;> grind [settled, Told.heard, Told.reports, probe]

theorem settled_eq_garbled :
    settled required c first partner = .error (.outputNotText (probe tool)) ↔
      (tool = c.c ∧ first = .garbled) ∨
        (tool = c.cxx ∧ first.reports required = true ∧ partner = .garbled) := by
  cases first <;> cases partner <;> grind [settled, Told.heard, Told.reports, probe]

theorem settled_eq_unsupported {found : String} :
    settled required c first partner = .error (.problem (.unsupportedCompiler required found)) ↔
      first = .version found ∧ Text.contains found required = false := by
  cases first <;> cases partner <;> grind [settled, Told.heard, Told.reports]

end

theorem told_version (c : Compilers) :
    told host ((version c.c).left host s) [] c.cxx = told host s [c.c] c.cxx :=
  congrArg Told.ofStart ((alike_version c.c).result_start_eq (probe c.cxx))

/-- If the first compiler of a candidate reports the required text, the second one settles the
search. -/
theorem select_of_reports {c : Compilers} {line : String} (rest : List Compilers)
    (hfirst : told host s [] c.c = .version line) (hline : Text.contains line required = true) :
    (select required (c :: rest)).result host s =
        settled required c (.version line) (told host s [c.c] c.cxx) ∧
      callsOf ((select required (c :: rest)).left host s).log =
        callsOf s.log ++ [probe c.c, probe c.cxx] := by
  have hversion := result_version host s c.c
  have hpartner := result_version host ((version c.c).left host s) c.cxx
  have hcalls : callsOf ((version c.cxx).left host ((version c.c).left host s)).log =
      callsOf s.log ++ [probe c.c, probe c.cxx] := by
    rw [callsOf_version, callsOf_version, List.append_assoc]
    rfl
  rw [hfirst] at hversion
  rw [told_version] at hpartner
  have hheard : (Told.version line).heard c.c = .ok line := rfl
  rw [select, result_bind_of_ok hversion, left_bind_of_ok hversion]
  simp only [settled, hheard, hline, if_true]
  cases hsecond : (told host s [c.c] c.cxx).heard c.cxx with
  | error f =>
    rw [hsecond] at hpartner
    rw [result_bind_of_error hpartner, left_bind_of_error hpartner, hcalls]
    exact ⟨rfl, rfl⟩
  | ok line' =>
    rw [hsecond] at hpartner
    rw [result_bind_of_ok hpartner, left_bind_of_ok hpartner]
    by_cases hline' : Text.contains line' required = true
    · simp only [hline', Bool.not_true, Bool.false_eq_true, if_false, if_true]
      refine ⟨rfl, ?_⟩
      change callsOf (((version c.cxx).left host ((version c.c).left host s)).log ++ [_]) = _
      rw [callsOf_append, hcalls]
      exact List.append_nil _
    · simp only [hline', Bool.not_false, if_true]
      exact ⟨rfl, hcalls⟩

/-- A tool that gives no version does not report one. -/
theorem Told.reports_of_heard_error {t : Told} {f : Failure} (h : t.heard tool = .error f) :
    t.reports required = false := by
  cases t <;> simp_all [heard, reports]

/-- The search asks the second compiler of its last candidate only if the first one reports the
required text. -/
theorem select_of_stops {c : Compilers} {rest : List Compilers}
    (h : rest = [] ∨ (told host s [] c.c).stops required = true) :
    (select required (c :: rest)).result host s =
        settled required c (told host s [] c.c) (told host s [c.c] c.cxx) ∧
      callsOf ((select required (c :: rest)).left host s).log =
        callsOf s.log ++ ([c.c] ++
          if (told host s [] c.c).reports required then [c.cxx] else []).map probe := by
  have hversion := result_version host s c.c
  cases hfirst : (told host s [] c.c).heard c.c with
  | error f =>
    rw [hfirst] at hversion
    rw [select, result_bind_of_error hversion, left_bind_of_error hversion, callsOf_version,
      Told.reports_of_heard_error hfirst]
    unfold settled
    rw [hfirst]
    exact ⟨rfl, rfl⟩
  | ok line =>
    rw [Told.heard_eq_ok.1 hfirst] at h ⊢
    by_cases hline : Text.contains line required = true
    · obtain ⟨hresult, hcalls⟩ := select_of_reports rest (Told.heard_eq_ok.1 hfirst) hline
      simp only [Told.reports, hline, if_true]
      exact ⟨hresult, hcalls⟩
    · obtain rfl : rest = [] := h.resolve_right hline
      rw [hfirst] at hversion
      rw [select, result_bind_of_ok hversion, left_bind_of_ok hversion]
      simp only [hline, settled, Told.heard, Told.reports, Bool.false_eq_true, if_false,
        List.isEmpty_nil, if_true]
      exact ⟨rfl, callsOf_version c.c⟩

/-! ## The way to that candidate -/

/-- The search goes past candidates whose C compilers say something else. -/
theorem Passes.alike {done : List Compilers} (h : Passes required host done s s') :
    Alike s' (afterProbes host s (names done)) := by
  induction h with
  | nil s => exact ⟨rfl, rfl⟩
  | @cons c rest s s' found _ _ _ ih =>
    have hfirst : Alike (passed required found ((version c.c).left host s))
        (afterProbes host s [c.c]) := (alike_passed found _).trans (alike_version c.c)
    exact ih.trans (hfirst.afterProbes (names rest))

theorem Passes.told_eq {done : List Compilers} (h : Passes required host done s s')
    (later : List String) (tool : String) :
    told host s' later tool = told host s (names done ++ later) tool := by
  rw [h.alike.told_eq, told, told]
  unfold afterProbes
  rw [List.foldl_append]

/-- None of the candidates that the search goes past stops it. -/
theorem Passes.exists_told {done before after : List Compilers} {c : Compilers}
    (h : Passes required host done s s') (hdone : done = before ++ c :: after) :
    ∃ line, told host s (names before) c.c = .version line ∧
      Text.contains line required = false := by
  induction h generalizing before with
  | nil s => simp at hdone
  | @cons first rest s s' found hfound hother hrest ih =>
    cases before with
    | nil =>
      obtain ⟨rfl, rfl⟩ := List.cons.inj hdone
      exact ⟨found, told_of_version hfound, hother⟩
    | cons first' before =>
      obtain ⟨rfl, rfl⟩ := List.cons.inj hdone
      have hpast : Passes required host [first] s
          (passed required found ((version first.c).left host s)) := .cons hfound hother (.nil _)
      obtain ⟨line, htold, hline⟩ := ih rfl
      rw [hpast.told_eq] at htold
      exact ⟨line, htold, hline⟩

/-- A search through candidates comes to one that it does not go past. -/
theorem exists_passes {candidates : List Compilers} (hne : candidates ≠ []) (host : Host)
    (s : Session) (required : String) :
    ∃ done c rest s₁, candidates = done ++ c :: rest ∧ Passes required host done s s₁ ∧
      (rest = [] ∨ (told host s₁ [] c.c).stops required = true) := by
  induction candidates generalizing s with
  | nil => exact absurd rfl hne
  | cons c rest ih =>
    by_cases hstops : rest = [] ∨ (told host s [] c.c).stops required = true
    · exact ⟨[], c, rest, s, rfl, .nil s, hstops⟩
    · rw [not_or] at hstops
      have hversion := result_version host s c.c
      cases htold : told host s [] c.c with
      | version line =>
        rw [htold] at hstops hversion
        obtain ⟨done, c', rest', s₁, hrest, hpasses, hstop⟩ :=
          ih hstops.1 (passed required line ((version c.c).left host s))
        exact ⟨c :: done, c', rest', s₁, by rw [hrest]; rfl,
          .cons hversion (Bool.eq_false_iff.2 hstops.2) hpasses, hstop⟩
      | broken | barred | garbled =>
        rw [htold] at hstops
        exact absurd rfl hstops.2

/-- The search goes on from the session in which it has gone past candidates. -/
theorem Passes.select_eq {done : List Compilers} (h : Passes required host done s s')
    {rest : List Compilers} (hrest : rest ≠ []) :
    (select required (done ++ rest)).result host s = (select required rest).result host s' ∧
      (select required (done ++ rest)).left host s = (select required rest).left host s' := by
  induction h with
  | nil s => exact ⟨rfl, rfl⟩
  | @cons c tail s s' found hfound hother _ ih =>
    have hstep := select_of_passed hfound hother (List.append_ne_nil_of_right_ne_nil tail hrest)
    exact ⟨hstep.1.trans ih.1, hstep.2.trans ih.2⟩

/-! ## Outcomes -/

/-- A search through candidates stops at one of them: it is the last one or the first one whose C
compiler reports the required text or gives no version. -/
structure StopsAt (host : Host) (s : Session) (required : String) (done : List Compilers)
    (c : Compilers) (rest : List Compilers) : Prop where
  earlier : ∀ before other after, done = before ++ other :: after →
    ∃ line, Lacks host (afterProbes host s (names before)) required other.c line
  stops : rest = [] ∨ ∀ line, ¬Lacks host (afterProbes host s (names done)) required c.c line

/-- What comes of a search that stops at a candidate, told by what its compilers say. The second
compiler of the candidate is asked only if the first one reports the required text. -/
structure EndsWith (host : Host) (s : Session) (required : String) (done : List Compilers)
    (c : Compilers) (rest : List Compilers) : Prop where
  asks_both : Reports host (afterProbes host s (names done)) required c.c →
    callsOf ((select required (done ++ c :: rest)).events host s) =
      (names (done ++ [c]) ++ [c.cxx]).map probe
  asks_one : ¬Reports host (afterProbes host s (names done)) required c.c →
    callsOf ((select required (done ++ c :: rest)).events host s) = (names (done ++ [c])).map probe
  chosen : ∀ pair, (select required (done ++ c :: rest)).result host s = .ok pair ↔
    pair = c ∧ Reports host (afterProbes host s (names done)) required c.c ∧
      Reports host (afterProbes host s (names (done ++ [c]))) required c.cxx
  mismatch : ∀ found, (select required (done ++ c :: rest)).result host s =
      .error (.problem (.compilerMismatch c.c c.cxx required found)) ↔
    Reports host (afterProbes host s (names done)) required c.c ∧
      Lacks host (afterProbes host s (names (done ++ [c]))) required c.cxx found
  unsupported : ∀ found, (select required (done ++ c :: rest)).result host s =
      .error (.problem (.unsupportedCompiler required found)) ↔
    rest = [] ∧ Lacks host (afterProbes host s (names done)) required c.c found
  broken : ∀ tool code stderr, (select required (done ++ c :: rest)).result host s =
      .error (.problem (.probeFailed tool code stderr)) ↔
    ∃ earlier, callsOf ((select required (done ++ c :: rest)).events host s) =
        (earlier ++ [tool]).map probe ∧
      Says host (afterProbes host s earlier) tool (.broken code stderr)
  barred : ∀ tool, (select required (done ++ c :: rest)).result host s =
      .error (.nulInCall (probe tool)) ↔
    ∃ earlier, callsOf ((select required (done ++ c :: rest)).events host s) =
        (earlier ++ [tool]).map probe ∧
      Says host (afterProbes host s earlier) tool .barred
  garbled : ∀ tool, (select required (done ++ c :: rest)).result host s =
      .error (.outputNotText (probe tool)) ↔
    ∃ earlier, callsOf ((select required (done ++ c :: rest)).events host s) =
        (earlier ++ [tool]).map probe ∧
      Says host (afterProbes host s earlier) tool .garbled

/-- The tools that a search asks if it stops at a candidate. -/
def asked (host : Host) (s : Session) (required : String) (done : List Compilers) (c : Compilers) :
    List String :=
  names (done ++ [c]) ++
    if (told host s (names done) c.c).reports required then [c.cxx] else []

theorem names_append_singleton (done : List Compilers) (c : Compilers) :
    names (done ++ [c]) = names done ++ [c.c] := by
  simp [names]

theorem probe_inj {tool tool' : String} (h : probe tool = probe tool') : tool = tool' :=
  congrArg Call.program h

theorem exists_last_eq {tools : List String} {last : String} {t : Told} :
    (∃ earlier, tools ++ [last] = earlier ++ [tool] ∧ told host s earlier tool = t) ↔
      tool = last ∧ told host s tools last = t := by
  constructor
  · rintro ⟨earlier, h, ht⟩
    obtain ⟨rfl, rfl⟩ := List.append_singleton_inj.1 h
    exact ⟨rfl, ht⟩
  · rintro ⟨rfl, ht⟩
    exact ⟨tools, rfl, ht⟩

/-- Only the last tool that a search asks can say that there is no version. -/
theorem exists_asked_eq {done : List Compilers} {c : Compilers} {t : Told}
    (ht : t.reports required = false) :
    (∃ earlier, (asked host s required done c).map probe = (earlier ++ [tool]).map probe ∧
        Says host (afterProbes host s earlier) tool t) ↔
      (tool = c.c ∧ told host s (names done) c.c = t) ∨
        (tool = c.cxx ∧ (told host s (names done) c.c).reports required = true ∧
          told host s (names (done ++ [c])) c.cxx = t) := by
  simp only [List.map_inj_right fun _ _ => probe_inj, says_iff]
  unfold asked
  cases hreports : (told host s (names done) c.c).reports required with
  | true =>
    have hnot : told host s (names done) c.c ≠ t := by
      rintro rfl
      rw [hreports] at ht
      cases ht
    rw [if_pos rfl, exists_last_eq]
    simp [hnot]
  | false =>
    rw [if_neg Bool.false_ne_true, List.append_nil, names_append_singleton,
      exists_last_eq]
    simp

/-- A search that has gone past candidates ends with what comes of the next one, if it stops
there. -/
theorem Passes.settled {done rest : List Compilers} {c : Compilers} {s₁ : Session}
    (h : Passes required host done s s₁)
    (hstops : rest = [] ∨ (told host s (names done) c.c).stops required = true) :
    (select required (done ++ c :: rest)).result host s =
        settled required c (told host s (names done) c.c)
          (told host s (names (done ++ [c])) c.cxx) ∧
      callsOf ((select required (done ++ c :: rest)).events host s) =
        (asked host s required done c).map probe := by
  have hfirst : told host s₁ [] c.c = told host s (names done) c.c := by
    rw [h.told_eq, List.append_nil]
  have hsecond : told host s₁ [c.c] c.cxx = told host s (names (done ++ [c])) c.cxx := by
    rw [h.told_eq, names_append_singleton]
  obtain ⟨hresult, hleft⟩ := h.select_eq (List.cons_ne_nil c rest)
  have hend := select_of_stops (hfirst ▸ hstops)
  rw [hfirst, hsecond] at hend
  refine ⟨hresult.trans hend.1, ?_⟩
  have hlog : callsOf s₁.log = callsOf s.log ++ (names done).map probe := by
    rw [h.alike.2]
    exact callsOf_afterProbes _
  have hwithin : Within (fun _ => True) (select required (done ++ c :: rest)) host s :=
    within_select fun _ _ => ⟨trivial, trivial⟩
  have hcalls := hend.2
  rw [← hleft, hwithin.log_left, callsOf_append, hlog, List.append_assoc,
    List.append_cancel_left_eq, ← List.map_append, ← List.append_assoc,
    ← names_append_singleton] at hcalls
  exact hcalls

/-- A search does not go past a C compiler exactly if this one has no version that lacks the
required text. -/
theorem stops_iff {earlier : List String} :
    (told host s earlier tool).stops required = true ↔
      ∀ line, ¬Lacks host (afterProbes host s earlier) required tool line := by
  simp only [lacks_iff]
  cases told host s earlier tool <;> simp [Told.stops]

/-- A search through candidates stops at one of them, and its outcome is told by what the compilers
of this one say. -/
theorem a_search_stops_at_the_first_candidate_that_settles_it (host : Host) (s : Session)
    (required : String) (candidates : List Compilers) (hne : candidates ≠ []) :
    ∃ done c rest, candidates = done ++ c :: rest ∧ StopsAt host s required done c rest ∧
      EndsWith host s required done c rest := by
  obtain ⟨done, c, rest, s₁, rfl, hpasses, hstop⟩ := exists_passes hne host s required
  rw [hpasses.told_eq, List.append_nil] at hstop
  obtain ⟨hresult, hcalls⟩ := hpasses.settled hstop
  refine ⟨done, c, rest, rfl, ⟨?_, hstop.imp_right stops_iff.1⟩, ?_, ?_, ?_, ?_, ?_, ?_, ?_, ?_⟩
  · intro before other after hdone
    obtain ⟨line, hline⟩ := hpasses.exists_told hdone
    exact ⟨line, lacks_iff.2 hline⟩
  · intro hreports
    rw [hcalls, asked, if_pos (reports_iff.1 hreports)]
  · intro hreports
    rw [hcalls, asked, if_neg (mt reports_iff.2 hreports), List.append_nil]
  · exact fun pair => by rw [hresult, settled_eq_ok, reports_iff, reports_iff]
  · exact fun found => by rw [hresult, settled_eq_mismatch, reports_iff, lacks_iff]
  · intro found
    rw [hresult, settled_eq_unsupported, lacks_iff]
    refine ⟨fun h => ⟨hstop.resolve_right ?_, h⟩, And.right⟩
    rw [h.1]
    exact Bool.not_eq_true _ ▸ h.2
  · intro tool code stderr
    rw [hresult, hcalls, settled_eq_probeFailed, exists_asked_eq rfl]
  · exact fun tool => by rw [hresult, hcalls, settled_eq_barred, exists_asked_eq rfl]
  · exact fun tool => by rw [hresult, hcalls, settled_eq_garbled, exists_asked_eq rfl]

/-- On a machine with the version 17.0.1 the search stops at the second candidate, which it
chooses. -/
theorem the_second_candidate_is_the_last_one_asked :
    ∃ done rest, candidates = done ++ ⟨"clang", "clang++"⟩ :: rest ∧
      StopsAt laterClang { disk := .empty } requiredVersion done ⟨"clang", "clang++"⟩ rest ∧
      EndsWith laterClang { disk := .empty } requiredVersion done ⟨"clang", "clang++"⟩ rest := by
  obtain ⟨done, c, rest, hcandidates, hstops, hends⟩ :=
    a_search_stops_at_the_first_candidate_that_settles_it laterClang { disk := .empty }
      requiredVersion candidates (by decide)
  have hchosen : (select requiredVersion candidates).result laterClang { disk := .empty } =
      .ok ⟨"clang", "clang++"⟩ := rfl
  rw [hcandidates, hends.chosen] at hchosen
  obtain ⟨rfl, -⟩ := hchosen
  exact ⟨done, rest, hcandidates, hstops, hends⟩

end CrossBuild.Compilers
