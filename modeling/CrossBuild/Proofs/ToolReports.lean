-- The report on a tool that has failed. Each place that starts a tool puts the report
-- together in its own way, with more or less of what the tool has written, and in all of
-- them the words of the tool on its error output come through to the user.
import CrossBuild.Proofs.BuildSteps
import CrossBuild.Proofs.Texts

namespace CrossBuild

namespace Report

/-! ## What a report shows -/

/-- The words of the tool are shown without the blanks at their end. -/
theorem contains_text_diagnostic (r : Report) :
    Text.contains r.text (Text.trimEnd r.diagnostic) = true := by
  unfold text
  dsimp only
  by_cases hempty : r.diagnostic = ""
  · rw [hempty, Text.contains_iff]
    exact List.nil_infix
  · rw [if_neg hempty]
    exact Text.contains_append_right (Text.contains_self _) _

theorem contains_text_line {r : Report} {line : String} (h : line ∈ r.lines) :
    Text.contains r.text line = true := by
  have hhead := Text.contains_intercalate h "\n"
  unfold text
  dsimp only
  split
  · exact hhead
  · rw [String.append_assoc]
    exact Text.contains_append_left hhead _

/-- A fact of the context is shown, and an empty one needs no line of its own. -/
theorem contains_text_fact {r : Report} {fact : String × String} (h : fact ∈ r.context) :
    Text.contains r.text fact.2 = true := by
  by_cases hempty : fact.2 = ""
  · rw [hempty, Text.contains_iff]
    exact List.nil_infix
  · have hline : "  " ++ fact.1 ++ ": " ++ fact.2 ∈ r.lines := by
      refine List.mem_append_right _ (List.mem_map.2 ⟨fact, ?_, rfl⟩)
      exact List.mem_filter.2 ⟨h, by simpa using hempty⟩
    refine Text.contains_trans (contains_text_line hline) ?_
    exact Text.contains_append_right (Text.contains_self _) _

end Report

namespace Problem

/-! ## A report that tells of a tool -/

/-- The problem tells of a tool that has been called and has ended badly: which tool it is, its
exit code, and what it has written on its error output. Of git the problem tells by its sort. -/
structure TellsOf (p : Problem) (call : Call) (exit : Exit) : Prop where
  fetch : call.isFetch = true → p.kind = .sourceFetch
  tool : call.isFetch = false →
    p.kind = .externalTool ∧ p.tool? = some (call.program, some exit.code)
  diagnostic : call.isFetch = false → Text.contains p.report.diagnostic exit.stderr = true
  text : Text.contains p.text (Text.trim exit.stderr) = true

/-- A problem whose diagnostic ends with what the tool has written tells of the tool. -/
theorem tellsOf_of_diagnostic {p : Problem} {call : Call} {exit : Exit} (before : String)
    (hfetch : call.isFetch = false) (hkind : p.kind = .externalTool)
    (htool : p.tool? = some (call.program, some exit.code))
    (hdiagnostic : p.report.diagnostic = before ++ exit.stderr) : p.TellsOf call exit where
  fetch h := by
    rw [hfetch] at h
    cases h
  tool _ := ⟨hkind, htool⟩
  diagnostic _ := by
    rw [hdiagnostic]
    exact Text.contains_append_right (Text.contains_self _) _
  text := by
    have htext := p.report.contains_text_diagnostic
    rw [hdiagnostic] at htext
    exact Text.contains_trans htext (Text.contains_trimEnd_append before exit.stderr)

variable {call : Call} {exit : Exit}

/-- Git is no tool of its own here: what it has written is a fact of the context. -/
theorem tellsOf_fetchFailed (hfetch : call.isFetch = true) (source : String) :
    (fetchFailed source exit.code exit.stderr).TellsOf call exit where
  fetch _ := rfl
  tool h := by
    rw [hfetch] at h
    cases h
  diagnostic h := by
    rw [hfetch] at h
    cases h
  text := by
    have hfact : ("stderr", Text.trim exit.stderr) ∈
        (fetchFailed source exit.code exit.stderr).report.context :=
      List.mem_cons_of_mem _ List.mem_cons_self
    have hshown := Report.contains_text_fact hfact
    unfold Problem.text
    exact hshown

theorem tellsOf_probeFailed (hfetch : call.isFetch = false) :
    (probeFailed call.program exit.code exit.stderr).TellsOf call exit :=
  tellsOf_of_diagnostic "" hfetch rfl rfl (String.empty_append (s := exit.stderr)).symm

/-- CMake is shown with all that it has written. -/
theorem tellsOf_cmakeFailed (hfetch : call.isFetch = false) (step : String) :
    (cmakeFailed call.program step exit.code (exit.stdout ++ exit.stderr)).TellsOf call exit :=
  tellsOf_of_diagnostic exit.stdout hfetch rfl rfl rfl

/-- The generator is shown with its error output, or with its output if it has none. -/
theorem tellsOf_bindgenFailed (hfetch : call.isFetch = false) :
    (bindgenFailed call.program exit.code
      (if exit.stderr ≠ "" then exit.stderr else exit.stdout)).TellsOf call exit := by
  by_cases hstderr : exit.stderr = ""
  · refine tellsOf_of_diagnostic exit.stdout hfetch rfl rfl ?_
    rw [if_neg (not_not_intro hstderr), hstderr, String.append_empty]
    rfl
  · refine tellsOf_of_diagnostic "" hfetch rfl rfl ?_
    rw [if_pos hstderr, String.empty_append]
    rfl

end Problem

end CrossBuild
