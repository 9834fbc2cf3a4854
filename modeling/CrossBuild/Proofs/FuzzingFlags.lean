-- The flags of a build for fuzzing. They reach the C++ compiler of every platform
-- but one: a build for Mac Catalyst defines the flags outright, and the collected
-- ones are lost there.
import CrossBuild.Proofs.BuildSteps

namespace CrossBuild.Native

open Job

variable {host : Host} {s : Session} {t : Target} {l : Layout} {c : CMake.Config}

/-! ## The words of the flags -/

/-- The words of the C++ flags that a configure command gives. -/
def cxxWords (call : Call) : List String :=
  Text.pieces ' ' ((call.setting? "CMAKE_CXX_FLAGS").getD "")

/-- The words of the flags for Mac Catalyst are those of the triple and two more. -/
theorem pieces_iosFlags (h : Text.endsWith t.triple catalystTail = true) :
    Text.pieces ' ' (iosFlags t) = "-fembed-bitcode" :: "-target" :: Text.pieces ' ' t.triple := by
  unfold iosFlags
  rw [if_pos h]
  have htarget : Text.pieces ' ' ("-target " ++ t.triple) = "-target" :: Text.pieces ' ' t.triple :=
    Text.pieces_eq_cons (by simp) (by decide) (by decide)
  rw [← htarget]
  exact Text.pieces_eq_cons (by simp [bitcodeFlag]) (by decide) (by decide)

theorem mem_pieces_iosFlags {flag : String} (h : Text.endsWith t.triple catalystTail = true)
    (hflag : flag ∈ fuzzingFlags) :
    flag ∈ Text.pieces ' ' (iosFlags t) ↔ flag ∈ Text.pieces ' ' t.triple := by
  have hother : ∀ flag ∈ fuzzingFlags, flag ≠ "-fembed-bitcode" ∧ flag ≠ "-target" := by decide
  obtain ⟨hbitcode, htarget⟩ := hother flag hflag
  rw [pieces_iosFlags h, List.mem_cons, List.mem_cons]
  simp [hbitcode, htarget]

/-! ## The flags of a configure command -/

theorem cxxWords_of_isComplete (h : IsComplete t l c) (profile : String) :
    cxxWords (CMake.configureCall c t.outDir profile l.cmake) =
      if IsCatalystCross t then Text.pieces ' ' (iosFlags t)
      else if t.enables .fuzzing then fuzzingFlags
      else [] := by
  have hwords : Text.pieces ' ' (" ".intercalate fuzzingFlags) = fuzzingFlags := by decide +kernel
  have hempty : Text.pieces ' ' "" = [] := by decide
  obtain ⟨hdefined, -, hcollected⟩ := h.flags
  unfold cxxWords
  rw [CMake.setting?_configureCall h.noEqualsSign, hdefined _ (by decide), hcollected]
  by_cases hcatalyst : IsCatalystCross t
  · simp [hcatalyst]
  · cases hfuzzing : t.enables .fuzzing with
    | true =>
      rw [if_neg hcatalyst, if_neg hcatalyst]
      exact hwords
    | false =>
      rw [if_neg hcatalyst, if_neg hcatalyst]
      exact hempty

/-- A build for fuzzing gives its flags to the C++ compiler exactly if it is no build for Mac
Catalyst or if its triple happens to name them. Another build never gives them by itself. -/
theorem fuzzing_flags_are_given_iff (host : Host) (s : Session) (t : Target) (l : Layout) :
    ∀ call, .started call ∈ (build t l).events host s → call.isConfigure = true →
      ((t.enables .fuzzing = true → ∀ flag ∈ fuzzingFlags, flag ∈ cxxWords call) ↔
        (t.enables .fuzzing = true → IsCatalystCross t →
          ∀ flag ∈ fuzzingFlags, flag ∈ Text.pieces ' ' t.triple)) ∧
      (t.enables .fuzzing = false → Text.contains t.triple "BORINGSSL_UNSAFE" = false →
        ∀ flag ∈ fuzzingFlags, flag ∉ cxxWords call) := by
  intro call hcall hconfigure
  obtain ⟨c, profile, hcomplete, rfl⟩ := exists_isComplete_of_configure hcall hconfigure
  rw [cxxWords_of_isComplete hcomplete profile]
  by_cases hcatalyst : IsCatalystCross t
  · rw [if_pos hcatalyst]
    constructor
    · constructor
      · intro h hfuzzing _ flag hflag
        exact (mem_pieces_iosFlags hcatalyst.2.2 hflag).1 (h hfuzzing flag hflag)
      · intro h hfuzzing flag hflag
        exact (mem_pieces_iosFlags hcatalyst.2.2 hflag).2 (h hfuzzing hcatalyst flag hflag)
    · intro _ htriple flag hflag hmem
      have hmarked : ∀ flag ∈ fuzzingFlags, Text.contains flag "BORINGSSL_UNSAFE" = true := by
        decide +kernel
      have hmem := (mem_pieces_iosFlags hcatalyst.2.2 hflag).1 hmem
      rw [Text.contains_of_mem_pieces hmem (hmarked flag hflag)] at htriple
      cases htriple
  · rw [if_neg hcatalyst]
    cases hfuzzing : t.enables .fuzzing with
    | true => simp [hcatalyst]
    | false => simp

/-- A build for fuzzing for the machine that it runs on. -/
def linuxFuzzing : Target := { linuxTarget with features := ⟨["fuzzing"]⟩ }

/-- A build for fuzzing for Mac Catalyst on a Mac. -/
def catalystFuzzing : Target :=
  { linuxFuzzing with
    system := "ios"
    host := "x86_64-apple-darwin"
    triple := "x86_64-apple-ios-macabi"
    environment := "macabi" }

/-- On Linux the flags for fuzzing are given. -/
theorem fuzzing_flags_are_given_on_linux :
    ∃ call, .started call ∈ (build linuxFuzzing .default).events silentTools { disk := .empty } ∧
      call.isConfigure = true ∧ ∀ flag ∈ fuzzingFlags, flag ∈ cxxWords call := by
  have hconfigured : ∃ call ∈ callsOf ((build linuxFuzzing .default).events silentTools
      { disk := .empty }), call.isConfigure = true := by decide +kernel
  obtain ⟨call, hcall, hconfigure⟩ := hconfigured
  refine ⟨call, mem_callsOf.1 hcall, hconfigure, ?_⟩
  have hgiven := (fuzzing_flags_are_given_iff silentTools { disk := .empty } linuxFuzzing .default
    call (mem_callsOf.1 hcall) hconfigure).1
  exact hgiven.2 (fun _ hcatalyst => absurd hcatalyst.1 (by decide)) (by decide)

/-- A build for Mac Catalyst loses the flags for fuzzing. -/
theorem fuzzing_flags_are_lost_for_catalyst :
    ¬∀ call, .started call ∈ (build catalystFuzzing .default).events silentTools
        { disk := .empty } →
      call.isConfigure = true → ∀ flag ∈ fuzzingFlags, flag ∈ cxxWords call := by
  have hlost : ∃ call ∈ callsOf ((build catalystFuzzing .default).events silentTools
      { disk := .empty }), call.isConfigure = true ∧
        ¬∀ flag ∈ fuzzingFlags, flag ∈ cxxWords call := by decide +kernel
  obtain ⟨call, hcall, hconfigure, hflags⟩ := hlost
  intro h
  exact hflags (h call (mem_callsOf.1 hcall) hconfigure)

end CrossBuild.Native
