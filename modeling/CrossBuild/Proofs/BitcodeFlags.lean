-- The flags of a build for iOS. The C compiler gets its flags outright or as collected
-- ones, the assembler gets its own by a definition, and the library has to be made of
-- objects that are built alike, so the two have to come to the same thing.
import CrossBuild.Proofs.ConfigurationShapes

namespace CrossBuild.Native

variable {host : Host} {s : Session} {t : Target} {l : Layout} {c : CMake.Config}

/-! ## One set of flags on two ways -/

/-- A build for Mac Catalyst defines the flags of the C compiler, and any other collects them
without a definition in the way. -/
theorem setting?_cFlags (h : IsComplete t l c) (hcross : t.isCross = true)
    (hios : t.platform = .ios) (profile : String) :
    (CMake.configureCall c t.outDir profile l.cmake).setting? "CMAKE_C_FLAGS" =
      some (iosFlags t) := by
  obtain ⟨hdefined, hcollected, -⟩ := h.flags
  rw [CMake.setting?_configureCall h.noEqualsSign, hdefined _ (by decide), hcollected]
  by_cases hcatalyst : IsCatalystCross t
  · rw [if_pos hcatalyst, Option.some_or]
  · have hflags : cFlagsFor t = [iosFlags t] := if_pos ⟨hcross, hios, hcatalyst⟩
    rw [if_neg hcatalyst, hflags]
    simp

theorem asmFlags_mem_definitionsFor (hcross : t.isCross = true) (hios : t.platform = .ios)
    (l : Layout) : ("CMAKE_ASM_FLAGS", iosFlags t) ∈ definitionsFor t l := by
  unfold definitionsFor
  rw [if_pos hcross, hios]
  refine List.mem_append_right _ ?_
  simp only [platformDefinitions]
  split <;> exact List.mem_cons_self

/-- The flags as they are written. -/
theorem iosFlags_eq (t : Target) :
    iosFlags t =
      if Text.endsWith t.triple "-macabi" then "-fembed-bitcode -target " ++ t.triple
      else if t.architecture = "x86_64" then "-fembed-bitcode -target x86_64-apple-ios-simulator"
      else "-fembed-bitcode" := by
  have htarget : bitcodeFlag ++ " -target " = "-fembed-bitcode -target " := by decide
  have hsimulator : bitcodeFlag ++ " -target x86_64-apple-ios-simulator" =
      "-fembed-bitcode -target x86_64-apple-ios-simulator" := by decide
  unfold iosFlags
  rw [htarget, hsimulator]
  rfl

theorem startsWith_iosFlags (t : Target) :
    Text.startsWith (iosFlags t) "-fembed-bitcode" = true := by
  unfold iosFlags
  split
  · simp [Text.startsWith, bitcodeFlag]
  · split <;> decide +kernel

/-- In a build for iOS the C compiler and the assembler get the same flags: bitcode, and the
target of Mac Catalyst or of the simulator where the triple or the architecture says so. -/
theorem the_assembler_gets_the_flags_of_the_c_compiler (hsystem : t.system = "ios")
    (hcross : t.host ≠ t.triple) {call : Call}
    (hcall : .started call ∈ (build t l).events host s) (hconfigure : call.isConfigure = true) :
    ∃ flags, call.setting? "CMAKE_C_FLAGS" = some flags ∧
      call.setting? "CMAKE_ASM_FLAGS" = some flags ∧
      Text.startsWith flags "-fembed-bitcode" = true ∧
      flags =
        if Text.endsWith t.triple "-macabi" then "-fembed-bitcode -target " ++ t.triple
        else if t.architecture = "x86_64" then
          "-fembed-bitcode -target x86_64-apple-ios-simulator"
        else "-fembed-bitcode" := by
  have hcross : t.isCross = true := by simpa [Target.isCross] using hcross
  have hios : t.platform = .ios := by
    rw [Target.platform, hsystem]
    rfl
  obtain ⟨c, profile, hcomplete, rfl⟩ := exists_isComplete_of_configure hcall hconfigure
  exact ⟨iosFlags t, setting?_cFlags hcomplete hcross hios profile,
    hcomplete.setting?_of_mem profile (asmFlags_mem_definitionsFor hcross hios l),
    startsWith_iosFlags t, iosFlags_eq t⟩

/-- A build on a Mac for the simulator of iOS. -/
def simulator : Target :=
  { linuxTarget with
    system := "ios"
    host := "aarch64-apple-darwin"
    triple := "x86_64-apple-ios"
    environment := "" }

/-- The assembler of a build for the simulator is told of the simulator. -/
theorem the_assembler_is_told_of_the_simulator :
    ∃ call, .started call ∈ (build simulator .default).events silentTools { disk := .empty } ∧
      call.isConfigure = true ∧ call.setting? "CMAKE_ASM_FLAGS" =
        some "-fembed-bitcode -target x86_64-apple-ios-simulator" := by
  have hconfigured : ∃ call ∈ callsOf ((build simulator .default).events silentTools
      { disk := .empty }), call.isConfigure = true := by decide +kernel
  obtain ⟨call, hcall, hconfigure⟩ := hconfigured
  obtain ⟨flags, -, hasm, -, hflags⟩ := the_assembler_gets_the_flags_of_the_c_compiler rfl
    (by decide) (mem_callsOf.1 hcall) hconfigure
  refine ⟨call, mem_callsOf.1 hcall, hconfigure, ?_⟩
  rw [hasm, hflags]
  decide

end CrossBuild.Native
