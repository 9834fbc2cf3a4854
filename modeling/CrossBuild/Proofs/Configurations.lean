-- The configuration of a target. Apart from its messages it is a function of the
-- target and of the layout that fails only for Android, and its definitions have
-- names from a short list.
import CrossBuild.Native
import CrossBuild.Proofs.Actions
import CrossBuild.Proofs.CMakeDefinitions

namespace CrossBuild.Native

open Job

variable {host : Host} {s : Session} {t : Target} {l : Layout} {c : CMake.Config}

/-! ## The configuration as a function -/

/-- The parameters of a target in the tables. -/
def tableParameters (t : Target) : Platform → Parameters
  | .android => .forAndroid t.architecture (t.enables .ndkOldGcc)
  | .macos => .forApple t.triple
  | .ios => .forApple t.triple
  | _ => []

/-- What a target of a platform defines besides its parameters in the tables. -/
def platformDefinitions (t : Target) (l : Layout) : Platform → List (String × String)
  | .android =>
    match t.ndkHome with
    | some home => [
      ("CMAKE_TOOLCHAIN_FILE", (home / "build" / "cmake" / "android.toolchain.cmake").text),
      ("ANDROID_NATIVE_API_LEVEL", if t.enables .androidApi19 then "19" else "21"),
      ("ANDROID_STL", "c++_shared")]
    | none => []
  | .ios =>
    if Text.endsWith t.triple catalystTail then [
      ("CMAKE_ASM_FLAGS", iosFlags t), ("CMAKE_C_FLAGS", iosFlags t),
      ("CMAKE_CXX_FLAGS", iosFlags t)]
    else [("CMAKE_ASM_FLAGS", iosFlags t)]
  | .windows => if Text.contains t.host "windows" then [("OPENSSL_NO_ASM", "YES")] else []
  | .linux =>
    match linuxToolchain? t l { sourceDir := sourceDir t l } with
    | some file => [("CMAKE_TOOLCHAIN_FILE", file.text)]
    | none => []
  | .wasi => [
    ("CMAKE_TOOLCHAIN_FILE", wasiSdk l ++ "/share/cmake/wasi-sdk-pthread.cmake"),
    ("WASI_SDK_PREFIX", wasiSdk l ++ "/"), ("CMAKE_C_COMPILER_FORCED", "true")]
  | _ => []

/-- What the configuration of a target defines: nothing on the host itself. -/
def definitionsFor (t : Target) (l : Layout) : List (String × String) :=
  if t.isCross then tableParameters t t.platform ++ platformDefinitions t l t.platform else []

/-- Builds for Mac Catalyst define their compiler flags outright. -/
def IsCatalystCross (t : Target) : Prop :=
  t.isCross = true ∧ t.platform = .ios ∧ Text.endsWith t.triple catalystTail = true

instance (t : Target) : Decidable (IsCatalystCross t) := by
  unfold IsCatalystCross
  infer_instance

/-- The flags of the C compiler that are collected: those of the other builds for iOS. -/
def cFlagsFor (t : Target) : List String :=
  if t.isCross = true ∧ t.platform = .ios ∧ ¬IsCatalystCross t then [iosFlags t] else []

/-- The configuration of a target. -/
def configFor (t : Target) (l : Layout) : CMake.Config where
  sourceDir := sourceDir t l
  definitions := definitionsFor t l
  cFlags := cFlagsFor t

/-- The configuration of a target unless it lacks something. -/
def configOf (t : Target) (l : Layout) : Except Problem CMake.Config :=
  if t.isCross = true ∧ t.platform = .android ∧ t.ndkHome = none then .error .ndkHomeUnset
  else .ok (configFor t l)

/-! ## The job and the function -/

theorem within_defineParameters (acts : Action → Prop) (label : String) (params : Parameters) :
    Within acts (defineParameters t label params c) host s := by
  unfold defineParameters
  dsimp only
  split
  · refine Within.bind (within_warn _ _) fun _ _ => ?_
    refine Within.bind (within_forM _ fun d _ s => within_log _ _ _) fun _ _ => ?_
    exact within_pure _
  · refine Within.bind (within_forM _ fun d _ s => within_log _ _ _) fun _ _ => ?_
    exact within_pure _

theorem result_defineParameters (label : String) (params : Parameters) :
    (defineParameters t label params c).result host s = .ok (c.defineAll params) := by
  unfold defineParameters
  dsimp only
  split
  · rw [result_bind_of_ok rfl, result_bind_of_ok (result_forM _ fun d _ s => rfl), result_pure]
  · rw [result_bind_of_ok (result_forM _ fun d _ s => rfl), result_pure]

/-- Choosing the configuration only tells the user about it. -/
theorem within_config (acts : Action → Prop) (t : Target) (l : Layout) :
    Within acts (config t l) host s := by
  unfold config
  dsimp only
  split
  · exact within_pure _
  · split
    · unfold configureAndroid
      refine Within.bind (within_get _) fun home _ => ?_
      refine Within.bind (within_defineParameters acts _ _) fun c _ => ?_
      exact Within.bind (within_log _ _ _) fun _ _ => within_pure _
    · exact within_defineParameters acts _ _
    · unfold configureIos
      refine Within.bind (within_defineParameters acts _ _) fun c _ => ?_
      dsimp only
      split
      · exact within_pure _
      · exact within_pure _
    · exact within_pure _
    · unfold configureLinux
      split
      · exact within_pure _
      · exact Within.bind (within_warn _ _) fun _ _ => within_pure _
    · exact within_pure _
    · exact Within.bind (within_warn _ _) fun _ _ => within_pure _

/-- A configuration is told by the target and the layout alone. Only the one for Android can fail,
as the NDK may be unknown. -/
theorem result_config (host : Host) (s : Session) (t : Target) (l : Layout) :
    (config t l).result host s = (configOf t l).mapError .problem := by
  unfold config configOf configFor definitionsFor cFlagsFor
  dsimp only
  cases hcross : t.isCross with
  | false => rfl
  | true =>
    cases hplatform : t.platform with
    | android =>
      simp only [configureAndroid, Target.requireNdkHome, tableParameters, platformDefinitions]
      cases hhome : t.ndkHome with
      | none => rfl
      | some home =>
        simp only [Bool.not_true, Bool.false_eq_true, if_false]
        rw [result_bind_of_ok (by rfl), result_bind_of_ok (result_defineParameters _ _),
          result_bind_of_ok rfl]
        rfl
    | macos =>
      simp only [Bool.not_true, Bool.false_eq_true, if_false]
      rw [result_defineParameters]
      simp [tableParameters, platformDefinitions, CMake.Config.defineAll, mapError_ok]
    | ios =>
      simp only [configureIos, Bool.not_true, Bool.false_eq_true, if_false]
      rw [result_bind_of_ok (result_defineParameters _ _)]
      by_cases htail : Text.endsWith t.triple catalystTail = true
      · have hcat : IsCatalystCross t := ⟨hcross, hplatform, htail⟩
        simp only [htail, hcat, tableParameters, platformDefinitions, if_true]
        rfl
      · have hcat : ¬IsCatalystCross t := fun h => htail h.2.2
        simp only [htail, hcat, tableParameters, platformDefinitions]
        rfl
    | linux =>
      simp only [configureLinux, tableParameters, platformDefinitions]
      cases linuxToolchain? t l { sourceDir := sourceDir t l } <;> rfl
    | windows =>
      simp only [configureWindows, tableParameters, platformDefinitions]
      cases Text.contains t.host "windows" <;> rfl
    | wasi => rfl
    | other => rfl

theorem eq_configFor (h : (config t l).result host s = .ok c) : c = configFor t l := by
  rw [result_config] at h
  unfold configOf at h
  split at h
  · cases h
  · cases h
    rfl

/-- Fuzzing adds nothing but flags of the C++ compiler, of which there are none before. -/
theorem withFuzzing_configFor (t : Target) (l : Layout) :
    withFuzzing t (configFor t l) =
      { configFor t l with cxxFlags := if t.enables .fuzzing then fuzzingFlags else [] } := by
  unfold withFuzzing
  split <;> rfl

/-! ## The names of the definitions -/

/-- The names of the parameters in the tables. -/
def parameterNames : List String :=
  ["ANDROID_TOOLCHAIN_NAME", "ANDROID_ABI", "CMAKE_OSX_ARCHITECTURES", "CMAKE_OSX_SYSROOT"]

/-- The names that a platform may define besides. -/
def platformNames : List String :=
  ["CMAKE_TOOLCHAIN_FILE", "ANDROID_NATIVE_API_LEVEL", "ANDROID_STL", "CMAKE_ASM_FLAGS",
    "CMAKE_C_FLAGS", "CMAKE_CXX_FLAGS", "WASI_SDK_PREFIX", "CMAKE_C_COMPILER_FORCED",
    "OPENSSL_NO_ASM"]

theorem mem_of_lookup {table : List (String × Parameters)} {key : String} {params : Parameters}
    (h : table.lookup key = some params) : (key, params) ∈ table := by
  obtain ⟨before, after, rfl, -⟩ := List.lookup_eq_some_iff.1 h
  exact List.mem_append_right _ List.mem_cons_self

theorem mem_of_mem_lookup {table : List (String × Parameters)} {key : String}
    {d : String × String} (hd : d ∈ (table.lookup key).getD []) :
    ∃ entry ∈ table, d ∈ entry.2 := by
  cases h : table.lookup key with
  | none => simp [h] at hd
  | some params =>
    rw [h] at hd
    exact ⟨(key, params), mem_of_lookup h, hd⟩

theorem mem_parameterNames_of_mem_forAndroid {architecture : String} {oldGcc : Bool}
    {d : String × String} (hd : d ∈ Parameters.forAndroid architecture oldGcc) :
    d.1 ∈ parameterNames := by
  obtain ⟨entry, hentry, hd⟩ := mem_of_mem_lookup hd
  have htables : ∀ entry ∈ Parameters.androidOldGcc ++ Parameters.android, ∀ d ∈ entry.2,
      d.1 ∈ parameterNames := by decide
  refine htables entry ?_ d hd
  rw [List.mem_append]
  cases oldGcc
  · exact Or.inr hentry
  · exact Or.inl hentry

theorem mem_parameterNames_of_mem_forApple {triple : String} {d : String × String}
    (hd : d ∈ Parameters.forApple triple) : d.1 ∈ parameterNames := by
  obtain ⟨entry, hentry, hd⟩ := mem_of_mem_lookup hd
  have htable : ∀ entry ∈ Parameters.apple, ∀ d ∈ entry.2, d.1 ∈ parameterNames := by decide
  exact htable entry hentry d hd

theorem mem_parameterNames_of_mem_tableParameters {platform : Platform} {d : String × String}
    (hd : d ∈ tableParameters t platform) : d.1 ∈ parameterNames := by
  cases platform with
  | android => exact mem_parameterNames_of_mem_forAndroid hd
  | macos => exact mem_parameterNames_of_mem_forApple hd
  | ios => exact mem_parameterNames_of_mem_forApple hd
  | _ => cases hd

theorem mem_platformNames_of_mem_platformDefinitions {platform : Platform} {d : String × String}
    (hd : d ∈ platformDefinitions t l platform) : d.1 ∈ platformNames := by
  revert d
  cases platform with
  | android | ios | windows | linux =>
    simp only [platformDefinitions]
    split <;> simp [platformNames]
  | wasi => simp [platformDefinitions, platformNames]
  | macos | other => simp [platformDefinitions]

/-- A target defines nothing but parameters of the tables and what platforms define. -/
theorem mem_names_of_mem_definitionsFor {d : String × String} (hd : d ∈ definitionsFor t l) :
    d.1 ∈ parameterNames ++ platformNames := by
  unfold definitionsFor at hd
  split at hd
  · rcases List.mem_append.1 hd with hd | hd
    · exact List.mem_append_left _ (mem_parameterNames_of_mem_tableParameters hd)
    · exact List.mem_append_right _ (mem_platformNames_of_mem_platformDefinitions hd)
  · cases hd

theorem noEqualsSign_of_mem_definitionsFor {d : String × String} (hd : d ∈ definitionsFor t l) :
    '=' ∉ d.1.toList := by
  have hnames : ∀ name ∈ parameterNames ++ platformNames, '=' ∉ name.toList := by decide
  exact hnames d.1 (mem_names_of_mem_definitionsFor hd)

theorem noEqualsSign_withFuzzing : ∀ d ∈ (withFuzzing t (configFor t l)).definitions,
    '=' ∉ d.1.toList := by
  rw [withFuzzing_configFor]
  exact fun d => noEqualsSign_of_mem_definitionsFor

/-- What the choice of compilers defines. -/
def compilerDefinitions (compilers : Compilers) : List (String × String) := [
  ("CMAKE_C_COMPILER", compilers.c), ("CMAKE_CXX_COMPILER", compilers.cxx),
  ("CMAKE_ASM_COMPILER", compilers.c), ("FIPS", "1")]

theorem definitions_withCompilers (compilers : Compilers) (c : CMake.Config) :
    (withCompilers compilers c).definitions = c.definitions ++ compilerDefinitions compilers := rfl

/-- The names that the choice of compilers defines. -/
def compilerNames : List String :=
  ["CMAKE_C_COMPILER", "CMAKE_CXX_COMPILER", "CMAKE_ASM_COMPILER", "FIPS"]

theorem map_compilerDefinitions (compilers : Compilers) :
    (compilerDefinitions compilers).map (·.1) = compilerNames := rfl

theorem mem_compilerNames_of_mem_compilerDefinitions {compilers : Compilers}
    {d : String × String} (hd : d ∈ compilerDefinitions compilers) : d.1 ∈ compilerNames :=
  map_compilerDefinitions compilers ▸ List.mem_map_of_mem hd

theorem noEqualsSign_withCompilers (compilers : Compilers)
    (hnames : ∀ d ∈ c.definitions, '=' ∉ d.1.toList) :
    ∀ d ∈ (withCompilers compilers c).definitions, '=' ∉ d.1.toList := by
  intro d hd
  rw [definitions_withCompilers] at hd
  rcases List.mem_append.1 hd with hd | hd
  · exact hnames d hd
  · simp only [compilerDefinitions, List.mem_cons, List.not_mem_nil, or_false] at hd
    rcases hd with rfl | rfl | rfl | rfl <;> simp

theorem lastValue?_tableParameters {name : String} (hname : name ∉ parameterNames) (t : Target)
    (platform : Platform) : CMake.lastValue? name (tableParameters t platform) = none := by
  rw [CMake.lastValue?_eq_none]
  intro d hd heq
  exact hname (heq ▸ mem_parameterNames_of_mem_tableParameters hd)

/-- What the tables do not name is defined by the platform of a cross build only. -/
theorem lastValue?_platform {name : String} (hname : name ∉ parameterNames) (t : Target)
    (l : Layout) :
    CMake.lastValue? name (definitionsFor t l) =
      if t.isCross then CMake.lastValue? name (platformDefinitions t l t.platform) else none := by
  unfold definitionsFor
  split
  · rw [CMake.lastValue?_append, lastValue?_tableParameters hname, Option.or_none]
  · rfl

/-- The flags that a build for Mac Catalyst defines outright and that other builds collect. -/
def collectedNames : List String := ["CMAKE_C_FLAGS", "CMAKE_CXX_FLAGS"]

theorem lastValue?_flags_platformDefinitions {name : String} (hname : name ∈ collectedNames)
    (t : Target) (l : Layout) (platform : Platform) :
    CMake.lastValue? name (platformDefinitions t l platform) =
      if platform = .ios ∧ Text.endsWith t.triple catalystTail = true then some (iosFlags t)
      else none := by
  simp only [collectedNames, List.mem_cons, List.not_mem_nil, or_false] at hname
  rcases hname with rfl | rfl <;>
    cases platform with
    | ios =>
      simp only [platformDefinitions, true_and]
      split <;> rfl
    | android | windows | linux =>
      simp only [platformDefinitions]
      split <;> rfl
    | macos | wasi | other => rfl

/-- Only a build for Mac Catalyst defines the flags of the C and the C++ compiler. -/
theorem lastValue?_flags_definitionsFor {name : String} (hname : name ∈ collectedNames)
    (t : Target) (l : Layout) :
    CMake.lastValue? name (definitionsFor t l) =
      if IsCatalystCross t then some (iosFlags t) else none := by
  have hdisjoint : ∀ name ∈ collectedNames, name ∉ parameterNames := by decide
  rw [lastValue?_platform (hdisjoint name hname), lastValue?_flags_platformDefinitions hname]
  by_cases hcross : t.isCross = true
  · rw [if_pos hcross]
    simp only [IsCatalystCross, hcross, true_and]
  · rw [if_neg hcross, if_neg fun hcatalyst => hcross hcatalyst.1]

end CrossBuild.Native
