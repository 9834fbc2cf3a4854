-- The paths of the layout. Relative entries are to start in the folder of the project,
-- so that no tool takes them for paths from wherever it runs. The entry of the SDK for
-- WASI is the one that is handed on without being joined to this folder.
import CrossBuild.Proofs.Disks
import CrossBuild.Proofs.SystemHeaders

namespace CrossBuild

open Job

variable {host : Host} {s s' : Session} {t : Target} {l : Layout} {c : CMake.Config}

/-! ## Texts of paths that are put together -/

namespace Path

/-- The parts that are read from characters. -/
def partsOf (cs : List Char) : List String :=
  ((cs.splitOn '/').map String.ofList).filter isPathPart

theorem parts_ofString (s : String) : (ofString s).parts = partsOf s.toList := rfl

theorem partsOf_append_cons (before after : List Char) :
    partsOf (before ++ '/' :: after) = partsOf before ++ partsOf after := by
  simp only [partsOf, List.splitOn_append_cons_self, List.map_append, List.filter_append]

theorem partsOf_slashes {slashes : List Char} (h : ∀ c ∈ slashes, c = '/') :
    partsOf slashes = [] := by
  induction slashes with
  | nil => decide
  | cons c rest ih =>
    obtain rfl := h c List.mem_cons_self
    exact (partsOf_append_cons [] rest).trans (ih fun c hc => h c (List.mem_cons_of_mem _ hc))

theorem partsOf_append_slashes (before : List Char) {slashes : List Char}
    (h : ∀ c ∈ slashes, c = '/') : partsOf (before ++ slashes) = partsOf before := by
  cases slashes with
  | nil => rw [List.append_nil]
  | cons c rest =>
    obtain rfl := h c List.mem_cons_self
    rw [partsOf_append_cons, partsOf_slashes fun c hc => h c (List.mem_cons_of_mem _ hc),
      List.append_nil]

/-- A text that goes on with a slash has the parts of both sides, however many slashes have been
taken away in between. -/
theorem parts_ofString_append (first rest : String) {slashes : String}
    (hslashes : ∀ c ∈ slashes.toList, c = '/') :
    (ofString (first ++ "/" ++ rest)).parts =
      (ofString (first ++ slashes)).parts ++ (ofString rest).parts := by
  have hjoined : (first ++ "/" ++ rest).toList = first.toList ++ '/' :: rest.toList := by simp
  rw [parts_ofString, parts_ofString, parts_ofString, hjoined, partsOf_append_cons,
    String.toList_append, partsOf_append_slashes _ hslashes]

theorem isAbsolute_ofString_iff (s : String) :
    (ofString s).isAbsolute = true ↔ s.toList.head? = some '/' := by
  rw [List.head?_eq_some_iff]
  unfold isAbsolute ofString Anchor.ofChars
  dsimp only
  split <;> simp_all

/-- A path lies in a folder: it starts where the folder does and goes on from there. -/
def LiesIn (folder p : Path) : Prop := p.isAbsolute = folder.isAbsolute ∧ folder.parts <+: p.parts

theorem liesIn_refl (p : Path) : LiesIn p p := ⟨rfl, List.prefix_refl _⟩

theorem LiesIn.div {folder p : Path} (h : LiesIn folder p) {part : String}
    (hpart : isPathPart part = true) : LiesIn folder (p / part) := by
  obtain ⟨hanchor, hparts⟩ := p.div_part hpart
  refine ⟨?_, ?_⟩
  · rw [← h.1, isAbsolute, isAbsolute, hanchor]
  · rw [hparts]
    exact h.2.trans (List.prefix_append _ _)

/-- A text that goes on with a slash is absolute if it is so from the start, or if there is nothing
but slashes before. -/
theorem isAbsolute_ofString_append_iff (first rest : String) {slashes : String}
    (hslashes : ∀ c ∈ slashes.toList, c = '/') :
    (ofString (first ++ "/" ++ rest)).isAbsolute = true ↔
      (ofString (first ++ slashes)).isAbsolute = true ∨ first ++ slashes = "" := by
  rw [isAbsolute_ofString_iff, isAbsolute_ofString_iff, ← String.toList_eq_nil_iff]
  simp only [String.toList_append]
  cases first.toList with
  | nil =>
    cases hslash : slashes.toList with
    | nil => simp
    | cons c more =>
      obtain rfl := hslashes c (by simp [hslash])
      simp
  | cons c more => simp

end Path

/-! ## The SDK for WASI -/

namespace Native

/-- What is sought in the SDK lies in the place that the layout gives it if the entry is absolute.
A relative entry stays relative, and an empty one makes a path from the root. -/
theorem liesIn_sdk_iff (hproject : t.projectDir.isAbsolute = true) (l : Layout)
    {suffix rest : String} (hsuffix : suffix = "/" ++ rest) :
    Path.LiesIn (t.projectDir / l.wasiSdk) (.ofString (wasiSdk l ++ suffix)) ↔
      (Path.ofString l.wasiSdk).isAbsolute = true ∨
        l.wasiSdk = "" ∧ t.projectDir.parts <+: (Path.ofString rest).parts := by
  rw [hsuffix, ← String.append_assoc]
  obtain ⟨slashes, hsdk, hslashes, -⟩ := Text.exists_trimEndSlashes l.wasiSdk
  have hanchor := Path.isAbsolute_ofString_append_iff (wasiSdk l) rest hslashes
  have hparts := Path.parts_ofString_append (wasiSdk l) rest hslashes
  unfold wasiSdk at hanchor hparts
  rw [← hsdk] at hanchor hparts
  change Path.LiesIn (t.projectDir.join (.ofString l.wasiSdk)) _ ↔ _
  unfold Path.LiesIn Path.join wasiSdk
  by_cases habsolute : (Path.ofString l.wasiSdk).isAbsolute = true
  · rw [if_pos habsolute, hparts]
    exact iff_of_true ⟨(hanchor.2 (.inl habsolute)).trans habsolute.symm, List.prefix_append _ _⟩
      (.inl habsolute)
  · rw [if_neg habsolute, hparts]
    change _ = t.projectDir.isAbsolute ∧ _ ↔ _
    rw [hproject, hanchor, or_iff_right habsolute, or_iff_right habsolute]
    refine and_congr_right fun hempty => ?_
    have hnone : (Path.ofString l.wasiSdk).parts = [] := by
      rw [hempty]
      decide
    dsimp only
    rw [hnone, List.append_nil, List.nil_append]

/-! ## The definitions that hold paths -/

theorem lastValue?_sdk_platformDefinitions (t : Target) (l : Layout) (platform : Platform) :
    CMake.lastValue? "WASI_SDK_PREFIX" (platformDefinitions t l platform) =
      if platform = .wasi then some (wasiSdk l ++ "/") else none := by
  cases platform with
  | android | ios | windows | linux =>
    simp only [platformDefinitions]
    split <;> rfl
  | wasi | macos | other => rfl

/-- The entry of the layout in which the toolchain file of a target is sought. -/
def toolchainEntry? (t : Target) (l : Layout) : Option String :=
  match t.platform with
  | .linux =>
    if t.architecture = "x86" then some (l.sourceName (t.enables .fips)) else some l.toolchainDir
  | .wasi => some l.wasiSdk
  | _ => none

theorem liesIn_of_linuxToolchain? (hlinux : t.platform = .linux) {file : Path}
    (h : linuxToolchain? t l { sourceDir := sourceDir t l } = some file) :
    ∃ entry, toolchainEntry? t l = some entry ∧ Path.LiesIn (t.projectDir / entry) file := by
  unfold linuxToolchain? at h
  unfold toolchainEntry?
  rw [hlinux]
  dsimp only at h ⊢
  by_cases hx86 : t.architecture = "x86"
  · rw [if_pos hx86] at h ⊢
    cases h
    refine ⟨_, rfl, ?_⟩
    exact (((Path.liesIn_refl _).div (by decide)).div (by decide)).div (by decide)
  · rw [if_neg hx86] at h ⊢
    refine ⟨_, rfl, ?_⟩
    split at h
    · cases h
      exact (Path.liesIn_refl _).div (by decide)
    · split at h
      · cases h
        exact (Path.liesIn_refl _).div (by decide)
      · cases h

/-- But for Android, whose toolchain file comes with the NDK, and for WASI a toolchain file lies in
its entry. -/
theorem liesIn_of_toolchain (handroid : t.platform ≠ .android) (hwasi : t.platform ≠ .wasi)
    {file : String}
    (h : CMake.lastValue? "CMAKE_TOOLCHAIN_FILE" (platformDefinitions t l t.platform) = some file) :
    ∃ entry, toolchainEntry? t l = some entry ∧
      Path.LiesIn (t.projectDir / entry) (.ofString file) := by
  cases hplatform : t.platform with
  | android => exact absurd hplatform handroid
  | wasi => exact absurd hplatform hwasi
  | linux =>
    rw [hplatform] at h
    simp only [platformDefinitions] at h
    split at h
    · rename_i path hpath
      cases h
      rw [Path.ofString_text]
      exact liesIn_of_linuxToolchain? hplatform hpath
    · cases h
  | ios | windows =>
    rw [hplatform] at h
    simp only [platformDefinitions] at h
    split at h <;> cases h
  | macos | other =>
    rw [hplatform] at h
    cases h

end Native

/-! ## The paths of the layout -/

/-- Whatever comes from an entry of the layout, for CMake or for the generator, is sought in the
entry as it is seen from the folder of the project. An absolute entry stands for itself there. -/
structure FollowsLayout (host : Host) (s : Session) (t : Target) (l : Layout) : Prop where
  sources : ∀ c, (Native.config t l).result host s = .ok c →
    Path.LiesIn (t.projectDir / l.sourceName (t.enables .fips)) c.sourceDir
  /-- The toolchain file for Android is one of the NDK and of no entry. -/
  toolchain : t.platform ≠ .android → ∀ c, (Native.config t l).result host s = .ok c →
    ∀ file, CMake.lastValue? "CMAKE_TOOLCHAIN_FILE" c.definitions = some file →
      ∃ entry, Native.toolchainEntry? t l = some entry ∧
        Path.LiesIn (t.projectDir / entry) (.ofString file)
  sdk : ∀ c, (Native.config t l).result host s = .ok c →
    ∀ folder, CMake.lastValue? "WASI_SDK_PREFIX" c.definitions = some folder →
      Path.LiesIn (t.projectDir / l.wasiSdk) (.ofString folder)
  sysroot : t.platform = .wasi → ∀ root output generator,
    (Bindings.call t l root output).result host s = .ok generator →
      ∀ option ∈ generator.sysroots, Path.LiesIn (t.projectDir / l.wasiSdk) (.ofString option.2)

theorem followsLayout_of_ne_wasi (hwasi : t.platform ≠ .wasi) : FollowsLayout host s t l where
  sources c hc := Native.eq_configFor hc ▸ Path.liesIn_refl _
  toolchain handroid c hc file hfile := by
    rw [Native.eq_configFor hc, Native.configFor, Native.lastValue?_platform (by decide)] at hfile
    split at hfile
    · exact Native.liesIn_of_toolchain handroid hwasi hfile
    · cases hfile
  sdk c hc folder hfolder := by
    rw [Native.eq_configFor hc, Native.configFor, Native.lastValue?_platform (by decide),
      Native.lastValue?_sdk_platformDefinitions, if_neg hwasi, ite_self] at hfolder
    cases hfolder
  sysroot h := absurd h hwasi

/-- A build for WASI has up to three paths, each of which is made from the entry of the SDK. -/
theorem followsLayout_wasi_iff (hwasi : t.platform = .wasi) :
    FollowsLayout host s t l ↔
      (t.isCross = true →
        Path.LiesIn (t.projectDir / l.wasiSdk)
          (.ofString (Native.wasiSdk l ++ "/share/cmake/wasi-sdk-pthread.cmake")) ∧
        Path.LiesIn (t.projectDir / l.wasiSdk) (.ofString (Native.wasiSdk l ++ "/"))) ∧
      Path.LiesIn (t.projectDir / l.wasiSdk)
        (.ofString (Native.wasiSdk l ++ "/share/wasi-sysroot")) := by
  have hconfig : (Native.config t l).result host s = .ok (Native.configFor t l) := by
    rw [Native.result_config, Native.configOf, if_neg (by simp [hwasi])]
    rfl
  have htoolchain : CMake.lastValue? "CMAKE_TOOLCHAIN_FILE" (Native.configFor t l).definitions =
      if t.isCross then some (Native.wasiSdk l ++ "/share/cmake/wasi-sdk-pthread.cmake")
      else none := by
    rw [Native.configFor, Native.lastValue?_platform (by decide), hwasi]
    rfl
  have hsdk : CMake.lastValue? "WASI_SDK_PREFIX" (Native.configFor t l).definitions =
      if t.isCross then some (Native.wasiSdk l ++ "/") else none := by
    rw [Native.configFor, Native.lastValue?_platform (by decide), hwasi]
    rfl
  have hentry : Native.toolchainEntry? t l = some l.wasiSdk := by
    rw [Native.toolchainEntry?, hwasi]
  constructor
  · intro h
    obtain ⟨generator, hcall⟩ : ∃ generator,
        (Bindings.call t l .here .here).result host s = .ok generator := by
      unfold Bindings.call Bindings.sysrootArguments
      rw [hwasi]
      exact ⟨_, rfl⟩
    have hsysroot := h.sysroot hwasi _ _ _ hcall
    rw [Bindings.sysroots_call_wasi hwasi hcall, List.forall_mem_singleton] at hsysroot
    refine ⟨fun hcross => ?_, hsysroot⟩
    rw [if_pos hcross] at htoolchain hsdk
    obtain ⟨entry, hfound, hlies⟩ := h.toolchain (by simp [hwasi]) _ hconfig _ htoolchain
    obtain rfl := Option.some.inj (hentry.symm.trans hfound)
    exact ⟨hlies, h.sdk _ hconfig _ hsdk⟩
  · rintro ⟨hdefined, hsysroot⟩
    refine ⟨fun c hc => ?_, fun _ c hc file hfile => ?_, fun c hc folder hfolder => ?_, ?_⟩
    · rw [Native.eq_configFor hc]
      exact Path.liesIn_refl _
    · rw [Native.eq_configFor hc, htoolchain] at hfile
      split at hfile
      · rename_i hcross
        cases hfile
        exact ⟨_, hentry, (hdefined hcross).1⟩
      · cases hfile
    · rw [Native.eq_configFor hc, hsdk] at hfolder
      split at hfolder
      · rename_i hcross
        cases hfolder
        exact (hdefined hcross).2
      · cases hfolder
    · intro _ root output generator hcall
      rw [Bindings.sysroots_call_wasi hwasi hcall, List.forall_mem_singleton]
      exact hsysroot

/-- The SDK for WASI is sought where the layout says: its entry is absolute. An empty entry makes
paths from the root, which is right only if the project happens to lie there. -/
def HasPlacedSdk (t : Target) (l : Layout) : Prop :=
  (Path.ofString l.wasiSdk).isAbsolute = true ∨
    l.wasiSdk = "" ∧
      if t.isCross then t.projectDir.parts = []
      else t.projectDir.parts <+: ["share", "wasi-sysroot"]

/-- Every path of the layout is seen from the folder of the project, unless the build is one for
WASI with a relative entry for the SDK. -/
theorem the_layout_is_followed_iff (host : Host) (s : Session) (l : Layout)
    (hproject : t.projectDir.isAbsolute = true) :
    FollowsLayout host s t l ↔ (t.platform = .wasi → HasPlacedSdk t l) := by
  by_cases hwasi : t.platform = .wasi
  · have hfile := Native.liesIn_sdk_iff hproject l
      (show "/share/cmake/wasi-sdk-pthread.cmake" = "/" ++ "share/cmake/wasi-sdk-pthread.cmake"
        by decide)
    have hfolder := Native.liesIn_sdk_iff hproject l (show "/" = "/" ++ "" by decide)
    have hsysroot := Native.liesIn_sdk_iff hproject l
      (show "/share/wasi-sysroot" = "/" ++ "share/wasi-sysroot" by decide)
    have hroot : (Path.ofString "").parts = [] := by decide
    have hshare : (Path.ofString "share/wasi-sysroot").parts = ["share", "wasi-sysroot"] := by
      decide
    rw [followsLayout_wasi_iff hwasi, hfile, hfolder, hsysroot, hroot, hshare, List.prefix_nil,
      forall_prop_of_true hwasi, HasPlacedSdk]
    by_cases habsolute : (Path.ofString l.wasiSdk).isAbsolute = true
    · simp [habsolute]
    · cases hcross : t.isCross with
      | false => simp [habsolute]
      | true =>
        by_cases hnone : t.projectDir.parts = []
        · simp [habsolute, hnone]
        · simp [habsolute, hnone]
  · exact iff_of_true (followsLayout_of_ne_wasi hwasi) fun h => absurd h hwasi

/-- A build on Linux for Linux on another architecture. -/
def armTarget : Target :=
  { linuxTarget with
    architecture := "aarch64"
    triple := "aarch64-unknown-linux-gnu" }

/-- The toolchain file of such a build is sought in the project if the entry is relative. -/
theorem a_relative_toolchain_folder_is_sought_in_the_project :
    FollowsLayout silentTools { disk := .empty } armTarget
        { Layout.default with toolchainDir := "toolchains" } ∧
      ∃ c file, (Native.config armTarget
          { Layout.default with toolchainDir := "toolchains" }).result
          silentTools { disk := .empty } = .ok c ∧
        CMake.lastValue? "CMAKE_TOOLCHAIN_FILE" c.definitions = some file ∧
        Path.LiesIn (.ofString "/crate/toolchains") (.ofString file) := by
  have hfollows : FollowsLayout silentTools { disk := .empty } armTarget
      { Layout.default with toolchainDir := "toolchains" } :=
    (the_layout_is_followed_iff silentTools { disk := .empty } _ (by decide)).2
      fun hwasi => absurd hwasi (by decide)
  have hconfig := Native.result_config silentTools { disk := .empty } armTarget
    { Layout.default with toolchainDir := "toolchains" }
  obtain ⟨entry, hentry, hlies⟩ := hfollows.toolchain (by decide) _ hconfig
    "/crate/toolchains/aarch64-linux.cmake" (by decide +kernel)
  obtain rfl : "toolchains" = entry := Option.some.inj hentry
  exact ⟨hfollows, _, _, hconfig, by decide +kernel, hlies⟩

/-- A build on Linux for WASI. -/
def wasiTarget : Target :=
  { linuxTarget with
    architecture := "wasm32"
    system := "wasi"
    triple := "wasm32-wasi"
    environment := "" }

/-- A relative entry for the SDK is handed on as it is, and CMake takes it from wherever it
runs. -/
theorem a_relative_sdk_is_not_sought_in_the_project :
    ¬FollowsLayout silentTools { disk := .empty } wasiTarget
      { Layout.default with wasiSdk := "sdk" } := by
  intro h
  have hconfig := Native.result_config silentTools { disk := .empty } wasiTarget
    { Layout.default with wasiSdk := "sdk" }
  have hlies := h.sdk _ hconfig "sdk/" (by decide +kernel)
  exact absurd hlies.1 (by decide)

end CrossBuild
