-- The system headers of the bindings and the parameters of the library. Each side
-- goes through the platforms by itself, and bindings that are made from other
-- headers than the library do not fit it, so the two have to name the same ones.
import CrossBuild.Proofs.StepScripts
import CrossBuild.Proofs.Texts

namespace CrossBuild

open Job

variable {host : Host} {s s' : Session} {t : Target} {l : Layout}

/-! ## The arguments of the compiler -/

/-- The options of the compiler that take the next argument as their value. -/
def Bindings.valueOptions : List String :=
  ["-isysroot", "--sysroot", "-target", "-I", "-include"]

/-- The options that say where the system headers are. -/
def Bindings.sysrootOptions : List String := ["-isysroot", "--sysroot"]

/-- The options with a value among arguments of the compiler, read from left to right. -/
def Bindings.optionsOf : List String → List (String × String)
  | option :: value :: rest =>
    if valueOptions.contains option then (option, value) :: optionsOf rest
    else optionsOf (value :: rest)
  | _ => []

namespace Call

/-- The arguments that the generator hands on to the compiler: those after the file that it
writes, its input, and two dashes. -/
def compilerArguments (c : Call) : List String :=
  (c.arguments.dropWhile (· ≠ "--output")).drop 4

/-- The system headers that the compiler is told of, each with the option that does so. -/
def sysroots (c : Call) : List (String × String) :=
  (Bindings.optionsOf c.compilerArguments).filter fun o => Bindings.sysrootOptions.contains o.1

end Call

namespace Bindings

theorem optionsOf_cons {option : String} (h : option ∈ valueOptions) (value : String)
    (rest : List String) :
    optionsOf (option :: value :: rest) = (option, value) :: optionsOf rest := by
  rw [optionsOf, if_pos (by simpa using h)]

/-- Any other argument is no option with a value. -/
theorem optionsOf_cons_of_not_mem {flag : String} (h : flag ∉ valueOptions)
    (rest : List String) : optionsOf (flag :: rest) = optionsOf rest := by
  cases rest with
  | nil => simp [optionsOf]
  | cons value rest => rw [optionsOf, if_neg (by simpa using h)]

theorem optionsOf_includes (paths : List Path) :
    optionsOf (paths.flatMap fun path => ["-include", path.text]) =
      paths.map fun path => ("-include", path.text) := by
  induction paths with
  | nil => rfl
  | cons path rest ih =>
    rw [List.flatMap_cons, List.cons_append, List.cons_append, List.nil_append,
      optionsOf_cons (by decide), ih, List.map_cons]

/-- The arguments that tell the compiler of the headers of the library. -/
def libraryArguments (t : Target) (root : Path) : List String :=
  ["-I", root.text] ++
    (headerPaths root (t.enables .fips)).dropLast.flatMap fun path => ["-include", path.text]

/-- Whatever the headers of the library are called, they are not read as system headers. -/
theorem sysroots_libraryArguments (t : Target) (root : Path) :
    (optionsOf (libraryArguments t root)).filter (fun o => sysrootOptions.contains o.1) = [] := by
  unfold libraryArguments
  rw [List.cons_append, List.cons_append, List.nil_append, optionsOf_cons (by decide),
    optionsOf_includes, List.filter_eq_nil_iff]
  intro o ho
  have hname : o.1 = "-I" ∨ o.1 = "-include" := by
    rcases List.mem_cons.1 ho with rfl | ho
    · exact Or.inl rfl
    · obtain ⟨path, -, rfl⟩ := List.mem_map.1 ho
      exact Or.inr rfl
  rcases hname with hname | hname <;> rw [hname] <;> decide

/-- The compiler gets the system headers that were found and then the headers of the library. -/
theorem compilerArguments_generatorCall (root output : Path) (sysroot : List String) :
    (generatorCall t l root output sysroot).compilerArguments =
      sysroot ++ libraryArguments t root := by
  have hheaders : headersFor (t.enables .fips) ≠ [] := by
    cases t.enables .fips <;> decide
  unfold Call.compilerArguments generatorCall headerArguments libraryArguments
  rw [List.append_assoc, List.cons_append, Text.dropWhile_ne_append (output_not_mem_flags t)]
  cases hinput : (headerPaths root (t.enables .fips)).getLast? with
  | none => simp [headerPaths, hheaders] at hinput
  | some input => simp

theorem sysroots_generatorCall (root output : Path) (sysroot : List String) :
    (generatorCall t l root output sysroot).sysroots =
      (optionsOf (sysroot ++ libraryArguments t root)).filter
        fun o => sysrootOptions.contains o.1 := by
  unfold Call.sysroots
  rw [compilerArguments_generatorCall]

/-- Without system headers of the target the generator is told of none. -/
theorem sysroots_generatorCall_nil (root output : Path) :
    (generatorCall t l root output []).sysroots = [] := by
  rw [sysroots_generatorCall, List.nil_append, sysroots_libraryArguments]

theorem sysroots_generatorCall_folder (root output : Path) (folder : String) :
    (generatorCall t l root output ["--sysroot", folder]).sysroots = [("--sysroot", folder)] := by
  rw [sysroots_generatorCall, List.cons_append, List.cons_append, List.nil_append,
    optionsOf_cons (by decide), List.filter_cons_of_pos (by simp [sysrootOptions]),
    sysroots_libraryArguments]

/-- The further arguments of a build for WASI name no system headers. -/
theorem sysroots_generatorCall_wasi (root output : Path) (folder triple : String) :
    (generatorCall t l root output
      ["--sysroot", folder, "-target", triple, "-fvisibility=default"]).sysroots =
        [("--sysroot", folder)] := by
  rw [sysroots_generatorCall]
  simp only [List.cons_append, List.nil_append]
  rw [optionsOf_cons (by decide), optionsOf_cons (by decide),
    optionsOf_cons_of_not_mem (by decide), List.filter_cons_of_pos (by simp [sysrootOptions]),
    List.filter_cons_of_neg (by simp [sysrootOptions]), sysroots_libraryArguments]

end Bindings

/-! ## The SDK of an Apple target -/

/-- The tables name one SDK for a target, so that the first and the last one are the same. -/
theorem Parameters.lastValue?_forApple (triple : String) :
    CMake.lastValue? "CMAKE_OSX_SYSROOT" (forApple triple) =
      (forApple triple).lookup "CMAKE_OSX_SYSROOT" := by
  have htable : ∀ entry ∈ apple, CMake.lastValue? "CMAKE_OSX_SYSROOT" entry.2 =
      entry.2.lookup "CMAKE_OSX_SYSROOT" := by decide
  unfold forApple
  cases h : apple.lookup triple with
  | none => rfl
  | some params => exact htable (triple, params) (Native.mem_of_lookup h)

namespace Native

/-- The definitions of a cross build are those of its platform after those of the tables. -/
theorem lastValue?_definitionsFor (hcross : t.isCross = true) (name : String) :
    CMake.lastValue? name (definitionsFor t l) =
      (CMake.lastValue? name (platformDefinitions t l t.platform)).or
        (CMake.lastValue? name (tableParameters t t.platform)) := by
  unfold definitionsFor
  rw [if_pos hcross, CMake.lastValue?_append]

/-- No platform defines the SDK besides the tables. -/
theorem lastValue?_sysroot_platformDefinitions (t : Target) (l : Layout) (platform : Platform) :
    CMake.lastValue? "CMAKE_OSX_SYSROOT" (platformDefinitions t l platform) = none := by
  rw [CMake.lastValue?_eq_none]
  intro d hd hname
  have hlisted := mem_platformNames_of_mem_platformDefinitions hd
  rw [hname] at hlisted
  exact absurd hlisted (by decide)

/-- An Apple target is built with the SDK that its name is looked up for. -/
theorem lastValue?_sysroot_definitionsFor (hcross : t.isCross = true)
    (happle : t.platform = .macos ∨ t.platform = .ios) {sdk : String}
    (hsdk : appleSdk t.triple = .ok sdk) :
    CMake.lastValue? "CMAKE_OSX_SYSROOT" (definitionsFor t l) = some sdk := by
  have htable : tableParameters t t.platform = .forApple t.triple := by
    rcases happle with h | h <;> rw [h] <;> rfl
  rw [lastValue?_definitionsFor hcross, lastValue?_sysroot_platformDefinitions, Option.none_or,
    htable, Parameters.lastValue?_forApple]
  unfold appleSdk at hsdk
  cases hlookup : (Parameters.forApple t.triple).lookup "CMAKE_OSX_SYSROOT" with
  | none => simp [hlookup] at hsdk
  | some found =>
    rw [hlookup] at hsdk
    cases hsdk
    rfl

end Native

/-! ## The call of the generator -/

namespace Bindings

/-- The call of the generator for an Apple target is made with one search, that for its SDK. -/
theorem callsOf_call_apple (happle : t.platform = .macos ∨ t.platform = .ios)
    {root output : Path} {c : Call} (h : (call t l root output).result host s = .ok c) :
    ∃ sdk, appleSdk t.triple = .ok sdk ∧
      callsOf ((call t l root output).events host s) = [sdkCall sdk l.xcrun] := by
  obtain ⟨sysroot, hsysroot, -⟩ := exists_of_result_call h
  obtain ⟨sdk, hsdk⟩ : ∃ sdk, appleSdk t.triple = .ok sdk := by
    cases hsdk : appleSdk t.triple with
    | ok sdk => exact ⟨sdk, rfl⟩
    | error p =>
      unfold sysrootArguments at hsysroot
      rcases happle with happle | happle <;>
        simp [happle, hsdk, result_bind, mapError_error] at hsysroot
  have hfollows : Follows (fun _ => False) ((sdkCalls t l sdk).map .started) (call t l root output)
      host s := by
    have hsearch : Follows (fun _ => False) ((sdkCalls t l sdk).map .started)
        (sysrootArguments t l) host s :=
      follows_sysrootArguments (fun name hname => Except.ok.inj (hsdk.symm.trans hname)) id
    unfold call
    rw [← List.append_nil ((sdkCalls t l sdk).map Event.started)]
    exact hsearch.bind fun _ _ => follows_pure _
  refine ⟨sdk, hsdk, ?_⟩
  rw [← callsOf_effectsOf, hfollows.complete c h, callsOf_map_started]
  unfold sdkCalls
  rw [if_pos happle.symm]

/-- The generator for Android reads the headers of the toolchain that is found in the NDK. -/
theorem sysroots_call_android (handroid : t.platform = .android) {root output : Path} {c : Call}
    (h : (call t l root output).result host s = .ok c) :
    ∃ home toolchain, t.ndkHome = some home ∧
      (Ndk.locate (Ndk.prebuiltDir home)).result host s = .ok toolchain ∧
      c.sysroots = [("--sysroot", (Ndk.prebuiltDir home / toolchain / "sysroot").text)] := by
  obtain ⟨sysroot, hsysroot, rfl⟩ := exists_of_result_call h
  unfold sysrootArguments at hsysroot
  rw [handroid] at hsysroot
  obtain ⟨home, hhome, hsysroot⟩ := result_bind_eq_ok.1 hsysroot
  obtain ⟨toolchain, htoolchain, hsysroot⟩ := result_bind_eq_ok.1 hsysroot
  cases hsysroot
  rw [left_get] at htoolchain
  refine ⟨home, toolchain, ?_, htoolchain, sysroots_generatorCall_folder _ _ _⟩
  unfold Target.requireNdkHome at hhome
  cases hndk : t.ndkHome with
  | none =>
    rw [hndk] at hhome
    cases hhome
  | some home' =>
    rw [hndk] at hhome
    cases hhome
    rfl

theorem sysroots_call_wasi (hwasi : t.platform = .wasi) {root output : Path} {c : Call}
    (h : (call t l root output).result host s = .ok c) :
    c.sysroots = [("--sysroot", Native.wasiSdk l ++ "/share/wasi-sysroot")] := by
  obtain ⟨sysroot, hsysroot, rfl⟩ := exists_of_result_call h
  unfold sysrootArguments at hsysroot
  rw [hwasi] at hsysroot
  cases hsysroot
  exact sysroots_generatorCall_wasi _ _ _ _

/-- The generator for a target of another platform reads the headers of the host. -/
theorem sysroots_call_other (hother : t.platform ∉ [.macos, .ios, .android, .wasi])
    {root output : Path} {c : Call} (h : (call t l root output).result host s = .ok c) :
    c.sysroots = [] := by
  obtain ⟨sysroot, hsysroot, rfl⟩ := exists_of_result_call h
  have hnone : sysroot = [] := by
    unfold sysrootArguments at hsysroot
    cases hplatform : t.platform with
    | windows | linux | other =>
      rw [hplatform] at hsysroot
      exact (Except.ok.inj hsysroot).symm
    | macos | ios | android | wasi => simp [hplatform] at hother
  rw [hnone, sysroots_generatorCall_nil]

end Bindings

/-! ## Both sides -/

namespace Bindings

variable {root output : Path} {c : CMake.Config} {generator : Call}

/-- The generator reads the system headers that the library is built with: those of the same SDK
for an Apple target, those of the same NDK for Android and those of the same SDK for WASI. For
any other target it is told of none. -/
theorem the_bindings_see_the_sysroot_of_the_build (hcross : t.isCross = true)
    (hconfig : (Native.config t l).result host s = .ok c)
    (hcall : (call t l root output).result host s' = .ok generator) :
    (t.platform = .macos ∨ t.platform = .ios →
      ∃ sdk, CMake.lastValue? "CMAKE_OSX_SYSROOT" c.definitions = some sdk ∧
        callsOf ((call t l root output).events host s') = [sdkCall sdk l.xcrun]) ∧
    (t.platform = .android →
      ∃ home toolchain, t.ndkHome = some home ∧
        (Ndk.locate (Ndk.prebuiltDir home)).result host s' = .ok toolchain ∧
        CMake.lastValue? "CMAKE_TOOLCHAIN_FILE" c.definitions =
          some (home / "build" / "cmake" / "android.toolchain.cmake").text ∧
        generator.sysroots =
          [("--sysroot",
            (home / "toolchains" / "llvm" / "prebuilt" / toolchain / "sysroot").text)]) ∧
    (t.platform = .wasi →
      ∃ sdk slashes, l.wasiSdk = sdk ++ slashes ∧ (∀ c ∈ slashes.toList, c = '/') ∧
        Text.endsWith sdk "/" = false ∧
        CMake.lastValue? "CMAKE_TOOLCHAIN_FILE" c.definitions =
          some (sdk ++ "/share/cmake/wasi-sdk-pthread.cmake") ∧
        CMake.lastValue? "WASI_SDK_PREFIX" c.definitions = some (sdk ++ "/") ∧
        generator.sysroots = [("--sysroot", sdk ++ "/share/wasi-sysroot")]) ∧
    (t.platform ∉ [.macos, .ios, .android, .wasi] → generator.sysroots = []) := by
  have hdefinitions : c.definitions = Native.definitionsFor t l := by
    rw [Native.eq_configFor hconfig]
    rfl
  rw [hdefinitions]
  refine ⟨fun happle => ?_, fun handroid => ?_, fun hwasi => ?_, fun hother => ?_⟩
  · obtain ⟨sdk, hsdk, hcalls⟩ := callsOf_call_apple happle hcall
    exact ⟨sdk, Native.lastValue?_sysroot_definitionsFor hcross happle hsdk, hcalls⟩
  · obtain ⟨home, toolchain, hhome, hlocate, hsysroots⟩ := sysroots_call_android handroid hcall
    refine ⟨home, toolchain, hhome, hlocate, ?_, hsysroots⟩
    rw [Native.lastValue?_definitionsFor hcross, handroid]
    simp only [Native.platformDefinitions, hhome]
    rfl
  · obtain ⟨slashes, hsdk, hslashes, hend⟩ := Text.exists_trimEndSlashes l.wasiSdk
    refine ⟨Native.wasiSdk l, slashes, hsdk, hslashes, hend, ?_, ?_, sysroots_call_wasi hwasi hcall⟩
    · rw [Native.lastValue?_definitionsFor hcross, hwasi]
      rfl
    · rw [Native.lastValue?_definitionsFor hcross, hwasi]
      rfl
  · exact sysroots_call_other hother hcall

/-- A build for Android on a Linux machine. -/
def androidTarget : Target :=
  { linuxTarget with
    architecture := "aarch64"
    system := "android"
    triple := "aarch64-linux-android"
    ndkHome := some (.ofString "/ndk") }

/-- A disk with an NDK for Macs. -/
def macNdkDisk : Disk := ⟨.folder [("ndk", .folder [("toolchains", .folder [("llvm",
  .folder [("prebuilt", .folder [("README", .file .empty), ("darwin-x86_64", .folder [])])])])])]⟩

/-- The library and the bindings for Android are both made from the one NDK that is there. -/
theorem an_android_build_uses_one_ndk :
    ∃ c generator,
      (Native.config androidTarget .default).result silentTools { disk := .empty } = .ok c ∧
      (call androidTarget .default (.ofString "/include") (.ofString "/out/tmp")).result silentTools
        { disk := macNdkDisk } = .ok generator ∧
      CMake.lastValue? "CMAKE_TOOLCHAIN_FILE" c.definitions =
        some "/ndk/build/cmake/android.toolchain.cmake" ∧
      generator.sysroots =
        [("--sysroot", "/ndk/toolchains/llvm/prebuilt/darwin-x86_64/sysroot")] := by
  have hresult : ((call androidTarget .default (.ofString "/include")
      (.ofString "/out/tmp")).result silentTools { disk := macNdkDisk }).isOk = true := by
    decide +kernel
  obtain ⟨generator, hcall⟩ := exists_of_isOk hresult
  have hconfig : (Native.config androidTarget .default).result silentTools { disk := .empty } =
      .ok (Native.configFor androidTarget .default) := by
    rw [Native.result_config]
    rfl
  obtain ⟨-, handroid, -⟩ := the_bindings_see_the_sysroot_of_the_build rfl hconfig hcall
  obtain ⟨home, toolchain, hhome, hlocate, hfile, hsysroots⟩ := handroid rfl
  cases hhome
  cases hlocate
  refine ⟨_, _, hconfig, hcall, ?_, ?_⟩
  · rw [hfile]
    decide +kernel
  · rw [hsysroots]
    decide +kernel

end Bindings

end CrossBuild
