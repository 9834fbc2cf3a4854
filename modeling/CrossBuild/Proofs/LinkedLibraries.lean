-- What is linked is what was built. The steps that build the libraries and the
-- directives that link them work out the libraries, the folder and the profile each
-- on their own, and in a run that succeeds they agree.
import CrossBuild.Proofs.RunOrder

namespace CrossBuild

open Job

variable {host : Host} {s : Session} {t : Target} {l : Layout}

/-! ## Building and linking among calls and directives -/

namespace Call

/-- The call builds a library of a configured tree. -/
def Builds (c : Call) (library : String) : Prop :=
  ["--build", ".", "--target", library] <+: c.arguments

/-- All the values that a configure command gives to a name. -/
def valuesOf (c : Call) (name : String) : List String :=
  ((CMake.definitionsOf c.arguments.tail).filter fun d => d.1 = name).map (·.2)

theorem Builds.isBuild {c : Call} {library : String} (h : c.Builds library) :
    c.isBuild = true := by
  obtain ⟨rest, hrest⟩ := h
  unfold Call.isBuild
  rw [← hrest, List.isPrefixOf_iff_prefix]
  exact ⟨library :: rest, rfl⟩

end Call

/-- Where the linker finds a library that was built in a folder: compilers of the MSVC family
have a folder for each profile. -/
def Link.libraryFolder (folder : Path) (library environment profile : String) : Path :=
  if environment = "msvc" then folder / library / profile else folder / library

/-- A log of building and linking with one profile throughout: what is linked is what was built,
and the linker has been told before where that is. -/
structure LinksWhatIsBuilt (log : List Event) (environment profile : String) : Prop where
  linked : ∀ library, .linkStatic library ∈ directivesOf log ↔
    ∃ call ∈ callsOf log, call.Builds library
  configuration : ∀ call ∈ callsOf log, ∀ call' ∈ callsOf log,
    call.isConfigure = true → call'.isConfigure = true → call = call'
  configured : ∀ call ∈ callsOf log, call.isConfigure = true →
    call.valuesOf "CMAKE_BUILD_TYPE" = [profile]
  built : ∀ call ∈ callsOf log, call.isBuild = true →
    ∃ library, call.arguments = ["--build", ".", "--target", library, "--config", profile]
  searched : ∀ before library after, directivesOf log = before ++ .linkStatic library :: after →
    ∀ call ∈ callsOf log, call.Builds library → ∃ folder, call.folder = some folder ∧
      .linkSearch (Link.libraryFolder folder library environment profile).text ∈ before

/-! ## The libraries of a plan -/

theorem Path.div_empty (p : Path) : p / "" = p := Path.ext rfl (List.append_nil _)

namespace Native

/-- The libraries of a target, in the order in which they are built. -/
def libraries (t : Target) : List String := (if t.enables .ssl then ["ssl"] else []) ++ ["crypto"]

theorem mem_libraryCalls {c : CMake.Config} {profile : String} {call : Call} :
    call ∈ libraryCalls t l c profile ↔ ∃ library ∈ libraries t,
      call ∈ CMake.libraryCalls c library t.outDir profile l.cmake := by
  unfold libraryCalls libraries
  cases t.enables .ssl <;> simp

/-- A complete configuration leaves it to the profile what is built. -/
theorem IsComplete.not_defines_buildType {c : CMake.Config} (h : IsComplete t l c) :
    ∀ d ∈ c.definitions, d.1 ≠ "CMAKE_BUILD_TYPE" := by
  have htarget : ∀ d ∈ definitionsFor t l, d.1 ≠ "CMAKE_BUILD_TYPE" := by
    intro d hd htype
    have hlisted := mem_names_of_mem_definitionsFor hd
    rw [htype] at hlisted
    exact absurd hlisted (by decide)
  have hfuzzing : (withFuzzing t (configFor t l)).definitions = definitionsFor t l := by
    rw [withFuzzing_configFor]
    rfl
  rcases h with rfl | ⟨compilers, rfl⟩
  · rw [hfuzzing]
    exact htarget
  · rw [definitions_withCompilers, hfuzzing]
    intro d hd
    rcases List.mem_append.1 hd with hd | hd
    · exact htarget d hd
    · simp only [compilerDefinitions, List.mem_cons, List.not_mem_nil, or_false] at hd
      rcases hd with rfl | rfl | rfl | rfl <;> simp

theorem IsComplete.valuesOf_buildType {c : CMake.Config} (h : IsComplete t l c) (outDir : Path)
    (profile program : String) :
    (CMake.configureCall c outDir profile program).valuesOf "CMAKE_BUILD_TYPE" = [profile] := by
  have hdefined : c.isDefined "CMAKE_BUILD_TYPE" = false := by
    unfold CMake.Config.isDefined
    simpa using h.not_defines_buildType
  have hdefinitions : c.definitions.filter (fun d => d.1 = "CMAKE_BUILD_TYPE") = [] := by
    simpa using h.not_defines_buildType
  have hflags (name : String) (flags : List String) (hname : name ≠ "CMAKE_BUILD_TYPE") :
      (c.flagsDefinition name flags).filter (fun d => d.1 = "CMAKE_BUILD_TYPE") = [] := by
    unfold CMake.Config.flagsDefinition
    split <;> simp [hname]
  have hprofile : c.profileDefinition profile = [("CMAKE_BUILD_TYPE", profile)] := by
    unfold CMake.Config.profileDefinition
    rw [hdefined, if_neg Bool.false_ne_true]
  unfold Call.valuesOf CMake.configureCall
  rw [c.definitionsOf_configureArguments h.noEqualsSign]
  simp only [List.filter_append, hdefinitions, hflags _ _ (by decide : "CMAKE_C_FLAGS" ≠ _),
    hflags _ _ (by decide : "CMAKE_CXX_FLAGS" ≠ _), hprofile]
  rfl

end Native

/-! ## CMake -/

namespace CMake

theorem builds_buildCall {library library' profile program : String} {outDir : Path} :
    (buildCall library outDir profile program).Builds library' ↔ library' = library := by
  simp [Call.Builds, buildCall, buildArguments]

theorem isBuild_configureCall {c : Config} {outDir : Path} {profile program : String} :
    (configureCall c outDir profile program).isBuild = false := by
  have hdot (value : String) : "." ≠ Config.defineArgument "CMAKE_INSTALL_PREFIX" value := by
    intro h
    have hchars := congrArg String.toList h
    simp [Config.defineArgument] at hchars
  unfold Call.isBuild
  rw [Bool.eq_false_iff, Ne, List.isPrefixOf_iff_prefix]
  rintro h
  obtain ⟨-, h⟩ := List.cons_prefix_cons.1 h
  exact hdot _ (List.cons_prefix_cons.1 h).1

end CMake

/-! ## The plan -/

theorem Compilers.Probes.exists_eq {candidates : List Compilers} {probes : List Call}
    (h : Probes candidates probes) : ∀ call ∈ probes, ∃ tool, call = probe tool := by
  induction h with
  | nil => nofun
  | last c rest => exact List.forall_mem_singleton.2 ⟨c.c, rfl⟩
  | pair c rest =>
    exact List.forall_mem_cons.2 ⟨⟨c.c, rfl⟩, List.forall_mem_singleton.2 ⟨c.cxx, rfl⟩⟩
  | next c h ih => exact List.forall_mem_cons.2 ⟨⟨c.c, rfl⟩, ih⟩

theorem Directive.linkStatic_inj {library library' : String} :
    linkStatic library = linkStatic library' ↔ library = library' := by
  constructor
  · intro h
    have hchars := congrArg (fun d => d.value.toList) h
    exact String.toList_inj.1 (by simpa [linkStatic] using hchars)
  · exact congrArg linkStatic

theorem Link.linkStatic_mem (root : Path) (subdir : String) {library : String} :
    .linkStatic library ∈ linkDirectives root subdir t ↔ library ∈ Native.libraries t := by
  have hsearch (folder : String) : Directive.linkStatic library ≠ .linkSearch folder := by
    simp [Directive.linkStatic, Directive.linkSearch]
  have hargument (argument : String) : Directive.linkStatic library ≠ .cdylibLinkArg argument := by
    simp [Directive.linkStatic, Directive.cdylibLinkArg]
  unfold linkDirectives searchDirectives Native.libraries
  cases t.enables .ssl <;> by_cases hmac : t.platform = .macos <;>
    simp [hmac, hsearch, hargument, Directive.linkStatic_inj, or_comm, eq_comm]

namespace Plan

variable {p : Plan} {call : Call}

theorem Fits.exists_probe (hfits : p.Fits host s t l) (h : call ∈ p.probes) :
    ∃ tool, call = Compilers.probe tool := by
  have hprobes := hfits.probes
  split at hprobes
  · exact hprobes.exists_eq call h
  · rw [hprobes] at h
    cases h

/-- Only the calls that build the libraries look like calls of CMake. -/
theorem Fits.mem_libraryCalls (hfits : p.Fits host s t l) (h : call ∈ p.calls t l)
    (hcmake : call.isConfigure = true ∨ call.isBuild = true) :
    call ∈ Native.libraryCalls t l p.config p.profile := by
  unfold calls nativeCalls bindingCalls at h
  rcases List.mem_append.1 h with h | h
  · split at h
    · cases h
    · rw [List.append_assoc] at h
      rcases List.mem_append.1 h with h | h
      · split at h
        · rw [List.mem_singleton.1 h] at hcmake
          rcases hcmake with hcmake | hcmake <;> cases hcmake
        · cases h
      · rcases List.mem_append.1 h with h | h
        · obtain ⟨tool, rfl⟩ := hfits.exists_probe h
          rcases hcmake with hcmake | hcmake <;> cases hcmake
        · exact h
  · rcases List.mem_append.1 h with h | h
    · unfold Bindings.sdkCalls at h
      split at h
      · rw [List.mem_singleton.1 h] at hcmake
        rcases hcmake with hcmake | hcmake <;> cases hcmake
      · cases h
    · rw [List.mem_singleton.1 h] at hcmake
      rcases hcmake with hcmake | hcmake <;> cases hcmake

theorem Fits.eq_configureCall (hfits : p.Fits host s t l) (h : call ∈ p.calls t l)
    (hconfigure : call.isConfigure = true) :
    call = CMake.configureCall p.config t.outDir p.profile l.cmake := by
  obtain ⟨library, -, hcall⟩ :=
    Native.mem_libraryCalls.1 (hfits.mem_libraryCalls h (Or.inl hconfigure))
  rcases List.mem_cons.1 hcall with rfl | hcall
  · rfl
  · rw [List.mem_singleton.1 hcall] at hconfigure
    cases hconfigure

theorem Fits.exists_eq_buildCall (hfits : p.Fits host s t l) (h : call ∈ p.calls t l)
    (hbuild : call.isBuild = true) :
    ∃ library ∈ Native.libraries t,
      call = CMake.buildCall library t.outDir p.profile l.cmake := by
  obtain ⟨library, hlibrary, hcall⟩ :=
    Native.mem_libraryCalls.1 (hfits.mem_libraryCalls h (Or.inr hbuild))
  rcases List.mem_cons.1 hcall with rfl | hcall
  · rw [CMake.isBuild_configureCall] at hbuild
    cases hbuild
  · exact ⟨library, hlibrary, List.mem_singleton.1 hcall⟩

/-- The linker looks for a library in the folder that the build has put it into. -/
theorem Fits.libraryFolder_eq (hfits : p.Fits host s t l) {profile : Profile}
    (hprofile : t.profile = .ok profile) (library : String) :
    Link.libraryFolder (CMake.buildDir t.outDir) library t.environment p.profile =
      t.outDir / "build" / library / p.subdir := by
  have hsubdir := hfits.subdir
  unfold Link.outputSubdir at hsubdir
  unfold Link.libraryFolder
  split at hsubdir
  · rename_i hmsvc
    have hnamed : p.subdir = profile.name := hsubdir profile.name (by rw [hprofile]; rfl)
    rw [if_pos hmsvc, hfits.profile profile hprofile, hnamed]
    rfl
  · rename_i hother
    rw [if_neg hother, hsubdir "" rfl, Path.div_empty]
    rfl

theorem buildCall_mem_calls (hprebuilt : t.prebuilt = none) {library : String}
    (hlibrary : library ∈ Native.libraries t) :
    CMake.buildCall library t.outDir p.profile l.cmake ∈ p.calls t l := by
  unfold calls nativeCalls
  rw [hprebuilt, Option.isSome_none, if_neg Bool.false_ne_true]
  refine List.mem_append_left _ (List.mem_append_right _ ?_)
  exact Native.mem_libraryCalls.2 ⟨library, hlibrary, List.mem_cons_of_mem _ List.mem_cons_self⟩

theorem linkStatic_mem_directives {library : String} :
    .linkStatic library ∈ p.directives t ↔ library ∈ Native.libraries t := by
  rw [← Link.linkStatic_mem (t.prebuilt.getD t.outDir) p.subdir]
  unfold directives
  by_cases hndk : t.platform = .android ∧ t.isCross = true <;> cases p.fetches <;>
    simp [hndk, Directive.linkStatic, Directive.rerunIfEnvChanged, Directive.warning]

/-- The folders of all libraries are searched before any library is linked. -/
theorem linkSearch_mem_of_linkStatic {before after : List Directive} {library : String}
    (h : p.directives t = before ++ .linkStatic library :: after) :
    ∀ library ∈ Native.libraries t,
      .linkSearch (t.prebuilt.getD t.outDir / "build" / library / p.subdir).text ∈ before := by
  let opening : List Directive := [.rerunIfEnvChanged "BORING_BSSL_PATH"] ++
    (if t.platform = .android ∧ t.isCross then [.rerunIfEnvChanged "ANDROID_NDK_HOME"] else []) ++
    (if p.fetches then [.warning "fetching boringssl git submodule"] else []) ++
    Link.searchDirectives (t.prebuilt.getD t.outDir) p.subdir
  have hnot : .linkStatic library ∉ opening := by
    by_cases hndk : t.platform = .android ∧ t.isCross = true <;> cases hfetches : p.fetches <;>
      simp [opening, hndk, hfetches, Directive.linkStatic, Directive.linkSearch,
        Directive.rerunIfEnvChanged, Directive.warning, Link.searchDirectives]
  unfold directives Link.linkDirectives at h
  simp only [List.append_assoc] at h
  rw [← List.append_assoc, ← List.append_assoc, ← List.append_assoc] at h
  obtain ⟨-, between, rfl⟩ := exists_eq_append_of_not_mem h hnot
  intro library hlibrary
  refine List.mem_append_left _ (List.mem_append_right _ (List.mem_map.2 ⟨library, ?_, rfl⟩))
  unfold Native.libraries at hlibrary
  cases hssl : t.enables .ssl <;> simp [hssl] at hlibrary
  · simp [hlibrary, Link.libraries]
  · rcases hlibrary with rfl | rfl <;> simp [Link.libraries]

end Plan

namespace Pipeline

/-- A build that succeeds has a profile. -/
theorem exists_profile_of_run {path : Path} (hprebuilt : t.prebuilt = none)
    (h : (run t l).result host s = .ok path) : ∃ profile, t.profile = .ok profile := by
  rw [run_eq hprebuilt] at h
  obtain ⟨c₀, -, h⟩ := result_bind_eq_ok.1 h
  obtain ⟨c, -, h⟩ := result_bind_eq_ok.1 h
  obtain ⟨root, h, -⟩ := result_bind_eq_ok.1 h
  obtain ⟨profile, hprofile, -⟩ := result_bind_eq_ok.1 h
  cases hp : t.profile with
  | ok p => exact ⟨p, rfl⟩
  | error e =>
    rw [hp] at hprofile
    cases hprofile

/-- In a run that builds its libraries and succeeds, what is linked is what was built, in the
folders where it was built, and with one profile. -/
theorem what_is_linked_was_built {path : Path} (host : Host) (s : Session) (t : Target)
    (l : Layout) (hprebuilt : t.prebuilt = none) (hpath : (run t l).result host s = .ok path) :
    ∃ profile, LinksWhatIsBuilt ((run t l).events host s) t.environment profile := by
  obtain ⟨p, hfits, hfollows⟩ := exists_follows_run host s t l
  obtain ⟨hdirectives, hcalls⟩ := eq_of_run_ok hfits hfollows hpath
  obtain ⟨profile, hprofile⟩ := exists_profile_of_run hprebuilt hpath
  refine ⟨p.profile, ?_, ?_, ?_, ?_, ?_⟩ <;> rw [hcalls] <;> try rw [hdirectives]
  · intro library
    rw [Plan.linkStatic_mem_directives]
    constructor
    · intro hlibrary
      exact ⟨_, Plan.buildCall_mem_calls hprebuilt hlibrary, CMake.builds_buildCall.2 rfl⟩
    · rintro ⟨call, hcall, hbuilds⟩
      obtain ⟨library', hlibrary, rfl⟩ := hfits.exists_eq_buildCall hcall hbuilds.isBuild
      rwa [CMake.builds_buildCall.1 hbuilds]
  · intro call hcall call' hcall' hconfigure hconfigure'
    rw [hfits.eq_configureCall hcall hconfigure, hfits.eq_configureCall hcall' hconfigure']
  · intro call hcall hconfigure
    rw [hfits.eq_configureCall hcall hconfigure]
    exact hfits.config.valuesOf_buildType _ _ _
  · intro call hcall hbuild
    obtain ⟨library, -, rfl⟩ := hfits.exists_eq_buildCall hcall hbuild
    exact ⟨library, rfl⟩
  · intro before library after hsplit call hcall hbuilds
    obtain ⟨library', hlibrary, rfl⟩ := hfits.exists_eq_buildCall hcall hbuilds.isBuild
    refine ⟨_, rfl, ?_⟩
    have hsearched := Plan.linkSearch_mem_of_linkStatic hsplit library' hlibrary
    rw [hprebuilt] at hsearched
    rw [CMake.builds_buildCall.1 hbuilds]
    rw [hfits.libraryFolder_eq hprofile]
    exact hsearched

/-- A build of both libraries for the machine that it runs on. -/
def sslTarget : Target := { linuxTarget with features := ⟨["ssl"]⟩ }

/-- A machine on which all tools end well and the generator writes its file. -/
def wellEquipped : Host where
  cwd := .ofString "/"
  tools _ call :=
    .ended { written := (call.outputPath?.map fun path => (path, "bindings")).toList }

theorem both_libraries_are_linked :
    ∃ profile, LinksWhatIsBuilt ((run sslTarget .default).events wellEquipped { disk := .empty })
        sslTarget.environment profile ∧
      .linkStatic "ssl" ∈
        directivesOf ((run sslTarget .default).events wellEquipped { disk := .empty }) := by
  have hresult : ((run sslTarget .default).result wellEquipped { disk := .empty }).isOk = true := by
    decide +kernel
  cases hpath : (run sslTarget .default).result wellEquipped { disk := .empty } with
  | error f =>
    rw [hpath] at hresult
    cases hresult
  | ok path =>
    obtain ⟨profile, hlinks⟩ :=
      what_is_linked_was_built wellEquipped { disk := .empty } sslTarget .default rfl hpath
    exact ⟨profile, hlinks, by decide +kernel⟩

end Pipeline

end CrossBuild
