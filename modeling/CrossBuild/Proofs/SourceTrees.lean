-- The source tree that the steps of a run name. Git and the generator run in the
-- folder of the run, CMake runs in the build folder, and a relative path leads both
-- of them to one place only if it goes up far enough to leave both folders.
import CrossBuild.Proofs.Disks
import CrossBuild.Proofs.LinkedLibraries
import CrossBuild.Proofs.SystemHeaders

namespace CrossBuild

open Job

variable {host : Host} {s : Session} {acts : Action → Prop} {t : Target} {l : Layout}

/-! ## Relative paths -/

namespace Path

/-- One part of a walk from a place that is not known: how many folders it goes up from there,
and the names that it goes down after that, the last one first. -/
def turn (walk : Nat × List String) (part : String) : Nat × List String :=
  if part = ".." then
    match walk with
    | (ups, []) => (ups + 1, [])
    | (ups, _ :: gone) => (ups, gone)
  else (walk.1, part :: walk.2)

/-- How many folders a path goes up from where it starts. -/
def rises (p : Path) : Nat := (p.parts.foldl turn (0, [])).1

/-- The folder that lies `n` folders above. -/
def above (p : Path) : Nat → Path
  | 0 => p
  | n + 1 => (p.above n).parent

theorem anchor_above (p : Path) (n : Nat) : (p.above n).anchor = p.anchor := by
  induction n with
  | zero => rfl
  | succ n ih => exact ih

theorem parts_above (p : Path) (n : Nat) :
    (p.above n).parts = (p.parts.reverse.drop n).reverse := by
  induction n with
  | zero => simp [above]
  | succ n ih =>
    change (p.above n).parts.dropLast = _
    rw [ih, List.dropLast_reverse, List.tail_drop]

/-- A walk from a place that is known goes up from it and down again. -/
theorem foldl_stepBack_drop (parts : List String) (walk : Nat × List String) (gone : List String) :
    parts.foldl stepBack (walk.2 ++ gone.drop walk.1) =
      (parts.foldl turn walk).2 ++ gone.drop (parts.foldl turn walk).1 := by
  induction parts generalizing walk with
  | nil => rfl
  | cons part rest ih =>
    rw [List.foldl_cons, List.foldl_cons, ← ih]
    congr 1
    unfold stepBack turn
    by_cases hpart : part = ".."
    · obtain ⟨ups, down⟩ := walk
      cases down with
      | nil => simp [hpart]
      | cons name down => simp [hpart]
    · simp [hpart]

theorem foldl_stepBack_eq (p : Path) (gone : List String) :
    p.parts.foldl stepBack gone = (p.parts.foldl turn (0, [])).2 ++ gone.drop p.rises :=
  foldl_stepBack_drop p.parts (0, []) gone

theorem here_div (p : Path) : here / p = p := by
  change here.join p = p
  unfold join
  split
  · rfl
  · rename_i h
    have hanchor : p.anchor = .here := by simpa [isAbsolute] using h
    exact Path.ext hanchor.symm (List.nil_append _)

/-- The folder that a relative path starts in is the one that it is seen from. -/
theorem target_div {cwd : Location} {p q : Path} (h : p.isAbsolute = false) :
    Disk.target cwd (q / p) = (p.parts.foldl stepBack (Disk.target cwd q).reverse).reverse := by
  have hbase : Disk.base cwd (q / p) = Disk.base cwd q := by
    unfold Disk.base
    change (if (q.join p).isAbsolute = true then [] else cwd) = _
    unfold join
    rw [h]
    rfl
  have hparts : (q / p).parts = q.parts ++ p.parts := by
    rw [Disk.parts_div, Disk.base, h, if_neg Bool.false_ne_true]
  unfold Disk.target
  rw [hbase, hparts, ← List.append_assoc, List.foldl_append, List.reverse_reverse]

/-- A relative path leads to the same place from two folders exactly if they have the folder in
common up to which it rises. -/
theorem resolve_div_eq_iff {p : Path} (h : p.isAbsolute = false) (cwd q q' : Path) :
    resolve cwd (q / p) = resolve cwd (q' / p) ↔
      (resolve cwd q).above p.rises = (resolve cwd q').above p.rises := by
  have hresolve (p q : Path) : resolve cwd p = resolve cwd q ↔
      Disk.target cwd.parts p = Disk.target cwd.parts q := by
    rw [← Disk.parts_resolve, ← Disk.parts_resolve]
    exact ⟨congrArg Path.parts, fun h => Path.ext rfl h⟩
  have habove : (resolve cwd q).above p.rises = (resolve cwd q').above p.rises ↔
      (Disk.target cwd.parts q).reverse.drop p.rises =
        (Disk.target cwd.parts q').reverse.drop p.rises := by
    rw [Path.ext_iff, anchor_above, anchor_above, parts_above, parts_above, Disk.parts_resolve,
      Disk.parts_resolve, List.reverse_inj]
    exact and_iff_right rfl
  rw [hresolve, habove, target_div h, target_div h, List.reverse_inj, foldl_stepBack_eq,
    foldl_stepBack_eq, List.append_cancel_left_eq]

end Path

/-! ## What a call takes for the source tree -/

namespace Call

/-- Calls of the generator are told by the options that all of them have. -/
def isGenerate (c : Call) : Bool := Bindings.baseFlags.isPrefixOf c.arguments

/-- Where a path leads for a tool, which sees it from the folder that it runs in. -/
def seen (c : Call) (host : Host) (p : Path) : Path :=
  Path.resolve host.cwd (c.folder.getD .here / p)

/-- Whatever the call names as sources is this folder: the submodule to be fetched, the sources to
be configured, and the folder above the headers of the library. -/
structure Names (c : Call) (host : Host) (tree : Path) : Prop where
  fetched : c.isFetch = true → ∀ source ∈ c.arguments.getLast?,
    c.seen host (.ofString source) = tree
  configured : c.isConfigure = true → ∀ source ∈ c.arguments.head?,
    c.seen host (.ofString source) = tree
  read : c.isGenerate = true → ∀ root, ("-I", root) ∈ Bindings.optionsOf c.compilerArguments →
    (c.seen host (.ofString root)).parent = tree

variable {c : Call} {tree : Path}

/-! The second argument tells the kinds of calls apart. -/

theorem second_of_isFetch (h : c.isFetch = true) : c.arguments[1]? = some "update" := by
  obtain ⟨rest, hrest⟩ := List.isPrefixOf_iff_prefix.1 h
  rw [← hrest]
  rfl

theorem second_of_isConfigure (h : c.isConfigure = true) :
    ∃ argument, c.arguments[1]? = some argument ∧
      Text.startsWith argument "-DCMAKE_INSTALL_PREFIX=" = true := by
  unfold isConfigure at h
  split at h
  · rename_i source argument rest hwords
    exact ⟨argument, by rw [hwords]; rfl, h⟩
  · cases h

theorem second_of_isGenerate (h : c.isGenerate = true) :
    c.arguments[1]? = some "--with-derive-eq" := by
  obtain ⟨rest, hrest⟩ := List.isPrefixOf_iff_prefix.1 h
  rw [← hrest]
  rfl

/-- A call of another kind names no sources. -/
theorem names_of_second (second : Option String) (hsecond : c.arguments[1]? = second)
    (hfetch : second ≠ some "update") (hgenerate : second ≠ some "--with-derive-eq")
    (hconfigure : ∀ argument ∈ second,
      Text.startsWith argument "-DCMAKE_INSTALL_PREFIX=" = false) : c.Names host tree where
  fetched h := absurd (hsecond.symm.trans (second_of_isFetch h)) hfetch
  configured h := by
    obtain ⟨argument, hargument, hstarts⟩ := second_of_isConfigure h
    rw [hconfigure argument (hsecond.symm.trans hargument)] at hstarts
    cases hstarts
  read h := absurd (hsecond.symm.trans (second_of_isGenerate h)) hgenerate

end Call

/-- The folder of the sources, where a run looks for them. -/
def Native.sourceTree (host : Host) (t : Target) (l : Layout) : Path :=
  Path.resolve host.cwd (sourceDir t l)

namespace Source

theorem names_fetchCall (projectDir : Path) (source git : String) :
    (fetchCall projectDir source git).Names host (Path.resolve host.cwd (projectDir / source)) where
  fetched _ name hname := by
    cases hname
    rfl
  configured h := by
    obtain ⟨argument, hargument, hstarts⟩ := Call.second_of_isConfigure h
    cases hargument
    exact absurd hstarts (by decide)
  read h := absurd (Option.some.inj (Call.second_of_isGenerate h)) (by decide)

end Source

namespace CMake

/-- The text of a path leads to where the path leads. -/
theorem seen_text (c : Call) (p : Path) :
    c.seen host (.ofString p.text) = Path.resolve host.cwd (c.folder.getD .here / p) := by
  unfold Call.seen
  rw [Path.ofString_text]

theorem not_isFetch_configureCall {c : Config} {outDir : Path} {profile program : String} :
    ¬(configureCall c outDir profile program).isFetch = true := by
  intro h
  have hchars := congrArg String.toList (Option.some.inj (Call.second_of_isFetch h))
  simp [Config.defineArgument] at hchars

theorem names_configureCall {c : Config} {outDir : Path} {profile program : String} {tree : Path}
    (h : Path.resolve host.cwd (buildDir outDir / c.sourceDir) = tree) :
    (configureCall c outDir profile program).Names host tree where
  fetched hfetch := absurd hfetch not_isFetch_configureCall
  configured _ source hsource := by
    cases hsource
    rw [seen_text]
    exact h
  read hgenerate := by
    have hsecond := Call.second_of_isGenerate hgenerate
    have hchars := congrArg String.toList (Option.some.inj hsecond)
    simp [Config.defineArgument] at hchars

end CMake

namespace Bindings

/-- What system headers the generator may be told of. -/
inductive IsSysroot : List String → Prop
  | none : IsSysroot []
  | sdk (folder : String) : IsSysroot ["-isysroot", folder]
  | ndk (folder : String) : IsSysroot ["--sysroot", folder]
  | wasi (folder triple : String) :
    IsSysroot ["--sysroot", folder, "-target", triple, "-fvisibility=default"]

theorem isSysroot_of_result {sysroot : List String}
    (h : (sysrootArguments t l).result host s = .ok sysroot) : IsSysroot sysroot := by
  unfold sysrootArguments at h
  split at h
  case h_1 | h_2 =>
    obtain ⟨sdk, -, h⟩ := result_bind_eq_ok.1 h
    obtain ⟨found, -, h⟩ := result_bind_eq_ok.1 h
    cases found with
    | none => exact (Except.ok.inj h) ▸ .none
    | some folder => exact (Except.ok.inj h) ▸ .sdk folder
  · obtain ⟨home, -, h⟩ := result_bind_eq_ok.1 h
    obtain ⟨toolchain, -, h⟩ := result_bind_eq_ok.1 h
    exact (Except.ok.inj h) ▸ .ndk _
  · exact (Except.ok.inj h) ▸ .wasi _ _
  · exact (Except.ok.inj h) ▸ .none

/-- The only folder of headers besides the system headers is that of the library. -/
theorem eq_text_of_mem_optionsOf {root output : Path} {sysroot : List String}
    (hsysroot : IsSysroot sysroot) {folder : String}
    (h : ("-I", folder) ∈ optionsOf (generatorCall t l root output sysroot).compilerArguments) :
    folder = root.text := by
  have hlibrary (h : ("-I", folder) ∈ optionsOf (libraryArguments t root)) :
      folder = root.text := by
    unfold libraryArguments at h
    rw [List.cons_append, List.cons_append, List.nil_append, optionsOf_cons (by decide),
      optionsOf_includes] at h
    rcases List.mem_cons.1 h with h | h
    · exact (Prod.ext_iff.1 h).2
    · obtain ⟨path, -, hpath⟩ := List.mem_map.1 h
      exact absurd (congrArg Prod.fst hpath) (show "-include" ≠ "-I" by decide)
  rw [compilerArguments_generatorCall] at h
  cases hsysroot with
  | none => exact hlibrary h
  | sdk sdk | ndk sdk =>
    simp only [List.cons_append, List.nil_append] at h
    rw [optionsOf_cons (by decide)] at h
    exact hlibrary (by simpa using h)
  | wasi sdk triple =>
    simp only [List.cons_append, List.nil_append] at h
    rw [optionsOf_cons (by decide), optionsOf_cons (by decide),
      optionsOf_cons_of_not_mem (by decide)] at h
    exact hlibrary (by simpa using h)

/-- The headers of the library are in the source tree. -/
theorem parent_resolve_include (cwd p : Path) :
    (Path.resolve cwd (p / "include")).parent = Path.resolve cwd p := by
  refine Path.ext rfl ?_
  change (Path.resolve cwd (p / "include")).parts.dropLast = _
  rw [Disk.parts_resolve, Disk.parts_resolve, Disk.target_div_part (by decide) (by decide),
    List.dropLast_concat]

theorem names_generatorCall {sourceDir output : Path} {sysroot : List String}
    (hsysroot : IsSysroot sysroot) :
    (generatorCall t l (sourceDir / "include") output sysroot).Names host
      (Path.resolve host.cwd sourceDir) where
  fetched h := absurd (Call.second_of_isFetch h) (by simp [generatorCall, flags, baseFlags])
  configured h := by
    obtain ⟨argument, hargument, hstarts⟩ := Call.second_of_isConfigure h
    cases hargument
    exact absurd hstarts (by decide)
  read _ folder hfolder := by
    rw [eq_text_of_mem_optionsOf hsysroot hfolder, CMake.seen_text]
    exact (congrArg (fun p => (Path.resolve host.cwd p).parent) (Path.here_div _)).trans
      (parent_resolve_include _ _)

/-! ## Every call of a run -/

/-- A generation gets ready and starts the generator with system headers that it has found. -/
theorem within_generate_of_isSysroot {root : Path}
    (hsdk : ∀ sdk, acts (.start (sdkCall sdk l.xcrun)))
    (hgenerator : ∀ temporary sysroot, IsSysroot sysroot →
      acts (.start (generatorCall t l root temporary sysroot)))
    (hquiet : ∀ a : Action, a.event? = none → acts a) :
    Within acts (generate t l root) host s := by
  rw [generate_eq_publish]
  refine Within.bind ?_ fun r hr => ?_
  · unfold getReady
    refine Within.bind (within_ofExcept _) fun temporary _ => ?_
    refine Within.bind (within_call hsdk) fun call _ => ?_
    refine Within.bind (within_log _ _ _) fun _ _ => ?_
    refine Within.bind (within_log _ _ _) fun _ _ => ?_
    exact Within.bind (within_ensureFolders (hquiet _ rfl)) fun _ _ => within_pure _
  · obtain ⟨temporary, call⟩ := r
    obtain ⟨-, sysroot, hsysroot, rfl⟩ := eq_of_getReady hr
    refine Within.bind (within_start (hgenerator _ _ (isSysroot_of_result hsysroot))) ?_
    rintro (e | exit) -
    · exact Within.bind (within_removeFile (hquiet _ rfl)) fun _ _ => within_fail _
    · unfold publish
      dsimp only
      split
      · exact Within.bind (within_removeFile (hquiet _ rfl)) fun _ _ => within_fail _
      · refine Within.bind (within_isPresent _) fun present _ => ?_
        split
        · exact Within.bind (within_fail _) nofun
        · exact Within.bind (within_rename (hquiet _ rfl)) fun _ _ => within_pure _

end Bindings

namespace Native

theorem IsComplete.sourceDir_eq {c : CMake.Config} (h : IsComplete t l c) :
    c.sourceDir = sourceDir t l := by
  rcases h with rfl | ⟨compilers, rfl⟩
  · rw [withFuzzing_configFor]
    rfl
  · unfold withCompilers
    rw [withFuzzing_configFor]
    rfl

end Native

namespace Plan

/-- Only a plan that fetches the sources has a call that does so. -/
theorem Fits.fetches_of_isFetch {p : Plan} {call : Call} (hfits : p.Fits host s t l)
    (h : call ∈ p.calls t l) (hfetch : call.isFetch = true) : p.fetches = true := by
  have hsecond := Call.second_of_isFetch hfetch
  unfold calls nativeCalls bindingCalls at h
  rcases List.mem_append.1 h with h | h
  · split at h
    · cases h
    · rw [List.append_assoc] at h
      rcases List.mem_append.1 h with h | h
      · split at h
        · assumption
        · cases h
      · rcases List.mem_append.1 h with h | h
        · obtain ⟨tool, rfl⟩ := hfits.exists_probe h
          cases hsecond
        · obtain ⟨library, -, h⟩ := Native.mem_libraryCalls.1 h
          rcases List.mem_cons.1 h with rfl | h
          · exact absurd hfetch CMake.not_isFetch_configureCall
          · rw [List.mem_singleton.1 h] at hsecond
            exact absurd (Option.some.inj hsecond) (by decide)
  · rcases List.mem_append.1 h with h | h
    · unfold Bindings.sdkCalls at h
      split at h
      · rw [List.mem_singleton.1 h] at hsecond
        exact absurd (Option.some.inj hsecond) (by decide)
      · cases h
    · rw [List.mem_singleton.1 h] at hsecond
      exact absurd (Option.some.inj hsecond) (by decide)

end Plan

namespace Pipeline

open Native

/-- Every tool names the source tree where CMake sees it where the run does. -/
theorem names_of_mem_events (hheaders : t.headers = none)
    (hcmake : Path.resolve host.cwd (CMake.buildDir t.outDir / sourceDir t l) =
      sourceTree host t l) {call : Call} (h : call ∈ callsOf ((run t l).events host s)) :
    call.Names host (sourceTree host t l) := by
  let acts (a : Action) : Prop := ∀ call, a.event? = some (.started call) →
    call.Names host (sourceTree host t l)
  have hstart {call : Call} (h : call.Names host (sourceTree host t l)) : acts (.start call) := by
    rintro call' hevent
    cases hevent
    exact h
  have hemit (d : Directive) : acts (.emit d) := nofun
  have hquiet (a : Action) (h : a.event? = none) : acts a := fun call hcall => by simp [h] at hcall
  have hfetch : acts (.start
      (Source.fetchCall t.projectDir (l.sourceName (t.enables .fips)) l.git)) :=
    hstart (Source.names_fetchCall _ _ _)
  have hprobe (tool : String) : acts (.start (Compilers.probe tool)) :=
    hstart (Call.names_of_second none rfl (by decide) (by decide) (by decide))
  have hsdk (sdk : String) : acts (.start (Bindings.sdkCall sdk l.xcrun)) :=
    hstart (Call.names_of_second (some "--sdk") rfl (by decide) (by decide) (by decide))
  have hbuild (c : CMake.Config) (s : Session) (hc : IsComplete t l c) :
      Within acts (buildWith t l c) host s := by
    refine within_buildWith (hquiet _ rfl) (fun profile => ?_) fun library profile => ?_
    · refine hstart (CMake.names_configureCall ?_)
      rw [hc.sourceDir_eq]
      exact hcmake
    · exact hstart (Call.names_of_second (some ".") rfl (by decide) (by decide) (by decide))
  have hroot : Bindings.headerRoot t (sourceDir t l) = sourceDir t l / "include" := by
    unfold Bindings.headerRoot
    rw [hheaders]
    rfl
  have hrun : Within acts (run t l) host s := by
    unfold run
    refine Within.bind (within_prepare (hquiet _ rfl) fun _ => hemit _) fun _ _ => ?_
    refine Within.bind ?_ fun _ _ => ?_
    · exact within_link (fun _ => hemit _) hfetch hprobe hbuild (fun _ d _ => hemit d) (hemit _)
    · rw [hroot]
      exact Bindings.within_generate_of_isSysroot hsdk
        (fun _ _ hsysroot => hstart (Bindings.names_generatorCall hsysroot)) hquiet
  exact hrun.start_of_mem (mem_callsOf.1 h) call rfl

/-- All that a run takes for the source tree is one folder: the one in which it looks for the
sources, and for which git is started if they are missing there, and every folder of sources
that a tool is given. -/
structure HasOneTree (host : Host) (s : Session) (t : Target) (l : Layout) : Prop where
  tested : (∃ call ∈ callsOf ((run t l).events host s), call.isFetch = true) ↔
    (Source.isPresent (sourceDir t l)).result host ((prepare t l).left host s) = .ok false
  named : ∀ call ∈ callsOf ((run t l).events host s), call.Names host (sourceTree host t l)

/-- Git is started exactly if the sources are missing. -/
theorem isFetch_mem_iff {path : Path} (hprebuilt : t.prebuilt = none)
    (hpath : (run t l).result host s = .ok path) :
    (∃ call ∈ callsOf ((run t l).events host s), call.isFetch = true) ↔
      (Source.isPresent (sourceDir t l)).result host ((prepare t l).left host s) = .ok false := by
  obtain ⟨p, hfits, hfollows⟩ := exists_follows_run host s t l
  obtain ⟨-, hcalls⟩ := eq_of_run_ok hfits hfollows hpath
  have hfetches : p.fetches = true ↔
      (Source.isPresent (sourceDir t l)).result host ((prepare t l).left host s) = .ok false := by
    rw [hfits.fetches, hprebuilt]
    exact and_iff_right rfl
  rw [hcalls, ← hfetches]
  constructor
  · rintro ⟨call, hcall, hfetch⟩
    exact hfits.fetches_of_isFetch hcall hfetch
  · intro h
    refine ⟨Source.fetchCall t.projectDir (l.sourceName (t.enables .fips)) l.git, ?_, rfl⟩
    unfold Plan.calls Plan.nativeCalls
    simp [hprebuilt, h]

theorem configureCall_mem {path : Path} (hprebuilt : t.prebuilt = none)
    (hpath : (run t l).result host s = .ok path) :
    ∃ c profile, c.sourceDir = sourceDir t l ∧
      CMake.configureCall c t.outDir profile l.cmake ∈ callsOf ((run t l).events host s) := by
  obtain ⟨p, hfits, hfollows⟩ := exists_follows_run host s t l
  obtain ⟨-, hcalls⟩ := eq_of_run_ok hfits hfollows hpath
  refine ⟨p.config, p.profile, hfits.config.sourceDir_eq, ?_⟩
  have hlibrary : CMake.configureCall p.config t.outDir p.profile l.cmake ∈
      libraryCalls t l p.config p.profile :=
    mem_libraryCalls.2 ⟨"crypto", by simp [libraries], List.mem_cons_self⟩
  rw [hcalls]
  unfold Plan.calls Plan.nativeCalls
  simp [hprebuilt, hlibrary]

/-- There is one source tree exactly if its path is absolute or rises to a folder that is above
the one of the run and above the one of CMake. -/
theorem there_is_one_source_tree_iff {path : Path} (host : Host) (s : Session) (t : Target)
    (l : Layout) (hprebuilt : t.prebuilt = none) (hheaders : t.headers = none)
    (hpath : (run t l).result host s = .ok path) :
    HasOneTree host s t l ↔ (sourceDir t l).isAbsolute = true ∨
      (Path.resolve host.cwd .here).above (sourceDir t l).rises =
        (Path.resolve host.cwd (CMake.buildDir t.outDir)).above (sourceDir t l).rises := by
  have hplace : Path.resolve host.cwd (CMake.buildDir t.outDir / sourceDir t l) =
      sourceTree host t l ↔ (sourceDir t l).isAbsolute = true ∨
        (Path.resolve host.cwd .here).above (sourceDir t l).rises =
          (Path.resolve host.cwd (CMake.buildDir t.outDir)).above (sourceDir t l).rises := by
    unfold sourceTree
    cases habsolute : (sourceDir t l).isAbsolute with
    | true =>
      have hjoin : CMake.buildDir t.outDir / sourceDir t l = sourceDir t l := if_pos habsolute
      simp [hjoin]
    | false =>
      have hiff := Path.resolve_div_eq_iff habsolute host.cwd (CMake.buildDir t.outDir) .here
      rw [Path.here_div] at hiff
      simp [hiff, eq_comm]
  rw [← hplace]
  constructor
  · intro htree
    obtain ⟨c, profile, hsource, hcall⟩ := configureCall_mem hprebuilt hpath
    have hseen := (htree.named _ hcall).configured (CMake.isConfigure_configureCall _ _ _ _)
      c.sourceDir.text rfl
    rw [CMake.seen_text, hsource] at hseen
    exact hseen
  · intro h
    exact ⟨isFetch_mem_iff hprebuilt hpath, fun call hcall => names_of_mem_events hheaders h hcall⟩

/-- A build in a project whose folder is given as an absolute path has one source tree. -/
theorem an_absolute_project_has_one_tree :
    HasOneTree wellEquipped { disk := .empty } linuxTarget .default := by
  have hresult : ((run linuxTarget .default).result wellEquipped { disk := .empty }).isOk =
      true := by decide +kernel
  obtain ⟨path, hpath⟩ := exists_of_isOk hresult
  exact (there_is_one_source_tree_iff wellEquipped { disk := .empty } linuxTarget .default rfl rfl
    hpath).2 (Or.inl (by decide +kernel))

/-- The same build with the folder of the project relative to the current one. -/
def relativeTarget : Target := { linuxTarget with projectDir := .ofString "crate" }

/-- The sources are fetched into one folder, and CMake looks for them in another one. -/
theorem a_relative_project_has_two_trees :
    ((run relativeTarget .default).result wellEquipped { disk := .empty }).isOk = true ∧
      ¬HasOneTree wellEquipped { disk := .empty } relativeTarget .default := by
  refine ⟨by decide +kernel, fun htree => ?_⟩
  have hother : ∃ call ∈ callsOf ((run relativeTarget .default).events wellEquipped
      { disk := .empty }), call.isConfigure = true ∧ ∃ source ∈ call.arguments.head?,
        call.seen wellEquipped (.ofString source) ≠
          sourceTree wellEquipped relativeTarget .default := by decide +kernel
  obtain ⟨call, hcall, hconfigure, source, hsource, hne⟩ := hother
  exact hne ((htree.named call hcall).configured hconfigure source hsource)

end Pipeline

end CrossBuild
