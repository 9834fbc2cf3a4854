-- What a command writes to standard output. Whoever started the program reads it
-- line by line, so it has to be read back as the directives of the run, and it is
-- unless the path of the library to be linked has a line feed in it.
import CrossBuild.CommandLine.Command
import CrossBuild.Proofs.RunOrder
import CrossBuild.Proofs.Texts

namespace CrossBuild

open Job

variable {host : Host} {s : Session} {t : Target} {l : Layout}

/-! ## Lines -/

namespace CommandLine

theorem toList_textOf (lines : List String) :
    (textOf lines).toList = (lines.map String.toList).flatMap (· ++ ['\n']) := by
  simp [textOf, String.toList_join, List.flatMap_map]

/-- A text comes apart into the lines that it was made of exactly if each of them is one line. -/
theorem splitOn_textOf_iff (lines : List String) :
    (textOf lines).toList.splitOn '\n' = lines.map String.toList ++ [[]] ↔
      ∀ line ∈ lines, '\n' ∉ line.toList := by
  constructor
  · intro h line hline
    have hpiece : line.toList ∈ (textOf lines).toList.splitOn '\n' := by
      rw [h]
      exact List.mem_append_left _ (List.mem_map_of_mem hline)
    exact Text.not_mem_of_mem_splitOn hpiece
  · intro h
    rw [toList_textOf]
    induction lines with
    | nil => rfl
    | cons line rest ih =>
      rw [List.forall_mem_cons] at h
      rw [List.map_cons, List.flatMap_cons, List.append_assoc, List.singleton_append,
        List.splitOn_append_cons_self_of_not_mem h.1, ih h.2, List.cons_append]

end CommandLine

/-! ## Directives -/

namespace Directive

/-- The directive that a line spells. Its key goes up to the first equals sign. -/
def ofLine? (line : List Char) : Option Directive :=
  if "cargo:".toList.isPrefixOf line then
    let rest := line.drop "cargo:".length
    match rest.dropWhile (· ≠ '=') with
    | _ :: value => some ⟨String.ofList (rest.takeWhile (· ≠ '=')), String.ofList value⟩
    | [] => none
  else none

/-- The keys of all directives. -/
def keys : List String :=
  ["rerun-if-env-changed", "warning", "rustc-link-search", "rustc-link-lib",
    "rustc-cdylib-link-arg"]

/-- The line of a directive spells this directive. -/
theorem ofLine?_line {d : Directive} (h : d.key ∈ keys) : ofLine? d.line.toList = some d := by
  have hfree : ∀ key ∈ keys, '=' ∉ key.toList := by decide
  have hline : d.line.toList = "cargo:".toList ++ (d.key.toList ++ '=' :: d.value.toList) := by
    simp [line]
  have hdrop : ("cargo:".toList ++ (d.key.toList ++ '=' :: d.value.toList)).drop "cargo:".length =
      d.key.toList ++ '=' :: d.value.toList := List.drop_left
  unfold ofLine?
  rw [hline, if_pos (by simp), hdrop]
  simp only
  rw [Text.dropWhile_ne_append (hfree d.key h), Text.takeWhile_ne_append (hfree d.key h)]
  simp

/-- A directive as it comes up: only the folder of a library to be linked can be any text. -/
structure IsUsual (d : Directive) : Prop where
  key : d.key ∈ keys
  line : '\n' ∈ d.line.toList → ∃ folder, d = .linkSearch folder ∧ '\n' ∈ folder.toList

theorem isUsual_linkSearch (folder : String) : (linkSearch folder).IsUsual where
  key := by simp [linkSearch, keys]
  line h := by
    refine ⟨folder, rfl, ?_⟩
    simpa [line, linkSearch] using h

/-- The directives with a fixed text. -/
def fixed : List Directive :=
  [Pipeline.prebuiltVariable, Pipeline.ndkVariable, Pipeline.headersVariable,
    warning "fetching boringssl git submodule", linkStatic "crypto", linkStatic "ssl",
    cdylibLinkArg "-Wl,-undefined,dynamic_lookup"]

theorem isUsual_of_mem_fixed {d : Directive} (h : d ∈ fixed) : d.IsUsual := by
  have hfixed : ∀ d ∈ fixed, d.key ∈ keys ∧ '\n' ∉ d.line.toList := by decide
  exact ⟨(hfixed d h).1, fun hline => absurd hline (hfixed d h).2⟩

theorem isUsual_of_mem_linkDirectives {root : Path} {subdir : String} {d : Directive}
    (h : d ∈ Link.linkDirectives root subdir t) : d.IsUsual := by
  unfold Link.linkDirectives Link.searchDirectives at h
  simp only [List.mem_append, List.mem_map, List.mem_singleton] at h
  rcases h with ((⟨library, -, rfl⟩ | rfl) | h) | h
  · exact isUsual_linkSearch _
  · exact isUsual_of_mem_fixed (by simp [fixed])
  · split at h
    · exact isUsual_of_mem_fixed (by simp [fixed, List.mem_singleton.1 h])
    · cases h
  · split at h
    · exact isUsual_of_mem_fixed (by simp [fixed, List.mem_singleton.1 h])
    · cases h

end Directive

/-! ## What a job writes -/

/-- Events that write nothing to standard output but a usual directive. -/
def Event.IsUsual : Event → Prop
  | .emitted d => d.IsUsual
  | .printed _ => False
  | _ => True

namespace Job

variable {α β : Type}

/-- The job writes nothing to standard output but usual directives. -/
structure WritesDirectives (j : Job α) (host : Host) (s : Session) : Prop where
  within : Within (fun _ => True) j host s
  usual : ∀ e ∈ j.events host s, e.IsUsual

theorem WritesDirectives.bind {x : Job α} {f : α → Job β} (hx : WritesDirectives x host s)
    (hf : ∀ a, x.result host s = .ok a → WritesDirectives (f a) host (x.left host s)) :
    WritesDirectives (x >>= f) host s := by
  refine ⟨hx.within.bind fun a ha => (hf a ha).within, ?_⟩
  cases hresult : x.result host s with
  | error e =>
    rw [events_bind_of_error hresult]
    exact hx.usual
  | ok a =>
    rw [events_bind_of_ok hx.within hresult (hf a hresult).within]
    intro e he
    rcases List.mem_append.1 he with he | he
    · exact hx.usual e he
    · exact (hf a hresult).usual e he

/-- A job that does nothing to standard output. -/
theorem writesDirectives_of_quiet {j : Job α} (h : Within Quiet j host s) :
    WritesDirectives j host s := by
  refine ⟨h.any, Within.forall_events (h.mono fun a ha e he => ?_) (fun _ _ _ => trivial)
    fun _ _ => trivial⟩
  rw [show a.event? = none from ha] at he
  cases he

theorem writesDirectives_of_left_eq {j : Job α} (h : j.left host s = s) :
    WritesDirectives j host s := writesDirectives_of_quiet (within_of_left_eq h)

theorem writesDirectives_note (line : String) : WritesDirectives (note line) host s := by
  refine ⟨within_of_action (.record (.noted line) rfl) (.inr trivial) rfl, ?_⟩
  have hevents : (note line).events host s = [.noted line] := by simp [events, note]
  rw [hevents]
  exact List.forall_mem_singleton.2 trivial

/-- Actions that print no line. -/
def NeverPrints (a : Action) : Prop := ∀ line, a.event? ≠ some (.printed line)

theorem writesDirectives_of_follows {script : List Event} {j : Job α}
    (h : Follows (fun _ => False) script j host s) (hwithin : Within NeverPrints j host s)
    (hscript : ∀ d ∈ directivesOf script, d.IsUsual) : WritesDirectives j host s := by
  refine ⟨h.within, fun e he => ?_⟩
  have hprints : ∀ e ∈ j.events host s, ∀ line, e ≠ .printed line := by
    refine Within.forall_events (hwithin.mono fun a ha e he line => ?_) nofun nofun
    rintro rfl
    exact ha line he
  cases e with
  | printed line => exact absurd rfl (hprints _ he line)
  | emitted d =>
    refine hscript d ?_
    have hunder : directivesOf (j.events host s) <+: directivesOf script := by
      rw [← directivesOf_effectsOf, directivesOf_eq, directivesOf_eq]
      exact h.effects.filterMap _
    refine hunder.subset ?_
    rw [directivesOf_eq, List.mem_filterMap]
    exact ⟨_, he, rfl⟩
  | _ => trivial

end Job

/-! ## What a run writes -/

namespace Pipeline

theorem neverPrints_start (call : Call) : NeverPrints (.start call) := nofun

theorem neverPrints_emit (d : Directive) : NeverPrints (.emit d) := nofun

theorem neverPrints_link : Within NeverPrints (link t l) host s := by
  refine within_link (fun _ => neverPrints_emit _) (neverPrints_start _)
    (fun _ => neverPrints_start _) (fun c s _ => ?_) (fun _ _ _ => neverPrints_emit _)
    (neverPrints_emit _)
  exact Native.within_buildWith nofun (fun _ => neverPrints_start _) fun _ _ => neverPrints_start _

theorem neverPrints_prepare : Within NeverPrints (prepare t l) host s :=
  within_prepare nofun fun _ => neverPrints_emit _

theorem neverPrints_generate {root : Path} :
    Within NeverPrints (Bindings.generate t l root) host s :=
  Bindings.within_generate
    (Bindings.within_writeTemporary (fun _ => neverPrints_start _) nofun
      (fun _ _ _ => neverPrints_start _) nofun) nofun

theorem writesDirectives_emit {root : Path} : WritesDirectives (Link.emit root t) host s := by
  obtain ⟨subdir, hsubdir⟩ := exists_of_ok (Link.outputSubdir t) id ""
  refine writesDirectives_of_follows (Link.follows_emit hsubdir)
    (Link.within_emit fun _ _ _ => neverPrints_emit _) ?_
  rw [directivesOf_map_emitted]
  exact fun d => Directive.isUsual_of_mem_linkDirectives

theorem writesDirectives_generate {root : Path} :
    WritesDirectives (Bindings.generate t l root) host s := by
  obtain ⟨sdk, hsdk⟩ := exists_of_ok (appleSdk t.triple) id ""
  obtain ⟨temporary, htemporary⟩ :=
    exists_of_ok (Bindings.temporaryPath (Bindings.outputPath t l)) id .here
  obtain ⟨sysroot, hsysroot⟩ := exists_of_ok ((Bindings.sysrootArguments t l).result host s) id []
  have hfollows : Follows (fun _ => False)
      ((Bindings.sdkCalls t l sdk ++ [Bindings.generatorCall t l root temporary sysroot]).map
        .started) (Bindings.generate t l root) host s :=
    Bindings.follows_generate htemporary hsdk hsysroot not_false
  refine writesDirectives_of_follows hfollows neverPrints_generate ?_
  rw [directivesOf_map_started]
  nofun

theorem writesDirectives_prepare : WritesDirectives (prepare t l) host s := by
  refine writesDirectives_of_follows follows_prepare neverPrints_prepare ?_
  rw [directivesOf_map_emitted]
  intro d hd
  refine Directive.isUsual_of_mem_fixed ?_
  have hmem : d = prebuiltVariable ∨ d = ndkVariable := by
    unfold firstDirectives at hd
    split at hd <;> simp at hd
    · exact hd
    · exact Or.inl hd
  rcases hmem with rfl | rfl <;> simp [Directive.fixed]

/-- Linking a library that has been built. -/
theorem writesDirectives_link (h : t.prebuilt.isSome = true) :
    WritesDirectives (link t l) host s := by
  obtain ⟨subdir, hsubdir⟩ := exists_of_ok (Link.outputSubdir t) id ""
  have hbuild : t.prebuilt = none → Follows (fun _ => False) [] (Native.build t l) host s := by
    intro hnone
    simp [hnone] at h
  refine writesDirectives_of_follows (follows_link hbuild hsubdir) neverPrints_link ?_
  rw [if_pos h, List.nil_append, directivesOf_map_emitted]
  intro d hd
  rcases List.mem_append.1 hd with hd | hd
  · exact Directive.isUsual_of_mem_linkDirectives hd
  · exact Directive.isUsual_of_mem_fixed (by simp [Directive.fixed, List.mem_singleton.1 hd])

theorem writesDirectives_run : WritesDirectives (run t l) host s := by
  obtain ⟨p, hfits, hfollows⟩ := exists_follows_run host s t l
  have hwithin : Within NeverPrints (run t l) host s := by
    refine Within.bind neverPrints_prepare fun _ _ => ?_
    exact Within.bind neverPrints_link fun _ _ => neverPrints_generate
  refine writesDirectives_of_follows (hfollows.mono fun _ => False.elim) hwithin ?_
  rw [hfits.directivesOf_script]
  unfold Plan.directives
  simp only [List.mem_append, List.mem_singleton]
  rintro d ((((rfl | hd) | hd) | hd) | rfl)
  · exact Directive.isUsual_of_mem_fixed (by simp [Directive.fixed, prebuiltVariable])
  · split at hd
    · exact Directive.isUsual_of_mem_fixed
        (by simp [Directive.fixed, ndkVariable, List.mem_singleton.1 hd])
    · cases hd
  · split at hd
    · exact Directive.isUsual_of_mem_fixed (by simp [Directive.fixed, List.mem_singleton.1 hd])
    · cases hd
  · exact Directive.isUsual_of_mem_linkDirectives hd
  · exact Directive.isUsual_of_mem_fixed (by simp [Directive.fixed, headersVariable])

end Pipeline

/-! ## What a command writes -/

namespace CommandLine

variable {env : Environment} {disk : Disk} {p : Parsed}

theorem within_ofSettings (acts : Action → Prop) (path : Path) (d : Document)
    (settings : List (Value × Value)) : Within acts (Layout.ofSettings path d settings) host s := by
  unfold Layout.ofSettings
  cases Layout.unknownKeys settings with
  | none => exact Within.bind (within_throw _) nofun
  | some names =>
    dsimp only
    split
    · refine Within.bind (within_log _ _ _) fun _ _ => Within.bind (within_log _ _ _) fun _ _ => ?_
      split
      · exact within_pure _
      · exact within_throw _
    · refine Within.bind (within_log _ _ _) fun _ _ => ?_
      split
      · exact within_pure _
      · exact within_throw _

/-- Loading the layout of a project only tells the user about it. -/
theorem within_load (acts : Action → Prop) (loader : ByteArray → Except Yaml.Fault Document)
    (projectDir : Path) (config : Option Path) :
    Within acts (Layout.load loader projectDir config) host s := by
  unfold Layout.load
  refine Within.bind (within_of_left_eq (left_isFile _)) fun found _ => ?_
  split
  · refine Within.bind (within_of_left_eq (left_require _ _)) fun content _ => ?_
    unfold Layout.ofLoaded
    split
    · exact within_fail _
    · exact within_fail _
    · exact within_throw _
    · exact within_throw _
    · split
      · exact within_ofSettings _ _ _ _
      · split
        · exact within_ofSettings _ _ _ _
        · exact within_fail _
  · split
    · exact within_fail _
    · exact within_pure _

@[simp]
theorem left_target : (target host.cwd env p).left host s = s := by
  unfold target
  rw [left_bind, left_get]
  split
  · split <;> rfl
  · rfl

/-- The layout of a target's project is only told of. -/
theorem within_layoutOf (acts : Action → Prop) : Within acts (layoutOf host.cwd p t) host s := by
  have hload (s : Session) : Within acts
      (Layout.load Yaml.load t.projectDir (p.path? host.cwd "--config")) host s :=
    within_load _ _ _ _
  unfold layoutOf
  dsimp only
  split
  · exact Within.bind (within_throw _) nofun
  · split
    · exact Within.bind (within_throw _) fun _ _ => hload _
    · exact hload _

theorem writesDirectives_buildWithoutProject :
    WritesDirectives (buildWithoutProject t l) host s := by
  have hthrow (s : Session) : WritesDirectives
      (throw (.valueLeftOut "--project-root") : Job Unit) host s := writesDirectives_of_left_eq rfl
  unfold buildWithoutProject
  refine WritesDirectives.bind Pipeline.writesDirectives_prepare fun _ _ => ?_
  dsimp only
  split
  · rename_i h
    exact WritesDirectives.bind (Pipeline.writesDirectives_link h) fun _ _ => hthrow _
  · exact hthrow _

theorem writesDirectives_perform {c : Command} (h : c ∈ [.build, .link, .bindings]) :
    WritesDirectives (perform env p c) host s := by
  have hread (s : Session) : WritesDirectives (read : Job Host) host s :=
    writesDirectives_of_left_eq rfl
  cases c with
  | build =>
    unfold perform
    refine WritesDirectives.bind (hread _) fun h hh => ?_
    cases hh
    refine WritesDirectives.bind (writesDirectives_of_left_eq left_target) fun t _ => ?_
    refine WritesDirectives.bind (writesDirectives_of_quiet (within_layoutOf _)) fun l _ => ?_
    have hrun (s : Session) : WritesDirectives (Pipeline.run t l >>= noteBindings) host s :=
      Pipeline.writesDirectives_run.bind fun path _ => writesDirectives_note _
    dsimp only
    split
    · exact writesDirectives_buildWithoutProject.bind fun _ _ => hrun _
    · exact hrun _
  | link =>
    unfold perform
    refine WritesDirectives.bind (hread _) fun h hh => ?_
    cases hh
    refine WritesDirectives.bind (writesDirectives_of_left_eq left_target) fun t _ => ?_
    exact Pipeline.writesDirectives_emit.bind fun _ _ => writesDirectives_of_left_eq rfl
  | bindings =>
    unfold perform
    refine WritesDirectives.bind (hread _) fun h hh => ?_
    cases hh
    refine WritesDirectives.bind (writesDirectives_of_left_eq left_target) fun t _ => ?_
    refine WritesDirectives.bind (writesDirectives_of_quiet (within_layoutOf _)) fun l _ => ?_
    have hneed (s : Session) : WritesDirectives (needProject p) host s := by
      unfold needProject
      split <;> exact writesDirectives_of_left_eq rfl
    refine (hneed _).bind fun _ _ => ?_
    exact Pipeline.writesDirectives_generate.bind fun path _ => writesDirectives_note _
  | params | verifyToolchain | ndkToolchain => simp at h

/-! ## Standard output -/

/-- What is on standard output in the end, also when a failure has ended the program. -/
def standardOutput (outcome : Except Failure Response × Session) : String :=
  match outcome.1 with
  | .ok response => response.stdout
  | .error _ => textOf (outcome.2.log.flatMap outputLines)

/-- The text is read line by line as the directives: each has a line of its own that spells it,
and there is no other line. -/
structure IsStreamOf (text : String) (ds : List Directive) : Prop where
  lines : text.toList.splitOn '\n' = ds.map (fun d => d.line.toList) ++ [[]]
  spelled : (text.toList.splitOn '\n').dropLast.map Directive.ofLine? = ds.map some

theorem outputLines_eq {log : List Event} (h : ∀ e ∈ log, e.IsUsual) :
    log.flatMap outputLines = (directivesOf log).map Directive.line := by
  induction log with
  | nil => rfl
  | cons e rest ih =>
    rw [List.forall_mem_cons] at h
    rw [List.flatMap_cons, ih h.2, directivesOf_eq, directivesOf_eq, List.filterMap_cons]
    cases e with
    | printed line => exact h.1.elim
    | _ => rfl

/-- Usual directives are read back exactly if no folder that is searched has a line feed in its
name. -/
theorem isStreamOf_iff {log : List Event} (h : ∀ e ∈ log, e.IsUsual) :
    IsStreamOf (textOf (log.flatMap outputLines)) (directivesOf log) ↔
      ∀ folder, Directive.linkSearch folder ∈ directivesOf log → '\n' ∉ folder.toList := by
  have husual (d : Directive) (hd : d ∈ directivesOf log) : d.IsUsual := by
    rw [directivesOf_eq, List.mem_filterMap] at hd
    obtain ⟨e, he, hd⟩ := hd
    cases e with
    | emitted d' =>
      cases hd
      exact h _ he
    | _ => cases hd
  have hsplit := splitOn_textOf_iff ((directivesOf log).map Directive.line)
  rw [List.map_map, Function.comp_def, List.forall_mem_map] at hsplit
  rw [outputLines_eq h]
  constructor
  · intro hstream folder hfolder hfeed
    refine hsplit.1 hstream.lines _ hfolder ?_
    simp [Directive.line, Directive.linkSearch, hfeed]
  · intro hfolders
    have hlines := hsplit.2 fun d hd hfeed => by
      obtain ⟨folder, rfl, hfolder⟩ := (husual d hd).line hfeed
      exact hfolders folder hd hfolder
    refine ⟨hlines, ?_⟩
    rw [hlines, List.dropLast_concat, List.map_map]
    exact List.map_congr_left fun d hd => Directive.ofLine?_line (husual d hd).key

theorem session_runCommand (host : Host) (env : Environment) (disk : Disk) (c : Command)
    (p : Parsed) : (runCommand host env disk c p).2 = (perform env p c).left host { disk } := by
  unfold runCommand left
  cases ((perform env p c).run host).run { disk } with
  | ok u s => rfl
  | error f s => cases f <;> rfl

theorem standardOutput_runCommand (host : Host) (env : Environment) (disk : Disk) (c : Command)
    (p : Parsed) : standardOutput (runCommand host env disk c p) =
      textOf (((perform env p c).left host { disk }).log.flatMap outputLines) := by
  unfold runCommand left standardOutput
  cases ((perform env p c).run host).run { disk } with
  | ok u s => rfl
  | error f s => cases f <;> rfl

theorem ofName?_name (c : Command) : Command.ofName? c.name = some c := by cases c <;> rfl

theorem run_of_read {c : Command} {arguments : List String}
    (h : c.grammar.read arguments = .ok p) :
    run host env disk (c.name :: arguments) = runCommand host env disk c p := by
  unfold run
  simp only [ofName?_name, h]

/-- However a command ends, there is nothing on standard output but its usual directives. -/
theorem standardOutput_run (host : Host) (env : Environment) (disk : Disk) {c : Command}
    {arguments : List String} (hc : c ∈ [.build, .link, .bindings])
    (hhelp : c.grammar.read arguments ≠ .error .help) :
    standardOutput (run host env disk (c.name :: arguments)) =
        textOf ((run host env disk (c.name :: arguments)).2.log.flatMap outputLines) ∧
      ∀ e ∈ (run host env disk (c.name :: arguments)).2.log, e.IsUsual := by
  cases hread : c.grammar.read arguments with
  | error stop =>
    unfold run
    simp only [ofName?_name, hread]
    cases stop with
    | help => exact absurd hread hhelp
    | error e => exact ⟨rfl, nofun⟩
  | ok p =>
    have hevents : ((perform env p c).left host { disk }).log =
        (perform env p c).events host { disk } := rfl
    rw [run_of_read hread, standardOutput_runCommand, session_runCommand, hevents]
    exact ⟨rfl, (writesDirectives_perform hc).usual⟩

/-- The standard output of a command is read as the directives of the run, one a line, exactly if
no folder that is searched for libraries has a line feed in its name. -/
theorem standard_output_is_a_directive_stream_iff (host : Host) (env : Environment) (disk : Disk)
    (c : Command) (arguments : List String) (hc : c ∈ [.build, .link, .bindings])
    (hhelp : c.grammar.read arguments ≠ .error .help) :
    IsStreamOf (standardOutput (run host env disk (c.name :: arguments)))
        (directivesOf (run host env disk (c.name :: arguments)).2.log) ↔
      ∀ folder, Directive.linkSearch folder ∈
          directivesOf (run host env disk (c.name :: arguments)).2.log →
        '\n' ∉ folder.toList := by
  obtain ⟨hstdout, husual⟩ := standardOutput_run host env disk hc hhelp
  rw [hstdout]
  exact isStreamOf_iff husual

/-- The arguments that link a library in the usual place. -/
def linkArguments : List String := ["--target", "x86_64-unknown-linux-gnu"]

/-- The directives that link a library in the usual place are read as they were meant. -/
theorem the_usual_library_is_linked :
    IsStreamOf (standardOutput (run silentTools [] .empty ("link" :: linkArguments)))
      (directivesOf (run silentTools [] .empty ("link" :: linkArguments)).2.log) := by
  have hread : ((Command.grammar .link).read linkArguments).isOk = true := by decide +kernel
  have hfolders : ∀ d ∈ directivesOf (run silentTools [] .empty ("link" :: linkArguments)).2.log,
      '\n' ∉ d.value.toList := by decide +kernel
  refine (standard_output_is_a_directive_stream_iff silentTools [] .empty .link linkArguments
    (by decide) fun h => ?_).2 fun folder hfolder hfeed => ?_
  · rw [h] at hread
    cases hread
  · refine hfolders _ hfolder ?_
    simp [Directive.linkSearch, hfeed]

/-- Arguments that link a library whose folder has a directive in its name. -/
def forgedArguments : List String :=
  ["link", "--target", "x86_64-unknown-linux-gnu", "--artifact-root",
    "root\ncargo:rustc-link-lib=static=evil"]

/-- A folder with a line feed in its name puts another library on the list of those to link. -/
theorem a_folder_forges_a_directive :
    ¬IsStreamOf (standardOutput (run silentTools [] .empty forgedArguments))
      (directivesOf (run silentTools [] .empty forgedArguments).2.log) := by
  intro h
  have hlines :
      (standardOutput (run silentTools [] .empty forgedArguments)).toList.splitOn '\n' ≠
        (directivesOf (run silentTools [] .empty forgedArguments).2.log).map
          (fun d => d.line.toList) ++ [[]] := by
    decide +kernel
  exact hlines h.lines

end CommandLine

end CrossBuild
