-- Commands that do a part of a build. `link` tells what a build tells about linking, and `bindings`
-- generates after a build what the build has generated, as long as both find the same settings.
import CrossBuild.Proofs.DirectiveStreams
import CrossBuild.Proofs.RepeatedBindings
import CrossBuild.Proofs.SharedOptions
import CrossBuild.Proofs.UntouchedFiles

namespace CrossBuild.CommandLine

open Job

variable {host : Host} {env : Environment} {disk : Disk} {c : Command} {arguments : List String}
  {p : Parsed} {s s' : Session} {t : Target} {l : Layout}

/-! ## Commands that succeed -/

/-- The program ends with the exit code of a success. -/
def Succeeds (outcome : Except Failure Response × Session) : Prop :=
  ∃ response, outcome.1 = .ok response ∧ response.exitCode = 0

theorem succeeds_runCommand_iff :
    Succeeds (runCommand host env disk c p) ↔ (perform env p c).result host { disk } = .ok () := by
  unfold Succeeds runCommand result
  cases ((perform env p c).run host).run { disk } with
  | ok u s => exact ⟨fun _ => rfl, fun _ => ⟨_, rfl, rfl⟩⟩
  | error f s =>
    refine ⟨fun ⟨response, hresponse, hcode⟩ => ?_, fun h => by cases h⟩
    cases f with
    | problem problem =>
      cases hresponse
      cases hcode
    | _ => cases hresponse

theorem succeeds_iff {outcome : Except Failure Response × Session} :
    Succeeds outcome ↔ outcome.1.toOption.map Response.exitCode = some 0 := by
  unfold Succeeds
  cases outcome.1 with
  | error f => exact ⟨nofun, nofun⟩
  | ok response => simp [Except.toOption]

instance (outcome : Except Failure Response × Session) : Decidable (Succeeds outcome) :=
  decidable_of_iff' _ succeeds_iff

/-- A command that succeeds without its help text has done all that it does. -/
theorem exists_of_succeeds (h : Succeeds (run host env disk (c.name :: arguments)))
    (hhelp : c.grammar.read arguments ≠ .error .help) :
    ∃ p, c.grammar.read arguments = .ok p ∧
      (perform env p c).result host { disk } = .ok () := by
  cases hread : c.grammar.read arguments with
  | ok p =>
    rw [run_of_read hread] at h
    exact ⟨p, rfl, succeeds_runCommand_iff.1 h⟩
  | error stop =>
    obtain ⟨response, hresponse, hcode⟩ := h
    unfold run at hresponse
    simp only [ofName?_name, hread] at hresponse
    cases stop with
    | help => exact absurd hread hhelp
    | error e =>
      cases hresponse
      cases hcode

/-! ## What the commands do -/

/-- The line by which the user is told of the bindings. -/
def bindingsNote (path : Path) : Event := .noted ("✅ Bindings written to " ++ path.text)

theorem buildWithoutProject_ne_ok (u : Unit) :
    (buildWithoutProject t l).result host s ≠ .ok u := by
  intro h
  unfold buildWithoutProject at h
  obtain ⟨_, -, h⟩ := result_bind_eq_ok.1 h
  dsimp only at h
  split at h
  · obtain ⟨_, -, h⟩ := result_bind_eq_ok.1 h
    cases h
  · cases h

/-- A build that has succeeded: the run began in the session `s`, in which nothing had been done but
to tell of the settings, and it has left its bindings at the path. -/
structure Built (host : Host) (env : Environment) (disk : Disk) (p : Parsed) (t : Target)
    (l : Layout) (s : Session) (path : Path) : Prop where
  target_eq : (target host.cwd env p).result host { disk } = .ok t
  layout_eq : (layoutOf host.cwd p t).result host { disk } = .ok l
  project_eq : lacksProject p = false
  disk_eq : s.disk = disk
  silent : effectsOf s.log = []
  ran : (Pipeline.run t l).result host s = .ok path
  left_eq : (perform env p .build).left host { disk } =
    { (Pipeline.run t l).left host s with
      log := ((Pipeline.run t l).left host s).log ++ [bindingsNote path] }

/-- Loading the layout only tells the user something. -/
theorem exists_left_layoutOf (host : Host) (p : Parsed) (t : Target) (s : Session) :
    ∃ said, effectsOf said = [] ∧
      (layoutOf host.cwd p t).left host s = { s with log := s.log ++ said } :=
  FirstRun.left_of_silent (within_layoutOf _)

theorem exists_built (h : (perform env p .build).result host { disk } = .ok ()) :
    ∃ t l s path, Built host env disk p t l s path := by
  have hleft : (perform env p .build).left host { disk } =
      (perform env p .build).left host { disk } := rfl
  conv at hleft => rhs; unfold perform
  unfold perform at h
  rw [result_bind_of_ok result_read, left_read] at h
  rw [left_bind_of_ok result_read, left_read] at hleft
  obtain ⟨t, ht, h⟩ := result_bind_eq_ok.1 h
  rw [left_target] at h
  rw [left_bind_of_ok ht, left_target] at hleft
  obtain ⟨l, hl, h⟩ := result_bind_eq_ok.1 h
  rw [left_bind_of_ok hl] at hleft
  obtain ⟨said, hsaid, hloaded⟩ := exists_left_layoutOf host p t { disk }
  dsimp only at h hleft
  cases hproject : lacksProject p with
  | true =>
    rw [hproject, if_pos rfl] at h
    obtain ⟨u, hu, -⟩ := result_bind_eq_ok.1 h
    exact absurd hu (buildWithoutProject_ne_ok u)
  | false =>
    rw [hproject, if_neg Bool.false_ne_true] at h hleft
    obtain ⟨path, hpath, h⟩ := result_bind_eq_ok.1 h
    rw [left_bind_of_ok hpath] at hleft
    rw [hloaded] at hpath hleft
    exact ⟨t, l, _, path, ht, hl, hproject, rfl, hsaid, hpath, hleft⟩

theorem perform_link (hroot : p.value? "--artifact-root" = none)
    (ht : (target host.cwd env p).result host s = .ok t) :
    (perform env p .link).result host s =
        ((Link.emit (t.prebuilt.getD t.outDir) t).result host s).map (fun _ => ()) ∧
      (perform env p .link).left host s =
        (Link.emit (t.prebuilt.getD t.outDir) t).left host s := by
  unfold perform
  rw [result_bind_of_ok result_read, left_bind_of_ok result_read, left_read,
    result_bind_of_ok ht, left_bind_of_ok ht, left_target]
  dsimp only
  rw [hroot, Option.map_none, Option.none_or, result_bind, left_bind]
  cases (Link.emit (t.prebuilt.getD t.outDir) t).result host s <;> exact ⟨rfl, rfl⟩

theorem perform_bindings {path : Path} (hproject : lacksProject p = false)
    (ht : (target host.cwd env p).result host s = .ok t)
    (hl : (layoutOf host.cwd p t).result host s = .ok l)
    (hpath : (Bindings.generate t l (Bindings.headerRoot t (Native.sourceDir t l))).result host
      ((layoutOf host.cwd p t).left host s) = .ok path) :
    (perform env p .bindings).result host s = .ok () ∧
      (perform env p .bindings).left host s =
        { (Bindings.generate t l (Bindings.headerRoot t (Native.sourceDir t l))).left host
            ((layoutOf host.cwd p t).left host s) with
          log := ((Bindings.generate t l (Bindings.headerRoot t (Native.sourceDir t l))).left host
            ((layoutOf host.cwd p t).left host s)).log ++ [bindingsNote path] } := by
  have hneed {s : Session} : (needProject p).result host s = .ok () ∧
      (needProject p).left host s = s := by
    unfold needProject
    rw [hproject]
    exact ⟨rfl, rfl⟩
  unfold perform
  rw [result_bind_of_ok result_read, left_bind_of_ok result_read, left_read,
    result_bind_of_ok ht, left_bind_of_ok ht, left_target, result_bind_of_ok hl,
    left_bind_of_ok hl, result_bind_of_ok hneed.1, left_bind_of_ok hneed.1, hneed.2,
    result_bind_of_ok hpath, left_bind_of_ok hpath]
  exact ⟨rfl, rfl⟩

theorem result_target_congr (s s' : Session) :
    (target host.cwd env p).result host s = (target host.cwd env p).result host s' := by
  unfold target
  rw [result_bind, result_bind, result_get, result_get, left_get, left_get]
  cases targetOf host.cwd env p with
  | error problem => rfl
  | ok t =>
    simp only [mapError_ok]
    split <;> rfl

/-- The settings of the project are found again if nothing is done to their file. -/
theorem layoutOf_again (h : (layoutOf host.cwd p t).result host s = .ok l)
    (halone : s.disk.LeavesAlone (Disk.target host.cwd.parts
      (Layout.settingsPath t.projectDir (p.path? host.cwd "--config"))) s'.disk)
    (hsettled : p.path? host.cwd "--config" = none →
      s.disk.IsSettled host.cwd.parts (t.projectDir / Layout.fileName)) :
    (layoutOf host.cwd p t).result host s' = .ok l := by
  unfold layoutOf at h ⊢
  dsimp only at h ⊢
  split at h
  · cases h
  · rw [if_neg ‹_›]
    split at h
    · cases h
    · rw [if_neg ‹_›]
      exact Layout.load_again h halone hsettled

end CrossBuild.CommandLine

namespace CrossBuild

open Job

variable {host : Host} {s s' : Session} {t : Target} {l : Layout} {path : Path}

/-! ## Linking -/

namespace Link

variable {root root' : Path} {subdir : String} {d : Directive}

theorem isLink_of_mem_linkDirectives (h : d ∈ linkDirectives root subdir t) : d.isLink = true := by
  unfold linkDirectives searchDirectives at h
  simp only [List.mem_append, List.mem_map, List.mem_singleton] at h
  rcases h with ((⟨library, -, rfl⟩ | rfl) | h) | h
  · rfl
  · rfl
  · split at h
    · exact List.mem_singleton.1 h ▸ rfl
    · cases h
  · split at h
    · exact List.mem_singleton.1 h ▸ rfl
    · cases h

theorem result_emit {a : Artifacts} (h : artifacts root t = .ok a) :
    (emit root t).result host s = .ok a := by
  unfold emit
  rw [h]
  have hall : ((directives a t).forM Job.emit).result host s = .ok ⟨⟩ :=
    result_forM _ fun _ _ _ => rfl
  change ((directives a t).forM Job.emit >>= fun _ => pure a).result host s = _
  rw [result_bind_of_ok hall]
  rfl

/-- Whether libraries can be linked does not depend on the root that they are under. -/
theorem exists_emit_again {a : Artifacts} (h : (emit root t).result host s = .ok a) :
    ∃ a', (emit root' t).result host s' = .ok a' := by
  obtain ⟨_, hfound, -⟩ := result_bind_eq_ok.1 h
  unfold artifacts at hfound
  cases hsubdir : outputSubdir t with
  | error p => rw [hsubdir] at hfound; cases hfound
  | ok subdir =>
    refine ⟨⟨libraries.map fun library => root' / "build" / library / subdir, subdir⟩,
      result_emit ?_⟩
    unfold artifacts
    rw [hsubdir]
    rfl

end Link

namespace Pipeline

/-- A run that succeeds has linked something. -/
theorem exists_emit_of_run (h : (run t l).result host s = .ok path) :
    ∃ root s' a, (Link.emit root t).result host s' = .ok a := by
  obtain ⟨_, -, h⟩ := result_bind_eq_ok.1 h
  obtain ⟨_, hlink, -⟩ := result_bind_eq_ok.1 h
  obtain ⟨root, -, hlink⟩ := result_bind_eq_ok.1 hlink
  obtain ⟨a, hemit, -⟩ := result_bind_eq_ok.1 hlink
  exact ⟨root, _, a, hemit⟩

/-- The directives that link are emitted by a run one after the other, as they are when the
libraries are linked alone. -/
theorem directivesOf_run_split (h : (run t l).result host s = .ok path) (s' : Session) :
    (∃ a, (Link.emit (t.prebuilt.getD t.outDir) t).result host s' = .ok a) ∧
      ∃ before after,
        directivesOf ((run t l).events host s) = before ++
          directivesOf ((Link.emit (t.prebuilt.getD t.outDir) t).events host s') ++ after ∧
        (∀ d ∈ directivesOf ((Link.emit (t.prebuilt.getD t.outDir) t).events host s'),
          d.isLink = true) ∧
        ∀ d ∈ before ++ after, d.isLink = false := by
  obtain ⟨root, s₁, a₁, hemit⟩ := exists_emit_of_run h
  obtain ⟨a, ha⟩ : ∃ a, (Link.emit (t.prebuilt.getD t.outDir) t).result host s' = .ok a :=
    Link.exists_emit_again hemit
  obtain ⟨p, hfits, hfollows⟩ := exists_follows_run host s t l
  have hlinked : directivesOf ((Link.emit (t.prebuilt.getD t.outDir) t).events host s') =
      Link.linkDirectives (t.prebuilt.getD t.outDir) p.subdir t := by
    have hlink : Follows (fun _ => False) _ (Link.emit (t.prebuilt.getD t.outDir) t) host s' :=
      Link.follows_emit hfits.subdir
    rw [← directivesOf_effectsOf, hlink.complete a ha, directivesOf_map_emitted]
  refine ⟨⟨a, ha⟩, firstDirectives t ++ (if p.fetches then
    [.warning "fetching boringssl git submodule"] else []), [headersVariable], ?_, ?_, ?_⟩
  · rw [(eq_of_run_ok hfits hfollows h).1, hlinked]
    rfl
  · rw [hlinked]
    exact fun d => Link.isLink_of_mem_linkDirectives
  · have hvariable (name : String) : (Directive.rerunIfEnvChanged name).isLink = false := rfl
    have hwarning (message : String) : (Directive.warning message).isLink = false := rfl
    intro d hd
    simp only [firstDirectives, List.mem_append, List.mem_cons, List.not_mem_nil, or_false] at hd
    rcases hd with ((rfl | hd) | hd) | rfl
    · exact hvariable _
    · split at hd
      · exact List.mem_singleton.1 hd ▸ hvariable _
      · cases hd
    · split at hd
      · exact List.mem_singleton.1 hd ▸ hwarning _
      · cases hd
    · exact hvariable _

end Pipeline

/-! ## Calls for the bindings -/

/-- Calls that are made for the bindings: of the generator, and of the search for an SDK. -/
def Call.isForBindings (c : Call) : Bool := c.isGenerate || c.isSdkQuery

theorem Call.isForBindings_eq_false {c : Call} (second : Option String)
    (hsecond : c.arguments[1]? = second) (hgenerate : second ≠ some "--with-derive-eq")
    (hsdk : second ≠ some "--sdk") : c.isForBindings = false := by
  unfold isForBindings
  rw [Bool.or_eq_false_iff, Bool.eq_false_iff, Bool.eq_false_iff]
  refine ⟨fun h => hgenerate (hsecond.symm.trans (second_of_isGenerate h)), fun h => hsdk ?_⟩
  obtain ⟨rest, hrest⟩ := List.isPrefixOf_iff_prefix.1 h
  rw [← hsecond, ← hrest]
  rfl

/-- Every call of a generation that succeeds is one for the bindings. -/
theorem Bindings.isForBindings_of_generate {root : Path}
    (hpath : (generate t l root).result host s = .ok path) :
    ∀ call ∈ callsOf ((generate t l root).events host s), call.isForBindings = true := by
  have hpublish := hpath
  rw [generate_eq_publish] at hpublish
  obtain ⟨rfl, temporary, call, exit, s₁, s₂, d, e⟩ :=
    exists_ending (fun _ _ => isReady_of_getReady) hpublish
  obtain ⟨sdk, hsdk⟩ := exists_of_ok (appleSdk t.triple) id ""
  rw [callsOf_generate hsdk e.ready hpath]
  intro call' hcall
  unfold Call.isForBindings
  rcases List.mem_append.1 hcall with hcall | hcall
  · unfold sdkCalls at hcall
    split at hcall
    · rw [List.mem_singleton.1 hcall]
      simp [Call.isSdkQuery, sdkCall]
    · cases hcall
  · rw [List.mem_singleton.1 hcall, e.generates]
    rfl

namespace Pipeline

/-- Actions that start no tool for the bindings. -/
def SparesBindings (a : Action) : Prop := ∀ call, a = .start call → call.isForBindings = false

theorem sparesBindings_start {call : Call} (h : call.isForBindings = false) :
    SparesBindings (.start call) := by
  intro call' heq
  cases heq
  exact h

/-- Nothing is started for the bindings before they are generated. -/
theorem sparesBindings_untilBindings (host : Host) (s : Session) (t : Target) (l : Layout) :
    Within SparesBindings
      (removeFile (Bindings.outputPath t l) >>= fun _ => untilBindings t l) host s := by
  refine Within.bind (within_removeFile nofun) fun _ _ => within_untilBindings (fun _ => nofun) ?_
  refine fun s => within_link (fun _ => nofun) (sparesBindings_start rfl)
    (fun _ => sparesBindings_start rfl) (fun c s _ => ?_) (fun _ _ _ => nofun) nofun
  refine Native.within_buildWith nofun (fun profile => sparesBindings_start ?_) fun _ _ =>
    sparesBindings_start (Call.isForBindings_eq_false (some ".") rfl (by decide) (by decide))
  refine Call.isForBindings_eq_false _ rfl (fun h => ?_) fun h => ?_ <;>
  · have hchars := congrArg String.toList (Option.some.inj h)
    simp [CMake.Config.defineArgument] at hchars

/-- A run ends by generating the bindings, and its calls for them are those of the generation. -/
theorem exists_generate_of_run (h : (run t l).result host s = .ok path) :
    ∃ s₁, (Bindings.generate t l (Bindings.headerRoot t (Native.sourceDir t l))).result host s₁ =
        .ok path ∧
      (run t l).left host s =
        (Bindings.generate t l (Bindings.headerRoot t (Native.sourceDir t l))).left host s₁ ∧
      (callsOf ((run t l).events host s)).filter Call.isForBindings =
        callsOf ((Bindings.generate t l
          (Bindings.headerRoot t (Native.sourceDir t l))).events host s₁) := by
  have heq : run t l = (removeFile (Bindings.outputPath t l) >>= fun _ => untilBindings t l) >>=
      fun _ => Bindings.generate t l (Bindings.headerRoot t (Native.sourceDir t l)) := by
    rw [run_eq_removeFile, bind_assoc]
  have hspares := sparesBindings_untilBindings host s t l
  rw [heq] at h ⊢
  obtain ⟨u, hu, hpath⟩ := result_bind_eq_ok.1 h
  refine ⟨_, hpath, left_bind_of_ok hu _, ?_⟩
  rw [events_bind_of_ok hspares hu neverPrints_generate, callsOf_append, List.filter_append,
    List.filter_eq_nil_iff.2, List.filter_eq_self.2 (Bindings.isForBindings_of_generate hpath),
    List.nil_append]
  intro call hcall
  rw [hspares.start_of_mem (mem_callsOf.1 hcall) call rfl]
  exact Bool.false_ne_true

end Pipeline

namespace CommandLine

variable {env : Environment} {disk : Disk} {arguments : List String} {p : Parsed}

/-! ## Agreement -/

/-- The settings file of the project of a target. -/
def settingsFile (host : Host) (p : Parsed) (t : Target) : Path :=
  Layout.settingsPath t.projectDir (p.path? host.cwd "--config")

/-- What the arguments of a build ask for: options that have been read, a target and a layout. -/
structure Asks (host : Host) (env : Environment) (disk : Disk) (arguments : List String)
    (p : Parsed) (t : Target) (l : Layout) : Prop where
  read : (Command.grammar .build).read arguments = .ok p
  target_eq : (target host.cwd env p).result host { disk } = .ok t
  layout_eq : (layoutOf host.cwd p t).result host { disk } = .ok l

/-- Calls of a build that disturb neither the bindings nor the settings file: no tool writes the
file, and the bindings do not take its place. -/
structure IsUndisturbed (host : Host) (p : Parsed) (t : Target) (l : Layout) (calls : List Call) :
    Prop extends Bindings.IsUndisturbed host t l calls where
  settingsKept : ∀ call ∈ calls,
    Disk.target host.cwd.parts (settingsFile host p t) ∉ call.files host
  settingsApart : Disk.target host.cwd.parts (Bindings.outputPath t l) ≠
    Disk.target host.cwd.parts (settingsFile host p t)

/-- Wherever the command for the bindings starts the generator, its temporary file is there once it
has been started. -/
def WritesBindings (host : Host) (disk : Disk) (p : Parsed) (t : Target) : Prop :=
  ∀ l s, Yields (layoutOf host.cwd p t) host { disk } l s →
    Bindings.GeneratorWrites host s t l (Bindings.headerRoot t (Native.sourceDir t l))

instance (host : Host) (disk : Disk) (p : Parsed) (t : Target) :
    Decidable (WritesBindings host disk p t) :=
  match hlayout : (layoutOf host.cwd p t).result host { disk } with
  | .error _ => isTrue fun _ _ h => nomatch hlayout.symm.trans h.1
  | .ok l =>
    decidable_of_iff (Bindings.GeneratorWrites host ((layoutOf host.cwd p t).left host { disk }) t l
        (Bindings.headerRoot t (Native.sourceDir t l))) <| by
      constructor
      · rintro hwrites l' s ⟨hlayout', rfl⟩
        cases hlayout.symm.trans hlayout'
        exact hwrites
      · exact fun h => h l _ ⟨hlayout, rfl⟩

/-- What is on standard output when directives are written. -/
def streamOf (ds : List Directive) : String := textOf (ds.map Directive.line)

/-- The second command has written that part of the standard output of the first one that links,
and it stands there in one piece. -/
def LinksLike (built linked : Except Failure Response × Session) : Prop :=
  ∃ before links after, directivesOf built.2.log = before ++ links ++ after ∧
    (∀ d ∈ links, d.isLink = true) ∧ (∀ d ∈ before ++ after, d.isLink = false) ∧
    standardOutput linked = streamOf links ∧
    standardOutput built = streamOf before ++ standardOutput linked ++ streamOf after

/-- The second command has made the calls of the first one for the bindings, and has left the same
bindings at the same path. -/
structure BindsLike (host : Host) (built bound : Except Failure Response × Session) : Prop where
  calls : callsOf bound.2.log = (callsOf built.2.log).filter Call.isForBindings
  bindings : ∃ path content, bindingsNote path ∈ built.2.log ∧ bindingsNote path ∈ bound.2.log ∧
    built.2.disk.read host.cwd.parts path = .ok content ∧
    bound.2.disk.read host.cwd.parts path = .ok content

theorem streamOf_append (ds ds' : List Directive) :
    streamOf (ds ++ ds') = streamOf ds ++ streamOf ds' := by
  unfold streamOf textOf
  simp [String.join_append]

theorem session_run {c : Command} (h : c.grammar.read arguments = .ok p) :
    (run host env disk (c.name :: arguments)).2 = (perform env p c).left host { disk } := by
  rw [run_of_read h, session_runCommand]

theorem succeeds_run_iff {c : Command} (h : c.grammar.read arguments = .ok p) :
    Succeeds (run host env disk (c.name :: arguments)) ↔
      (perform env p c).result host { disk } = .ok () := by
  rw [run_of_read h, succeeds_runCommand_iff]

/-- What a command writes is the stream of its directives. -/
theorem standardOutput_eq_streamOf (host : Host) (env : Environment) (disk : Disk) {c : Command}
    (hc : c ∈ [.build, .link, .bindings])
    (h : c.grammar.read arguments = .ok p) :
    standardOutput (run host env disk (c.name :: arguments)) =
      streamOf (directivesOf ((perform env p c).left host { disk }).log) := by
  obtain ⟨hstdout, husual⟩ := standardOutput_run host env disk hc (by rw [h]; nofun)
  rw [hstdout, outputLines_eq husual, session_run h]
  rfl

/-- A log without effects has neither directives nor calls. -/
theorem of_effectsOf_eq_nil {said : List Event} (h : effectsOf said = []) :
    directivesOf said = [] ∧ callsOf said = [] := by
  rw [← directivesOf_effectsOf, ← callsOf_effectsOf, h]
  exact ⟨rfl, rfl⟩

variable {s : Session}

/-- The effects of a build are those of its run. -/
theorem Built.of_left (h : Built host env disk p t l s path) :
    directivesOf ((Pipeline.run t l).left host s).log =
        directivesOf ((Pipeline.run t l).events host s) ∧
      callsOf ((Pipeline.run t l).left host s).log =
        callsOf ((Pipeline.run t l).events host s) := by
  obtain ⟨plan, -, hfollows⟩ := Pipeline.exists_follows_run host s t l
  obtain ⟨hdirectives, hcalls⟩ := of_effectsOf_eq_nil h.silent
  rw [hfollows.within.log_left, directivesOf_append, callsOf_append, hdirectives, hcalls]
  exact ⟨rfl, rfl⟩

theorem Built.of_perform (h : Built host env disk p t l s path) :
    directivesOf ((perform env p .build).left host { disk }).log =
        directivesOf ((Pipeline.run t l).events host s) ∧
      callsOf ((perform env p .build).left host { disk }).log =
        callsOf ((Pipeline.run t l).events host s) := by
  rw [h.left_eq]
  dsimp only
  rw [directivesOf_append, callsOf_append, h.of_left.1, h.of_left.2]
  exact ⟨List.append_nil _, List.append_nil _⟩

/-- `link` writes the part of the output of a build that links. -/
theorem Built.linksLike (h : Built host env disk p t l s path)
    (hread : (Command.grammar .build).read arguments = .ok p)
    (hroot : ∀ argument ∈ arguments, ¬TakesRoot argument) :
    Succeeds (run host env disk (Command.link.name :: arguments)) ∧
      LinksLike (run host env disk (Command.build.name :: arguments))
        (run host env disk (Command.link.name :: arguments)) := by
  have hlink := read_link hread hroot
  obtain ⟨hresult, hleft⟩ := perform_link (value?_root hread) h.target_eq
  obtain ⟨⟨a, ha⟩, before, after, hsplit, hlinks, hothers⟩ :=
    Pipeline.directivesOf_run_split h.ran { disk }
  have hbuilt : directivesOf ((perform env p .build).left host { disk }).log =
      before ++ directivesOf ((perform env p .link).left host { disk }).log ++ after := by
    rw [h.of_perform.1, hsplit, hleft]
    rfl
  have hwritten := standardOutput_eq_streamOf host env disk (by simp) hread
  have hwritten' := standardOutput_eq_streamOf host env disk (by simp) hlink
  refine ⟨(succeeds_run_iff hlink).2 ?_, before, _, after, ?_, hlinks, hothers, ?_, ?_⟩
  · rw [hresult, ha]
    rfl
  · rw [session_run hread, hbuilt, hleft]
    rfl
  · rw [hwritten', hleft]
    rfl
  · rw [hwritten, hwritten', hbuilt, streamOf_append, streamOf_append]

/-- After the run of a build its settings are found again. -/
theorem Built.layoutOf_again (h : Built host env disk p t l s path)
    (hundisturbed : IsUndisturbed host p t l (callsOf ((Pipeline.run t l).left host s).log))
    (hsettled : p.path? host.cwd "--config" = none →
      disk.IsSettled host.cwd.parts (t.projectDir / Layout.fileName)) :
    (layoutOf host.cwd p t).result host { disk := ((Pipeline.run t l).left host s).disk } =
      .ok l := by
  have halone := Pipeline.leavesAlone_run h.ran hundisturbed.steady hundisturbed.straight
    hundisturbed.writes hundisturbed.settingsKept hundisturbed.settingsApart
  rw [h.disk_eq] at halone
  exact CommandLine.layoutOf_again h.layout_eq halone hsettled

/-- After the run of a build the command for the bindings makes the calls for them again, and leaves
the same bindings. -/
theorem Built.bindings_again (h : Built host env disk p t l s path)
    (hundisturbed : IsUndisturbed host p t l (callsOf ((Pipeline.run t l).left host s).log))
    (hwrites : WritesBindings host ((Pipeline.run t l).left host s).disk p t)
    (hsettled : p.path? host.cwd "--config" = none →
      disk.IsSettled host.cwd.parts (t.projectDir / Layout.fileName)) :
    let left := ((Pipeline.run t l).left host s).disk
    let bound := (perform env p .bindings).left host { disk := left }
    (perform env p .bindings).result host { disk := left } = .ok () ∧
      callsOf bound.log = (callsOf ((Pipeline.run t l).events host s)).filter Call.isForBindings ∧
      bindingsNote path ∈ bound.log ∧
      ∃ content, left.read host.cwd.parts path = .ok content ∧
        bound.disk.read host.cwd.parts path = .ok content := by
  intro left bound
  obtain ⟨s₁, hgenerate, hleft, hcalls⟩ := Pipeline.exists_generate_of_run h.ran
  have htarget : (target host.cwd env p).result host { disk := left } = .ok t :=
    (result_target_congr _ _).trans h.target_eq
  have hlayout := h.layoutOf_again hundisturbed hsettled
  obtain ⟨s₂, hloaded, hsilent, hdisk⟩ : ∃ s₂ : Session,
      (layoutOf host.cwd p t).left host { disk := left } = s₂ ∧ effectsOf s₂.log = [] ∧
        s₂.disk = left := by
    obtain ⟨said, hsaid, hloaded⟩ := exists_left_layoutOf host p t { disk := left }
    exact ⟨_, hloaded, hsaid, rfl⟩
  obtain ⟨hgenerate', hcalls', content, hread, hread'⟩ :=
    Bindings.generate_again (hleft ▸ hundisturbed.toIsUndisturbed) hgenerate
      (hdisk.trans (congrArg Session.disk hleft)) (hwrites l s₂ ⟨hlayout, hloaded⟩)
  obtain ⟨hresult, hbound⟩ :=
    perform_bindings h.project_eq htarget hlayout (hloaded.symm ▸ hgenerate')
  rw [hloaded] at hbound
  change bound = _ at hbound
  refine ⟨hresult, ?_, ?_, content, hdisk ▸ hread, ?_⟩
  · rw [hbound, hcalls, ← hcalls']
    dsimp only
    rw [Pipeline.neverPrints_generate.log_left, callsOf_append, callsOf_append,
      (of_effectsOf_eq_nil hsilent).2]
    exact List.append_nil _
  · rw [hbound]
    exact List.mem_append_right _ (List.mem_singleton.2 rfl)
  · rw [hbound]
    exact hread'

/-- `bindings` generates after a build what the build has generated. -/
theorem Built.bindsLike (h : Built host env disk p t l s path)
    (hread : (Command.grammar .build).read arguments = .ok p)
    (hundisturbed : IsUndisturbed host p t l
      (callsOf (run host env disk (Command.build.name :: arguments)).2.log))
    (hwrites : WritesBindings host (run host env disk (Command.build.name :: arguments)).2.disk p t)
    (hsettled : p.path? host.cwd "--config" = none →
      disk.IsSettled host.cwd.parts (t.projectDir / Layout.fileName)) :
    let built := run host env disk (Command.build.name :: arguments)
    let bound := run host env built.2.disk (Command.bindings.name :: arguments)
    Succeeds bound ∧ BindsLike host built bound := by
  intro built bound
  have hbuilt : built.2 = (perform env p .build).left host { disk } := session_run hread
  have hdisk : built.2.disk = ((Pipeline.run t l).left host s).disk := by
    rw [hbuilt, h.left_eq]
  have hcalls : callsOf built.2.log = callsOf ((Pipeline.run t l).events host s) := by
    rw [hbuilt, h.of_perform.2]
  have hbound : bound.2 = (perform env p .bindings).left host { disk := built.2.disk } :=
    session_run (c := .bindings) hread
  change IsUndisturbed host p t l (callsOf built.2.log) at hundisturbed
  change WritesBindings host built.2.disk p t at hwrites
  rw [hcalls, ← h.of_left.2] at hundisturbed
  rw [hdisk] at hwrites
  obtain ⟨hresult, hmade, hnote, content, hcontent⟩ :=
    h.bindings_again hundisturbed hwrites hsettled
  rw [← hdisk] at hresult hmade hnote hcontent
  rw [← hbound] at hmade hnote hcontent
  refine ⟨(succeeds_run_iff (c := .bindings) hread).2 hresult, hmade.trans (by rw [hcalls]),
    path, content, ?_, hnote, hcontent⟩
  rw [hbuilt, h.left_eq]
  exact List.mem_append_right _ (List.mem_singleton.2 rfl)

/-- The commands that do a part of a build agree with a build that succeeds: with its options `link`
writes the part of its output that links, and if nothing disturbs the bindings, the generator writes
its file again and the settings of the project are found again, `bindings` generates after it what
it has generated. -/
theorem the_partial_commands_agree_with_the_build {host : Host} {env : Environment} {disk : Disk}
    {arguments : List String}
    (hbuilt : Succeeds (run host env disk (Command.build.name :: arguments)))
    (hhelp : (Command.grammar .build).read arguments ≠ .error .help)
    (hroot : ∀ argument ∈ arguments, ¬TakesRoot argument) :
    let built := run host env disk (Command.build.name :: arguments)
    let linked := run host env disk (Command.link.name :: arguments)
    let bound := run host env built.2.disk (Command.bindings.name :: arguments)
    (Succeeds linked ∧ LinksLike built linked) ∧
      ((∀ p t l, Asks host env disk arguments p t l →
          IsUndisturbed host p t l (callsOf built.2.log) ∧
            WritesBindings host built.2.disk p t ∧
            (p.path? host.cwd "--config" = none →
              disk.IsSettled host.cwd.parts (t.projectDir / Layout.fileName))) →
        Succeeds bound ∧ BindsLike host built bound) := by
  intro built linked bound
  obtain ⟨p, hread, hperform⟩ := exists_of_succeeds hbuilt hhelp
  obtain ⟨t, l, s, path, h⟩ := exists_built hperform
  refine ⟨h.linksLike hread hroot, fun hagain => ?_⟩
  obtain ⟨hundisturbed, hwrites, hsettled⟩ := hagain p t l ⟨hread, h.target_eq, h.layout_eq⟩
  exact h.bindsLike hread hundisturbed hwrites hsettled

/-! ### Builds on a Mac -/

/-- The variables of a build on a Mac for itself, with a library that has been built already. -/
def macVariables (projectDir : String) : Environment := [
  ("CARGO_CFG_TARGET_ARCH", "aarch64"), ("CARGO_CFG_TARGET_OS", "macos"),
  ("HOST", "aarch64-apple-darwin"), ("TARGET", "aarch64-apple-darwin"), ("DEBUG", "false"),
  ("OPT_LEVEL", "0"), ("OUT_DIR", "/out"), ("CARGO_MANIFEST_DIR", projectDir),
  ("BORING_BSSL_PATH", "/bssl"), ("BORING_BSSL_INCLUDE_PATH", "/bssl/include")]

/-- The target that they give. -/
def macTarget (projectDir : String) : Target where
  architecture := "aarch64"
  system := "macos"
  host := "aarch64-apple-darwin"
  triple := "aarch64-apple-darwin"
  features := .ofList []
  environment := ""
  debugInfo := false
  optLevel := "0"
  outDir := .ofString "/out"
  projectDir := .ofString projectDir
  ndkHome := none
  prebuilt := some (.ofString "/bssl")
  headers := some (.ofString "/bssl/include")

/-- A machine whose tools end well and write the files that are given for a call. -/
def writingTools (written : Call → List (Path × String)) : Host where
  cwd := .ofString "/"
  tools _ call := .ended { stdout := "/sdk\n", written := written call }

/-- What a generator writes. -/
def generated (call : Call) : List (Path × String) :=
  (call.outputPath?.map fun path => (path, "bindings")).toList

/-- A disk with a project whose settings file gives the bindings another name. -/
def renamedBindings : Disk :=
  ⟨.folder [("crate", .folder [(Layout.fileName, .file "bindings_file: other.rs\n".toUTF8)])]⟩

/-- The arguments that give the settings file of the project. -/
def settingsArguments : List String := ["--config", "/crate/" ++ Layout.fileName]

/-- The arguments of a build ask for one thing only. -/
theorem Asks.unique {p p' : Parsed} {t t' : Target} {l l' : Layout}
    (h : Asks host env disk arguments p t l) (h' : Asks host env disk arguments p' t' l') :
    p' = p ∧ t' = t ∧ l' = l := by
  obtain rfl := Except.ok.inj (h.read.symm.trans h'.read)
  obtain rfl := Except.ok.inj (h.target_eq.symm.trans h'.target_eq)
  obtain rfl := Except.ok.inj (h.layout_eq.symm.trans h'.layout_eq)
  exact ⟨rfl, rfl, rfl⟩

/-- A build on a Mac is not disturbed if the generator writes its file and nothing is written under
the name of the settings file. -/
theorem isUndisturbed_macTarget {written : Call → List (Path × String)} {projectDir : String}
    {l : Layout} {calls : List Call}
    (hsettings : (Disk.target (Path.ofString "/").parts (settingsFile (writingTools written) p
      (macTarget projectDir))).getLast? = some Layout.fileName)
    (houtput : (Disk.target (Path.ofString "/").parts
      (Path.ofString "/out" / l.bindingsFile)).getLast? ≠
      some Layout.fileName)
    (hstraight : ".." ∉ (Path.ofString "/" / (Path.ofString "/out" / l.bindingsFile)).parts)
    (hcalls : ∀ call ∈ calls, (call.isGenerate = true → call.outputText? (writingTools written)
        { stdout := "/sdk\n", written := written call } ≠ none) ∧
      ∀ loc ∈ call.files (writingTools written), loc.getLast? ≠ some Layout.fileName) :
    IsUndisturbed (writingTools written) p (macTarget projectDir) l calls where
  steady _ _ := rfl
  absolute := rfl
  straight := hstraight
  writes call hcall hgenerate exit hexit _ := by
    cases hexit
    exact (hcalls call hcall).1 hgenerate
  outsideNdk := nofun
  settingsKept call hcall hfile := (hcalls call hcall).2 _ hfile hsettings
  settingsApart heq := houtput ((congrArg List.getLast? heq).trans hsettings)

/-- A build on a Mac by a settings file that is given. -/
theorem the_parts_of_a_mac_build_agree :
    let built := run (writingTools generated) (macVariables "/crate") renamedBindings
      (Command.build.name :: settingsArguments)
    let linked := run (writingTools generated) (macVariables "/crate") renamedBindings
      (Command.link.name :: settingsArguments)
    let bound := run (writingTools generated) (macVariables "/crate") built.2.disk
      (Command.bindings.name :: settingsArguments)
    Succeeds built ∧ (Succeeds linked ∧ LinksLike built linked) ∧
      (Succeeds bound ∧ BindsLike (writingTools generated) built bound) := by
  intro built linked bound
  have hbuilt : Succeeds built := by decide +kernel
  have hasks : Asks (writingTools generated) (macVariables "/crate") renamedBindings
      settingsArguments { given := [("--config", some "/crate/boring-build.yaml")] }
      (macTarget "/crate") { Layout.default with bindingsFile := "other.rs" } :=
    ⟨eq_ok_of_toOption (by decide +kernel), eq_ok_of_toOption (by decide +kernel),
      eq_ok_of_toOption (by decide +kernel)⟩
  obtain ⟨hlinked, hbound⟩ := the_partial_commands_agree_with_the_build hbuilt
    (by rw [hasks.read]; nofun) (by decide +kernel)
  refine ⟨hbuilt, hlinked, hbound fun p t l h => ?_⟩
  obtain ⟨rfl, rfl, rfl⟩ := hasks.unique h
  exact ⟨isUndisturbed_macTarget (by decide +kernel) (by decide +kernel) (by decide +kernel)
    (by decide +kernel), by decide +kernel, nofun⟩

/-- A build that nothing disturbs, and after which its bindings are not generated again although the
generator writes its file. -/
def LosesBindings (host : Host) (env : Environment) (disk : Disk) (arguments : List String) :
    Prop :=
  let built := run host env disk (Command.build.name :: arguments)
  let bound := run host env built.2.disk (Command.bindings.name :: arguments)
  Succeeds built ∧
    (∃ p t l, Asks host env disk arguments p t l ∧
      IsUndisturbed host p t l (callsOf built.2.log) ∧ WritesBindings host built.2.disk p t) ∧
    ¬(Succeeds bound ∧ BindsLike host built bound)

theorem losesBindings_macVariables {written : Call → List (Path × String)} {projectDir : String}
    (h : let host := writingTools written
      let env := macVariables projectDir
      let built := run host env disk [Command.build.name]
      let bound := run host env built.2.disk [Command.bindings.name]
      Succeeds built ∧
        ((target host.cwd env {}).result host { disk }).toOption = some (macTarget projectDir) ∧
        ((layoutOf host.cwd {} (macTarget projectDir)).result host { disk }).toOption =
          some .default ∧
        (∀ call ∈ callsOf built.2.log, (call.isGenerate = true → call.outputText? host
            { stdout := "/sdk\n", written := written call } ≠ none) ∧
          ∀ loc ∈ call.files host, loc.getLast? ≠ some Layout.fileName) ∧
        WritesBindings host built.2.disk {} (macTarget projectDir) ∧
        (¬Succeeds bound ∨
          callsOf bound.2.log ≠ (callsOf built.2.log).filter Call.isForBindings)) :
    LosesBindings (writingTools written) (macVariables projectDir) disk [] := by
  obtain ⟨hbuilt, htarget, hlayout, hcalls, hwrites, hlost⟩ := h
  have hasks : Asks (writingTools written) (macVariables projectDir) disk [] {}
      (macTarget projectDir) .default :=
    ⟨eq_ok_of_toOption (by decide +kernel), eq_ok_of_toOption htarget, eq_ok_of_toOption hlayout⟩
  have hsettings : (Disk.target (Path.ofString "/").parts (settingsFile (writingTools written) {}
      (macTarget projectDir))).getLast? = some Layout.fileName := by
    change (Disk.target (Path.ofString "/").parts
      ((macTarget projectDir).projectDir / Layout.fileName)).getLast? = _
    rw [Disk.target_div_part (by decide +kernel) (by decide), List.getLast?_append]
    rfl
  refine ⟨hbuilt, ⟨{}, _, .default, hasks, ?_, hwrites⟩, fun h => ?_⟩
  · exact isUndisturbed_macTarget hsettings (by decide +kernel) (by decide +kernel) hcalls
  · exact hlost.elim (absurd h.1) (absurd h.2.calls)

/-- A folder of a project whose name is too long, in the output folder. -/
def longProject : String := "/out/" ++ String.ofList (List.replicate 256 'x')

/-- The output folder, which the build makes, opens a way to the settings file, or to a name that is
too long. -/
theorem the_parts_of_a_build_can_differ :
    LosesBindings (writingTools generated) (macVariables "/out/../crate") renamedBindings [] ∧
    LosesBindings (writingTools generated) (macVariables longProject) .empty [] :=
  ⟨losesBindings_macVariables (by decide +kernel), losesBindings_macVariables (by decide +kernel)⟩

end CommandLine

end CrossBuild
