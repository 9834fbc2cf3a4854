-- What `params` shows of a build. The folder of the sources and the definitions are those that
-- the build passes to CMake, unless one of them has a line feed in it, which makes several lines
-- of one, or it is a FIPS build: the compilers that such a build chooses are defined too, and
-- they are not shown.
import CrossBuild.Proofs.FipsBuilds
import CrossBuild.Proofs.PartialCommands
import CrossBuild.Proofs.RequiredVariables
import CrossBuild.Proofs.SourceTrees

namespace CrossBuild

open Job

variable {host : Host} {s : Session} {t : Target} {l : Layout}

/-! ## The arguments of a configure command -/

namespace CMake

variable {c : Config} {name value : String}

/-- What a configuration collects has the same names for every profile. -/
theorem length_collected (c : Config) (profile profile' : String) :
    (c.collected profile).length = (c.collected profile').length := by
  have hprofile : (c.profileDefinition profile).length = (c.profileDefinition profile').length := by
    unfold Config.profileDefinition
    split <;> rfl
  unfold Config.collected
  simp only [List.length_append, hprofile]

/-- Behind the place to install to, a configure command has the definitions of its configuration
and what has been collected. -/
theorem drop_configureArguments (c : Config) (outDir : Path) (profile : String) :
    (c.configureArguments outDir profile).drop 2 =
      c.definitions.map (fun d => Config.defineArgument d.1 d.2) ++
        (c.collected profile).map fun d => Config.defineArgument d.1 d.2 := by
  change (c.configureArguments outDir profile).tail.tail = _
  rw [c.tail_configureArguments, List.cons_append, List.map_cons, List.tail_cons, List.map_append]

/-- Only the flags of the compilers and the profile are collected. -/
theorem not_mem_collected (hname : '=' ∉ name.toList) (hother : name ∉ reservedNames)
    (profile : String) : Config.defineArgument name value ∉
      (c.collected profile).map fun d => Config.defineArgument d.1 d.2 := by
  intro hmem
  obtain ⟨d, hd, heq⟩ := List.mem_map.1 hmem
  have hreserved : d.1 ∈ reservedNames :=
    List.mem_of_mem_tail ((c.names_collected profile).1.mem (List.mem_map_of_mem hd))
  have hread := congrArg definition? heq
  rw [definition?_defineArgument (no_equals_sign d.1 hreserved),
    definition?_defineArgument hname] at hread
  rw [show d.1 = name from congrArg Prod.fst (Option.some.inj hread)] at hreserved
  exact hother hreserved

/-- Lines show a configure command that collects what the configuration does: its sources, and
what it defines between the place to install to and what has been collected. -/
structure Shows (lines : List String) (c : Config) (call : Call) : Prop where
  source : ∃ source, call.arguments.head? = some source ∧
    lines.filter (fun line => Text.startsWith line "source_dir=") = ["source_dir=" ++ source]
  definitions : ∃ profile, call.arguments.drop 2 =
    lines.filter (fun line => Text.startsWith line "-D") ++
      (c.collected profile).map fun d => Config.defineArgument d.1 d.2

/-- What a configuration has to show does not go beyond its lines. -/
structure FitsOnLines (c : Config) : Prop where
  source : '\n' ∉ c.sourceDir.text.toList
  definitions : ∀ d ∈ c.definitions, '\n' ∉ d.2.toList

instance (c : Config) : Decidable (FitsOnLines c) :=
  decidable_of_iff (_ ∧ _)
    ⟨fun ⟨hsource, hdefinitions⟩ => ⟨hsource, hdefinitions⟩, fun h => ⟨h.source, h.definitions⟩⟩

end CMake

/-! ## The configuration of a run -/

namespace Native

/-- The configurations that a build may go by. Those of a FIPS build name the compilers that it has
chosen. -/
def IsChosen (t : Target) (l : Layout) (c : CMake.Config) : Prop :=
  if t.enables .fips then ∃ compilers, c = withCompilers compilers (withFuzzing t (configFor t l))
  else c = withFuzzing t (configFor t l)

theorem isChosen_of_chooseCompilers {c : CMake.Config}
    (h : (chooseCompilers t (withFuzzing t (configFor t l))).result host s = .ok c) :
    IsChosen t l c := by
  unfold chooseCompilers at h
  unfold IsChosen
  cases hfips : t.enables .fips with
  | true =>
    rw [hfips, if_pos rfl] at h
    obtain ⟨compilers, -, h⟩ := result_bind_eq_ok.1 h
    exact ⟨compilers, (Except.ok.inj h).symm⟩
  | false =>
    rw [hfips, if_neg Bool.false_ne_true] at h
    exact (Except.ok.inj h).symm

theorem collected_withCompilers (compilers : Compilers) (c : CMake.Config) (profile : String) :
    (withCompilers compilers c).collected profile = c.collected profile := by
  have hdefined {name : String} (hname : name ∉ compilerNames) :
      (withCompilers compilers c).isDefined name = c.isDefined name := by
    have hnone : CMake.lastValue? name (compilerDefinitions compilers) = none := by
      rw [CMake.lastValue?_eq_none]
      rintro d hd rfl
      exact hname (mem_compilerNames_of_mem_compilerDefinitions hd)
    rw [CMake.Config.isDefined_eq, CMake.Config.isDefined_eq, definitions_withCompilers,
      CMake.lastValue?_append, hnone, Option.none_or]
  unfold CMake.Config.collected CMake.Config.flagsDefinition CMake.Config.profileDefinition
  rw [hdefined (by decide), hdefined (by decide), hdefined (by decide)]
  rfl

/-- What a build goes by has the sources of its target, defines what the target does, and the
compilers of a FIPS build besides, and collects what the target does. -/
theorem IsChosen.spec {c : CMake.Config} (h : IsChosen t l c) :
    c.sourceDir = (configFor t l).sourceDir ∧
      (∃ more, c.definitions = definitionsFor t l ++ more ∧
        (more = [] ↔ t.enables .fips = false)) ∧
      ∀ profile, c.collected profile = (withFuzzing t (configFor t l)).collected profile := by
  have hsource : (withFuzzing t (configFor t l)).sourceDir = (configFor t l).sourceDir := by
    rw [withFuzzing_configFor]
  have hdefinitions : (withFuzzing t (configFor t l)).definitions = definitionsFor t l := by
    rw [withFuzzing_configFor]
    rfl
  unfold IsChosen at h
  cases hfips : t.enables .fips with
  | true =>
    rw [if_pos hfips] at h
    obtain ⟨compilers, rfl⟩ := h
    refine ⟨hsource, ⟨compilerDefinitions compilers, ?_, by simp [compilerDefinitions]⟩, fun _ =>
      collected_withCompilers compilers _ _⟩
    rw [definitions_withCompilers, hdefinitions]
  | false =>
    rw [hfips, if_neg Bool.false_ne_true] at h
    rw [h]
    exact ⟨hsource, ⟨[], by rw [hdefinitions, List.append_nil], by simp⟩, fun _ => rfl⟩

/-- The flags that are collected for the C compiler are fixed texts. -/
theorem noLineFeed_of_mem_cFlagsFor {flag : String} (h : flag ∈ cFlagsFor t) :
    '\n' ∉ flag.toList := by
  unfold cFlagsFor at h
  split at h
  · rename_i hios
    have hother : ¬Text.endsWith t.triple catalystTail = true := fun htail =>
      hios.2.2 ⟨hios.1, hios.2.1, htail⟩
    rw [List.mem_singleton.1 h, iosFlags, if_neg hother]
    split <;> decide
  · cases h

end Native

namespace Pipeline

theorem notNative_chooseCompilers {c : CMake.Config} :
    Within NotNative (Native.chooseCompilers t c) host s := by
  unfold Native.chooseCompilers
  split
  · exact Within.bind notNative_choice fun _ _ => within_pure _
  · exact within_pure _

/-- Every configure command of a run goes by a configuration that the run has chosen. -/
theorem exists_chosen_of_mem {call : Call} (hprebuilt : t.prebuilt = none)
    (hcall : call ∈ callsOf ((run t l).events host s)) (hconfigure : call.isConfigure = true) :
    ∃ c profile, Native.IsChosen t l c ∧
      call = CMake.configureCall c t.outDir profile l.cmake := by
  let Chosen (a : Action) : Prop := ∀ call, a = .start call → call.isConfigure = true →
    ∃ c profile, Native.IsChosen t l c ∧ call = CMake.configureCall c t.outDir profile l.cmake
  have hother {a : Action} (ha : NotNative a) : Chosen a := by
    rintro call rfl hconfigure
    have hnative := ha (.started call) rfl
    simp [Event.isNative, hconfigure] at hnative
  have hwithin : Within Chosen (run t l) host s := by
    rw [run_eq hprebuilt]
    refine Within.bind (notNative_untilCompilers.mono fun _ => hother) fun c hc => ?_
    rw [eq_of_untilCompilers hc]
    refine Within.bind (notNative_chooseCompilers.mono fun _ => hother) fun c hc => ?_
    refine (configuresBy_afterCompilers c).mono ?_
    rintro _ hconfigures call rfl hconfigure
    obtain ⟨profile, heq⟩ := hconfigures (.started call) rfl call rfl hconfigure
    exact ⟨c, profile, Native.isChosen_of_chooseCompilers hc, heq⟩
  exact hwithin.start_of_mem (mem_callsOf.1 hcall) call rfl hconfigure

end Pipeline

namespace CommandLine

open CMake

variable {env : Environment} {disk : Disk} {arguments : List String} {p : Parsed} {c : Config}
  {outDir : Path} {profile program : String}

/-! ## Lines and commands -/

/-- The lines of a text: what stands in front of its line feeds, between them, and behind them. -/
def linesIn (text : String) : List String := (text.toList.splitOn '\n').map String.ofList

theorem linesIn_textOf {lines : List String} (h : ∀ line ∈ lines, '\n' ∉ line.toList) :
    linesIn (textOf lines) = lines ++ [""] := by
  unfold linesIn
  rw [(splitOn_textOf_iff lines).2 h, List.map_append, List.map_map]
  simp [Function.comp_def]

theorem not_mem_of_mem_linesIn {text line : String} (h : line ∈ linesIn text) :
    '\n' ∉ line.toList := by
  obtain ⟨piece, hpiece, rfl⟩ := List.mem_map.1 h
  rw [String.toList_ofList]
  exact Text.not_mem_of_mem_splitOn hpiece

theorem startsWith_defineArgument (name value : String) :
    Text.startsWith (Config.defineArgument name value) "source_dir=" = false ∧
      Text.startsWith (Config.defineArgument name value) "-D" = true := by
  simp [Text.startsWith, Config.defineArgument, List.isPrefixOf]

/-- The lines that show a configuration are told apart by their starts. -/
theorem filter_configLines (c : Config) :
    (configLines c).filter (fun line => Text.startsWith line "source_dir=") =
        ["source_dir=" ++ c.sourceDir.text] ∧
      (configLines c).filter (fun line => Text.startsWith line "-D") =
        c.definitions.map (fun d => Config.defineArgument d.1 d.2) := by
  have hsource : Text.startsWith ("source_dir=" ++ c.sourceDir.text) "source_dir=" = true ∧
      Text.startsWith ("source_dir=" ++ c.sourceDir.text) "-D" = false := by
    simp [Text.startsWith, List.isPrefixOf]
  have hflag (flag : String) : Text.startsWith ("cflag " ++ flag) "source_dir=" = false ∧
      Text.startsWith ("cflag " ++ flag) "-D" = false := by
    simp [Text.startsWith, List.isPrefixOf]
  have hdefinitions : (c.definitions.map fun d => Config.defineArgument d.1 d.2).filter
      (fun line => Text.startsWith line "-D") =
        c.definitions.map fun d => Config.defineArgument d.1 d.2 :=
    List.filter_eq_self.2 (List.forall_mem_map.2 fun d _ => (startsWith_defineArgument d.1 d.2).2)
  have hnone {starts : String} (hdefinition : ∀ name value,
        Text.startsWith (Config.defineArgument name value) starts = false) :
      (c.definitions.map fun d => Config.defineArgument d.1 d.2).filter
        (fun line => Text.startsWith line starts) = [] := by
    rw [List.filter_eq_nil_iff, List.forall_mem_map]
    exact fun d _ => by simp [hdefinition]
  have hflags {starts : String}
      (hflag : ∀ flag, Text.startsWith ("cflag " ++ flag) starts = false) :
      (c.cFlags.map fun flag => "cflag " ++ flag).filter
        (fun line => Text.startsWith line starts) = [] := by
    rw [List.filter_eq_nil_iff, List.forall_mem_map]
    exact fun flag _ => by simp [hflag]
  unfold configLines
  constructor
  · rw [List.filter_append, List.filter_append, hnone fun _ _ => (startsWith_defineArgument _ _).1,
      hflags fun flag => (hflag flag).1]
    simp [hsource]
  · rw [List.filter_append, List.filter_append, hdefinitions, hflags fun flag => (hflag flag).2]
    simp [hsource]

theorem noLineFeed_of_mem_configLines (h : FitsOnLines (Native.configFor t l)) :
    ∀ line ∈ configLines (Native.configFor t l), '\n' ∉ line.toList := by
  have hnames : ∀ name ∈ Native.parameterNames ++ Native.platformNames, '\n' ∉ name.toList := by
    decide
  intro line hline
  unfold configLines at hline
  rcases List.mem_append.1 hline with hline | hline
  · rcases List.mem_append.1 hline with hline | hline
    · rw [List.mem_singleton.1 hline]
      simpa using h.source
    · obtain ⟨d, hd, rfl⟩ := List.mem_map.1 hline
      have hname := hnames d.1 (Native.mem_names_of_mem_definitionsFor hd)
      simpa [Config.defineArgument, hname] using h.definitions d hd
  · obtain ⟨flag, hflag, rfl⟩ := List.mem_map.1 hline
    simpa using Native.noLineFeed_of_mem_cFlagsFor hflag

section

variable {lines : List String} {c' : Config}

/-- Lines that show a configure command have all that its configuration defines. -/
theorem filter_eq_of_shows (h : Shows lines c' (configureCall c outDir profile program))
    (hcollected : ∀ profile, c.collected profile = c'.collected profile) :
    lines.filter (fun line => Text.startsWith line "-D") =
      c.definitions.map fun d => Config.defineArgument d.1 d.2 := by
  obtain ⟨profile', hdrop⟩ := h.definitions
  refine List.append_inj_left' (hdrop.symm.trans (drop_configureArguments c outDir profile)) ?_
  rw [List.length_map, List.length_map, hcollected, length_collected]

/-- What the lines of a text show of a configure command fits on them. -/
theorem fitsOnLines_of_shows {text : String}
    (h : Shows (linesIn text) c' (configureCall c outDir profile program))
    (hcollected : ∀ profile, c.collected profile = c'.collected profile) : FitsOnLines c := by
  constructor
  · obtain ⟨source, hsource, hlines⟩ := h.source
    have hline : "source_dir=" ++ source ∈ linesIn text :=
      (List.mem_filter.1 (hlines ▸ List.mem_singleton_self _)).1
    cases hsource
    simpa using not_mem_of_mem_linesIn hline
  · intro d hd
    have hshown : Config.defineArgument d.1 d.2 ∈
        (linesIn text).filter fun line => Text.startsWith line "-D" := by
      rw [filter_eq_of_shows h hcollected]
      exact List.mem_map_of_mem hd
    have hfeed := not_mem_of_mem_linesIn (List.mem_filter.1 hshown).1
    intro hvalue
    exact hfeed (by simp [Config.defineArgument, hvalue])

end

/-- The lines that `params` prints of a target show its configure commands exactly if these are not
of a FIPS build and what is to be shown fits on lines. -/
theorem shows_configureCall_iff (h : Native.IsChosen t l c) :
    Shows (linesIn (textOf (configLines (Native.configFor t l))))
        (Native.withFuzzing t (Native.configFor t l)) (configureCall c outDir profile program) ↔
      t.enables .fips = false ∧ FitsOnLines (Native.configFor t l) := by
  obtain ⟨hsource, ⟨more, hdefinitions, hmore⟩, hcollected⟩ := h.spec
  obtain ⟨hsources, hshown⟩ := filter_configLines (Native.configFor t l)
  constructor
  · intro hshows
    have hfitting := fitsOnLines_of_shows hshows hcollected
    have hfits : FitsOnLines (Native.configFor t l) :=
      ⟨hsource ▸ hfitting.source, fun d hd =>
        hfitting.definitions d (hdefinitions ▸ List.mem_append_left _ hd)⟩
    refine ⟨hmore.1 ?_, hfits⟩
    have hfiltered := filter_eq_of_shows hshows hcollected
    rw [linesIn_textOf (noLineFeed_of_mem_configLines hfits), List.filter_append, hshown,
      hdefinitions, List.map_append] at hfiltered
    exact List.map_eq_nil_iff.1 (List.append_cancel_left hfiltered).symm
  · rintro ⟨hfips, hfits⟩
    rw [hmore.2 hfips, List.append_nil] at hdefinitions
    rw [linesIn_textOf (noLineFeed_of_mem_configLines hfits)]
    refine ⟨⟨c.sourceDir.text, rfl, ?_⟩, profile, ?_⟩
    · rw [List.filter_append, hsources, hsource]
      rfl
    · rw [List.filter_append, hshown, ← hcollected]
      refine (drop_configureArguments c outDir profile).trans ?_
      rw [hdefinitions]
      simp [Text.startsWith, Native.configFor]

/-! ## Two commands -/

/-- The lines on the standard output of a command. -/
def linesOf (outcome : Except Failure Response × Session) : List String :=
  linesIn (standardOutput outcome)

theorem outputLines_of_silent {α : Type} {j : Job α} (h : Within (fun _ => False) j host s) :
    (j.left host s).log.flatMap outputLines = s.log.flatMap outputLines := by
  have hnone : ∀ e ∈ j.events host s, outputLines e = [] :=
    (h.mono fun _ => False.elim).forall_events (fun _ _ _ => rfl) fun _ _ => rfl
  rw [h.log_left, List.flatMap_append, List.flatMap_eq_nil_iff.2 hnone, List.append_nil]

theorem outputLines_print (lines : List String) (s : Session) :
    ((lines.forM Job.print).left host s).log.flatMap outputLines =
      s.log.flatMap outputLines ++ lines := by
  induction lines generalizing s with
  | nil => exact (List.append_nil _).symm
  | cons line rest ih =>
    change ((Job.print line >>= fun _ => rest.forM Job.print).left host s).log.flatMap _ = _
    rw [left_bind_of_ok rfl, ih]
    change (s.log ++ [Event.printed line]).flatMap outputLines ++ rest = _
    rw [List.flatMap_append, List.append_assoc]
    rfl

/-- `params` writes the lines of the configuration of its target. -/
theorem exists_shown (h : (perform env p .params).result host { disk } = .ok ()) :
    ∃ t l, (target host.cwd env p).result host { disk } = .ok t ∧
      (layoutOf host.cwd p t).result host { disk } = .ok l ∧
      ((perform env p .params).left host { disk }).log.flatMap outputLines =
        configLines (Native.configFor t l) := by
  have hleft : (perform env p .params).left host { disk } =
      (perform env p .params).left host { disk } := rfl
  conv at hleft => rhs; unfold perform
  unfold perform at h
  rw [result_bind_of_ok result_read, left_read] at h
  rw [left_bind_of_ok result_read, left_read] at hleft
  obtain ⟨t, ht, h⟩ := result_bind_eq_ok.1 h
  rw [left_target] at h
  rw [left_bind_of_ok ht, left_target] at hleft
  obtain ⟨l, hl, h⟩ := result_bind_eq_ok.1 h
  rw [left_bind_of_ok hl] at hleft
  obtain ⟨u, hu, h⟩ := result_bind_eq_ok.1 h
  rw [left_bind_of_ok hu] at hleft
  obtain ⟨c, hc, h⟩ := result_bind_eq_ok.1 h
  rw [left_bind_of_ok hc] at hleft
  refine ⟨t, l, ht, hl, ?_⟩
  have hneed (s : Session) : Within (fun _ => False) (needProject p) host s := by
    unfold needProject
    split
    · exact within_throw _
    · exact within_pure _
  rw [hleft, outputLines_print, outputLines_of_silent (Native.within_config _ _ _),
    outputLines_of_silent (hneed _), outputLines_of_silent (within_layoutOf _),
    Native.eq_configFor hc]
  rfl

theorem prebuilt_of_ofEnvironment {cwd : Path} (h : Target.ofEnvironment cwd env = .ok t) :
    t.prebuilt = env.path? "BORING_BSSL_PATH" := by
  obtain ⟨-, rfl⟩ := Target.ofEnvironment_eq_ok_iff.1 h
  rfl

/-- Where the library has been built already is told by its variable alone. -/
theorem prebuilt_of_targetOf {cwd : Path} (h : targetOf cwd env p = .ok t) :
    t.prebuilt = env.path? "BORING_BSSL_PATH" := by
  unfold targetOf at h
  split at h
  · rename_i triple htriple
    cases hparse : Triple.parse triple with
    | error e =>
      unfold Target.ofTriple at h
      rw [hparse] at h
      cases h
    | ok parsed =>
      rw [Target.ofTriple_eq hparse] at h
      cases h
      rfl
  · cases hfound : Target.ofEnvironment cwd env with
    | error e =>
      rw [hfound] at h
      cases h
    | ok t' =>
      rw [hfound] at h
      cases h
      change t'.prebuilt = _
      exact prebuilt_of_ofEnvironment hfound

theorem prebuilt_of_target (h : (target host.cwd env p).result host s = .ok t) :
    t.prebuilt = env.path? "BORING_BSSL_PATH" := by
  obtain ⟨t', ht', h⟩ := result_bind_eq_ok.1 h
  rw [result_get] at ht'
  cases hof : targetOf host.cwd env p with
  | error e =>
    rw [hof] at ht'
    cases ht'
  | ok t'' =>
    rw [hof] at ht'
    cases ht'
    dsimp only at h
    split at h
    · cases h
    · cases h
      exact prebuilt_of_targetOf hof

/-- If a build without a library that has been built already succeeds, and `params` with the same
options does, then the lines of `params` show every configure command of the build exactly if it
is no FIPS build and neither the folder of the sources nor what is defined has a line feed in it. -/
theorem the_parameters_are_shown_iff {host : Host} {env : Environment} {disk : Disk}
    {arguments : List String}
    (hbuilt : Succeeds (run host env disk (Command.build.name :: arguments)))
    (hshown : Succeeds (run host env disk (Command.params.name :: arguments)))
    (hvariable : env.path? "BORING_BSSL_PATH" = none) :
    (∀ call ∈ callsOf (run host env disk (Command.build.name :: arguments)).2.log,
      call.isConfigure = true → ∃ p t l, Asks host env disk arguments p t l ∧
        Shows (linesOf (run host env disk (Command.params.name :: arguments)))
          (Native.withFuzzing t (Native.configFor t l)) call) ↔
    ∀ p t l, Asks host env disk arguments p t l →
      t.enables .fips = false ∧ FitsOnLines (Native.configFor t l) := by
  by_cases hhelp : (Command.grammar .build).read arguments = .error .help
  · have hnone : callsOf (run host env disk (Command.build.name :: arguments)).2.log = [] := by
      unfold run
      simp only [ofName?_name, hhelp]
      rfl
    rw [hnone]
    refine iff_of_true (fun _ hcall => absurd hcall List.not_mem_nil) fun p t l hasks => ?_
    cases hhelp.symm.trans hasks.read
  · obtain ⟨p, hread, hbuild⟩ := exists_of_succeeds hbuilt hhelp
    obtain ⟨t, l, s, path, h⟩ := exists_built hbuild
    have hasks : Asks host env disk arguments p t l := ⟨hread, h.target_eq, h.layout_eq⟩
    have hread' : (Command.grammar .params).read arguments = .ok p := hread
    obtain ⟨t', l', ht', hl', hlines⟩ := exists_shown ((succeeds_run_iff hread').1 hshown)
    have hasks' : Asks host env disk arguments p t' l' := ⟨hread, ht', hl'⟩
    obtain ⟨-, rfl, rfl⟩ := hasks'.unique hasks
    have hprebuilt : t.prebuilt = none := (prebuilt_of_target h.target_eq).trans hvariable
    have hcalls : callsOf (run host env disk (Command.build.name :: arguments)).2.log =
        callsOf ((Pipeline.run t l).events host s) := by
      rw [session_run hread, h.of_perform.2]
    have hshows : linesOf (run host env disk (Command.params.name :: arguments)) =
        linesIn (textOf (configLines (Native.configFor t l))) := by
      unfold linesOf
      rw [run_of_read hread', standardOutput_runCommand, hlines]
    rw [hcalls, hshows]
    constructor
    · intro hall p' t' l' hasks'
      obtain ⟨-, rfl, rfl⟩ := hasks'.unique hasks
      obtain ⟨c, profile, -, hcall⟩ := Pipeline.configureCall_mem hprebuilt h.ran
      have hconfigure := isConfigure_configureCall c t.outDir profile l.cmake
      obtain ⟨c', profile', hchosen, heq⟩ :=
        Pipeline.exists_chosen_of_mem hprebuilt hcall hconfigure
      obtain ⟨p'', t'', l'', hasks'', hshown⟩ := hall _ hcall hconfigure
      obtain ⟨-, rfl, rfl⟩ := hasks''.unique hasks
      rw [heq] at hshown
      exact (shows_configureCall_iff hchosen).1 hshown
    · intro hfits call hcall hconfigure
      obtain ⟨c, profile, hchosen, rfl⟩ :=
        Pipeline.exists_chosen_of_mem hprebuilt hcall hconfigure
      exact ⟨p, t, l, hasks, (shows_configureCall_iff hchosen).2 (hfits p t l hasks)⟩

/-- The arguments of a build for iOS on a Mac, for fuzzing. -/
def iosArguments : List String :=
  ["--target", "aarch64-apple-ios", "--host", "x86_64-apple-darwin", "--feature", "fuzzing"]

/-- What they say. -/
def iosOptions : Parsed :=
  { given := [("--target", some "aarch64-apple-ios"), ("--host", some "x86_64-apple-darwin"),
      ("--feature", some "fuzzing")] }

/-- The lines that are shown of a build for iOS are those of its configure commands. -/
theorem the_parameters_of_an_ios_build_are_shown :
    let built := run (writingTools generated) [] .empty (Command.build.name :: iosArguments)
    let shown := run (writingTools generated) [] .empty (Command.params.name :: iosArguments)
    Succeeds built ∧ Succeeds shown ∧
      (linesOf shown).filter (fun line => Text.startsWith line "-D") ≠ [] ∧
      ∃ call ∈ callsOf built.2.log, call.isConfigure = true ∧
        ∃ p t l, Asks (writingTools generated) [] .empty iosArguments p t l ∧
          Shows (linesOf shown) (Native.withFuzzing t (Native.configFor t l)) call := by
  intro built shown
  have hbuilt : Succeeds built := by decide +kernel
  have hshown : Succeeds shown := by decide +kernel
  have hconfigured : ∃ call ∈ callsOf built.2.log, call.isConfigure = true := by decide +kernel
  obtain ⟨call, hcall, hconfigure⟩ := hconfigured
  have hoptions : (Command.grammar .build).read iosArguments = .ok iosOptions :=
    eq_ok_of_toOption (by decide +kernel)
  refine ⟨hbuilt, hshown, by decide +kernel, call, hcall, hconfigure, ?_⟩
  refine (the_parameters_are_shown_iff hbuilt hshown rfl).2 (fun p t l hasks => ?_) call hcall
    hconfigure
  obtain rfl := Except.ok.inj (hoptions.symm.trans hasks.read)
  have hfits : ((target (writingTools generated).cwd [] iosOptions).result (writingTools generated)
      { disk := .empty }).toOption.map (fun t =>
        ((layoutOf (writingTools generated).cwd iosOptions t).result (writingTools generated)
          { disk := .empty }).toOption.map fun l =>
            decide (t.enables .fips = false ∧ FitsOnLines (Native.configFor t l))) =
      some (some true) := by decide +kernel
  rw [hasks.target_eq] at hfits
  have hlayout := Option.some.inj hfits
  dsimp only at hlayout
  rw [hasks.layout_eq] at hlayout
  exact of_decide_eq_true (Option.some.inj hlayout)

/-- The arguments of a FIPS build for Linux. -/
def fipsArguments : List String := ["--target", "x86_64-unknown-linux-gnu", "--feature", "fips"]

/-- A machine whose compilers have the required version, and whose generator writes its file. -/
def verifiedTools : Host where
  cwd := .ofString "/"
  tools _ call := .ended {
    stdout := if call.arguments = ["--version"] then "clang version 7.0.1\n" else ""
    written := generated call }

/-- A FIPS build defines its compilers first of all, and `params` shows no definition. -/
theorem the_compilers_of_a_fips_build_are_not_shown :
    let built := run verifiedTools [] .empty (Command.build.name :: fipsArguments)
    let shown := run verifiedTools [] .empty (Command.params.name :: fipsArguments)
    Succeeds built ∧ Succeeds shown ∧
      ¬∀ call ∈ callsOf built.2.log, call.isConfigure = true →
        ∃ p t l, Asks verifiedTools [] .empty fipsArguments p t l ∧
          Shows (linesOf shown) (Native.withFuzzing t (Native.configFor t l)) call := by
  intro built shown
  refine ⟨by decide +kernel, by decide +kernel, fun h => ?_⟩
  have hnone : (linesOf shown).filter (fun line => Text.startsWith line "-D") = [] := by
    decide +kernel
  have hconfigured : ∃ call ∈ callsOf built.2.log, call.isConfigure = true ∧
      Config.defineArgument "CMAKE_C_COMPILER" "clang-7" ∈ call.arguments.drop 2 := by
    decide +kernel
  obtain ⟨call, hcall, hconfigure, hcompiler⟩ := hconfigured
  obtain ⟨p, t, l, -, hshows⟩ := h call hcall hconfigure
  obtain ⟨profile, hdrop⟩ := hshows.definitions
  rw [hdrop, hnone, List.nil_append] at hcompiler
  exact not_mem_collected (by decide) (by decide) profile hcompiler

end CommandLine

end CrossBuild
