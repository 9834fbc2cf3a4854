-- The shape of a configuration. Each system has a branch of its own, and whichever is
-- taken, the parameters of the tables come first, no name is defined twice, and the
-- user is warned once of a target for which nothing is known.
import CrossBuild.Proofs.BuildSteps

namespace CrossBuild

open Job

variable {α β : Type} {host : Host} {s : Session} {t : Target} {l : Layout} {c : CMake.Config}

/-! ## Warnings -/

namespace Event

def warning? : Event → Option (WarningKind × String)
  | warned kind message => some (kind, message)
  | _ => none

end Event

/-- The warnings among events, in order. -/
def warningsOf (log : List Event) : List (WarningKind × String) := log.filterMap Event.warning?

namespace Job

/-- A job that only tells the user what goes on. It warns of a target, once, exactly if something
is the case. -/
structure WarnsIf (p : Prop) (j : Job α) (host : Host) (s : Session) : Prop where
  within : Within (fun _ => False) j host s
  warned : p → ∃ message, warningsOf (j.events host s) = [(.unsupportedTarget, message)]
  silent : ¬p → warningsOf (j.events host s) = []

theorem WarnsIf.congr {p q : Prop} {j : Job α} (h : WarnsIf p j host s) (hiff : p ↔ q) :
    WarnsIf q j host s :=
  ⟨h.within, fun hq => h.warned (hiff.2 hq), fun hq => h.silent fun hp => hq (hiff.1 hp)⟩

theorem warnsIf_of_left_eq {j : Job α} (h : j.left host s = s) : WarnsIf False j host s := by
  have hevents : j.events host s = [] := by
    simp [events, h]
  exact ⟨within_of_left_eq h, False.elim, fun _ => by rw [hevents]; rfl⟩

theorem warnsIf_pure (a : α) : WarnsIf False (pure a : Job α) host s := warnsIf_of_left_eq rfl

theorem warnsIf_get (e : Except Problem α) : WarnsIf False (Job.get e) host s :=
  warnsIf_of_left_eq (left_get e)

theorem events_record (e : Event) : (record e).events host s = [e] := by
  simp [events]

theorem warnsIf_log (level : Level) (origin : Origin) (message : String) :
    WarnsIf False (log level origin message) host s :=
  ⟨within_log level origin message, False.elim, fun _ => by
    rw [log, events_record]
    rfl⟩

theorem warnsIf_warn (message : String) :
    WarnsIf True (warn .unsupportedTarget message) host s :=
  ⟨within_warn .unsupportedTarget message, fun _ => ⟨message, by rw [warn, events_record]; rfl⟩,
    fun h => absurd trivial h⟩

theorem warningsOf_events_bind {x : Job α} {f : α → Job β} {a : α} {p q : Prop}
    (hx : WarnsIf p x host s) (ha : x.result host s = .ok a)
    (hf : WarnsIf q (f a) host (x.left host s)) :
    warningsOf ((x >>= f).events host s) =
      warningsOf (x.events host s) ++ warningsOf ((f a).events host (x.left host s)) := by
  rw [events_bind_of_ok hx.within ha hf.within]
  exact List.filterMap_append

/-- One of two jobs that come after each other may warn. -/
theorem WarnsIf.bind {x : Job α} {f : α → Job β} {a : α} {p q : Prop} (hx : WarnsIf p x host s)
    (ha : x.result host s = .ok a) (hf : WarnsIf q (f a) host (x.left host s)) (hone : ¬(p ∧ q)) :
    WarnsIf (p ∨ q) (x >>= f) host s := by
  have hwarnings := warningsOf_events_bind hx ha hf
  refine ⟨hx.within.bind fun b hb => ?_, ?_, ?_⟩
  · rw [ha] at hb
    exact Except.ok.inj hb ▸ hf.within
  · rintro (hp | hq)
    · obtain ⟨message, hmessage⟩ := hx.warned hp
      exact ⟨message, by rw [hwarnings, hmessage, hf.silent fun hq => hone ⟨hp, hq⟩]; rfl⟩
    · obtain ⟨message, hmessage⟩ := hf.warned hq
      exact ⟨message, by rw [hwarnings, hmessage, hx.silent fun hp => hone ⟨hp, hq⟩]; rfl⟩
  · intro hnone
    rw [hwarnings, hx.silent fun hp => hnone (.inl hp), hf.silent fun hq => hnone (.inr hq)]
    rfl

theorem WarnsIf.then_silent {x : Job α} {f : α → Job β} {a : α} {p : Prop}
    (hx : WarnsIf p x host s) (ha : x.result host s = .ok a)
    (hf : WarnsIf False (f a) host (x.left host s)) : WarnsIf p (x >>= f) host s :=
  (hx.bind ha hf And.right).congr (by rw [or_false])

theorem WarnsIf.after_silent {x : Job α} {f : α → Job β} {a : α} {q : Prop}
    (hx : WarnsIf False x host s) (ha : x.result host s = .ok a)
    (hf : WarnsIf q (f a) host (x.left host s)) : WarnsIf q (x >>= f) host s :=
  (hx.bind ha hf And.left).congr (by rw [false_or])

theorem warnsIf_forM {f : α → Job PUnit} (l : List α)
    (h : ∀ a ∈ l, ∀ s, (f a).result host s = .ok ⟨⟩ ∧ WarnsIf False (f a) host s) :
    WarnsIf False (l.forM f) host s := by
  induction l generalizing s with
  | nil => exact warnsIf_pure _
  | cons a rest ih =>
    obtain ⟨hresult, hsilent⟩ := h a List.mem_cons_self s
    exact hsilent.then_silent hresult (ih fun b hb => h b (List.mem_cons_of_mem _ hb))

end Job

/-! ## Systems -/

namespace Platform

/-- The systems that have a platform of their own. -/
def systems : List String := ["android", "macos", "ios", "windows", "linux", "wasi"]

/-- A system is the one of the platform, or one of those that have none. -/
def Has : Platform → String → Prop
  | android, system => system = "android"
  | macos, system => system = "macos"
  | ios, system => system = "ios"
  | windows, system => system = "windows"
  | linux, system => system = "linux"
  | wasi, system => system = "wasi"
  | other, system => system ∉ systems

theorem has_ofSystem (system : String) : (ofSystem system).Has system := by
  unfold ofSystem
  repeat' split
  all_goals simp_all [Has, systems]

end Platform

/-! ## Definitions -/

namespace CMake

/-- No name is defined twice. -/
def DistinctNames (definitions : List (String × String)) : Prop := (definitions.map (·.1)).Nodup

theorem DistinctNames.append {ds ds' : List (String × String)} (h : DistinctNames ds)
    (h' : DistinctNames ds') (hne : ∀ d ∈ ds, ∀ d' ∈ ds', d.1 ≠ d'.1) :
    DistinctNames (ds ++ ds') := by
  unfold DistinctNames
  rw [List.map_append, List.nodup_append]
  refine ⟨h, h', ?_⟩
  intro name hname name' hname'
  obtain ⟨d, hd, rfl⟩ := List.mem_map.1 hname
  obtain ⟨d', hd', rfl⟩ := List.mem_map.1 hname'
  exact hne d hd d' hd'

/-- Where no name is defined twice, every definition counts. -/
theorem DistinctNames.lastValue?_of_mem {ds : List (String × String)} (h : DistinctNames ds)
    {d : String × String} (hd : d ∈ ds) : lastValue? d.1 ds = some d.2 := by
  obtain ⟨before, after, rfl⟩ := List.append_of_mem hd
  unfold DistinctNames at h
  rw [List.map_append, List.map_cons, List.nodup_append, List.nodup_cons] at h
  have hafter : lastValue? d.1 after = none :=
    lastValue?_eq_none.2 fun d' hd' heq => h.2.1.1 (heq ▸ List.mem_map_of_mem hd')
  rw [← List.singleton_append, lastValue?_append, lastValue?_append, hafter,
    lastValue?_singleton, if_pos rfl]
  rfl

end CMake

namespace Native

open CMake (DistinctNames)

/-! ## Targets that are not listed -/

/-- The table of the NDK that an Android target uses. -/
def androidTable (t : Target) : List (String × Parameters) :=
  if t.enables .ndkOldGcc then Parameters.androidOldGcc else Parameters.android

/-- The architectures that a Linux target has a toolchain file for. -/
def linuxArchitectures : List String := ["x86", "aarch64", "arm"]

/-- Nothing is known that a cross build for the target needs: its architecture is not in the table
of the NDK, its triple is not in the table of Apple targets, there is no toolchain file for it, or
its system has no platform of its own. -/
def IsUnlisted (t : Target) : Prop :=
  (t.system = "android" ∧ (androidTable t).lookup t.architecture = none) ∨
  ((t.system = "macos" ∨ t.system = "ios") ∧ Parameters.apple.lookup t.triple = none) ∨
  (t.system = "linux" ∧ t.architecture ∉ linuxArchitectures) ∨
  t.system ∉ Platform.systems

/-- No entry of a table is empty, so that nothing is found only where there is no entry. -/
theorem isEmpty_lookup_iff {table : List (String × Parameters)}
    (h : ∀ entry ∈ table, entry.2 ≠ []) (key : String) :
    ((table.lookup key).getD []).isEmpty = true ↔ table.lookup key = none := by
  cases hlookup : table.lookup key with
  | none => simp
  | some params =>
    have hne := h (key, params) (mem_of_lookup hlookup)
    simpa using hne

theorem isEmpty_forAndroid_iff (t : Target) :
    (Parameters.forAndroid t.architecture (t.enables .ndkOldGcc)).isEmpty = true ↔
      (androidTable t).lookup t.architecture = none := by
  have htables : ∀ entry ∈ Parameters.androidOldGcc ++ Parameters.android, entry.2 ≠ [] := by
    decide
  refine isEmpty_lookup_iff (fun entry hentry => htables entry ?_) _
  split at hentry
  · exact List.mem_append_left _ hentry
  · exact List.mem_append_right _ hentry

theorem isEmpty_forApple_iff (triple : String) :
    (Parameters.forApple triple).isEmpty = true ↔ Parameters.apple.lookup triple = none :=
  isEmpty_lookup_iff (by decide) triple

theorem linuxToolchain?_eq_none_iff (t : Target) (l : Layout) (c : CMake.Config) :
    linuxToolchain? t l c = none ↔ t.architecture ∉ linuxArchitectures := by
  unfold linuxToolchain? linuxArchitectures
  grind

/-- Whether a target is listed is a question to its platform. -/
theorem isUnlisted_iff (t : Target) :
    IsUnlisted t ↔
      match t.platform with
      | .android => (androidTable t).lookup t.architecture = none
      | .macos | .ios => Parameters.apple.lookup t.triple = none
      | .linux => t.architecture ∉ linuxArchitectures
      | .windows | .wasi => False
      | .other => True := by
  have hsystem : t.platform.Has t.system := Platform.has_ofSystem t.system
  unfold IsUnlisted
  cases hplatform : t.platform <;> rw [hplatform] at hsystem <;>
    simp_all [Platform.Has, Platform.systems]

/-! ## The warnings of a configuration -/

theorem warnsIf_defineParameters (label : String) (params : Parameters) :
    WarnsIf (params.isEmpty = true) (defineParameters t label params c) host s := by
  have htold (s : Session) : WarnsIf False (params.forM fun d => Job.log .info .native
      (t.system ++ " arch=" ++ t.architecture ++ " add " ++ d.1 ++ "=" ++ d.2)) host s :=
    warnsIf_forM _ fun _ _ _ => ⟨rfl, warnsIf_log _ _ _⟩
  have hresult (s : Session) : (params.forM fun d => Job.log .info .native
      (t.system ++ " arch=" ++ t.architecture ++ " add " ++ d.1 ++ "=" ++ d.2)).result host s =
      .ok ⟨⟩ := result_forM _ fun _ _ _ => rfl
  unfold defineParameters
  dsimp only
  by_cases hempty : params.isEmpty = true
  · rw [if_pos hempty]
    refine ((warnsIf_warn _).then_silent rfl ?_).congr (iff_of_true trivial hempty)
    exact (htold _).then_silent (hresult _) (warnsIf_pure _)
  · rw [if_neg hempty]
    refine WarnsIf.congr ?_ (iff_of_false id hempty)
    exact (htold _).then_silent (hresult _) (warnsIf_pure _)

theorem warnsIf_warnUnsupported (message : String) (c : CMake.Config) :
    WarnsIf True (do warnUnsupported message; return c) host s :=
  (warnsIf_warn message).then_silent rfl (warnsIf_pure c)

/-- A configuration that comes about warns of its target exactly if it is not listed. -/
theorem warnsIf_config (hcross : t.isCross = true) (h : (config t l).result host s = .ok c) :
    WarnsIf (IsUnlisted t) (config t l) host s := by
  refine WarnsIf.congr ?_ (isUnlisted_iff t).symm
  unfold config at h ⊢
  simp only [hcross, Bool.not_true, Bool.false_eq_true, if_false] at h ⊢
  cases hplatform : t.platform with
  | android =>
    rw [hplatform] at h
    obtain ⟨home, hhome, -⟩ := result_bind_eq_ok.1 h
    refine WarnsIf.congr ?_ (isEmpty_forAndroid_iff t)
    refine (warnsIf_get _).after_silent hhome ?_
    refine (warnsIf_defineParameters _ _).then_silent (result_defineParameters _ _) ?_
    exact (warnsIf_log _ _ _).then_silent rfl (warnsIf_pure _)
  | macos => exact (warnsIf_defineParameters _ _).congr (isEmpty_forApple_iff t.triple)
  | ios =>
    refine WarnsIf.congr ?_ (isEmpty_forApple_iff t.triple)
    refine (warnsIf_defineParameters _ _).then_silent (result_defineParameters _ _) ?_
    dsimp only
    split
    · exact warnsIf_pure _
    · exact warnsIf_pure _
  | linux =>
    have hunlisted := linuxToolchain?_eq_none_iff t l { sourceDir := sourceDir t l }
    refine WarnsIf.congr ?_ hunlisted
    unfold configureLinux
    cases linuxToolchain? t l { sourceDir := sourceDir t l } with
    | some file => exact (warnsIf_pure _).congr (iff_of_false id nofun)
    | none => exact (warnsIf_warnUnsupported _ _).congr (iff_of_true trivial rfl)
  | windows | wasi => exact warnsIf_pure _
  | other => exact warnsIf_warnUnsupported _ _

/-! ## The names of the definitions -/

theorem distinctNames_lookup {table : List (String × Parameters)}
    (h : ∀ entry ∈ table, DistinctNames entry.2) (key : String) :
    DistinctNames ((table.lookup key).getD []) := by
  cases hlookup : table.lookup key with
  | none => exact List.nodup_nil
  | some params => exact h (key, params) (mem_of_lookup hlookup)

theorem distinctNames_tableParameters (t : Target) (platform : Platform) :
    DistinctNames (tableParameters t platform) := by
  have htables : ∀ entry ∈ Parameters.androidOldGcc ++ Parameters.android ++ Parameters.apple,
      DistinctNames entry.2 := by
    unfold DistinctNames
    decide
  cases platform with
  | android =>
    refine distinctNames_lookup (fun entry hentry => htables entry ?_) t.architecture
    refine List.mem_append_left _ ?_
    split at hentry
    · exact List.mem_append_left _ hentry
    · exact List.mem_append_right _ hentry
  | macos | ios =>
    refine distinctNames_lookup (fun entry hentry => htables entry ?_) t.triple
    exact List.mem_append_right _ hentry
  | windows | linux | wasi | other => exact List.nodup_nil

theorem distinctNames_platformDefinitions (t : Target) (l : Layout) (platform : Platform) :
    DistinctNames (platformDefinitions t l platform) := by
  unfold DistinctNames
  cases platform with
  | android | ios | windows | linux =>
    simp only [platformDefinitions]
    split <;> simp
  | wasi => simp [platformDefinitions]
  | macos | other => exact List.nodup_nil

/-- The tables and the platforms have no name in common. -/
theorem distinctNames_definitionsFor (t : Target) (l : Layout) :
    DistinctNames (definitionsFor t l) := by
  have hdisjoint : ∀ name ∈ parameterNames, name ∉ platformNames := by decide
  unfold definitionsFor
  split
  · refine (distinctNames_tableParameters t t.platform).append
      (distinctNames_platformDefinitions t l t.platform) fun d hd d' hd' heq => ?_
    exact hdisjoint d.1 (mem_parameterNames_of_mem_tableParameters hd)
      (heq ▸ mem_platformNames_of_mem_platformDefinitions hd')
  · exact List.nodup_nil

/-- What the choice of compilers defines is not defined by any target. -/
theorem distinctNames_append_compilerDefinitions (t : Target) (l : Layout)
    (compilers : Compilers) :
    DistinctNames (definitionsFor t l ++ compilerDefinitions compilers) := by
  have hdisjoint : ∀ name ∈ parameterNames ++ platformNames, name ∉ compilerNames := by decide
  have hcompilers : DistinctNames (compilerDefinitions compilers) := by
    unfold DistinctNames
    rw [map_compilerDefinitions]
    decide
  refine (distinctNames_definitionsFor t l).append hcompilers fun d hd d' hd' heq => ?_
  exact hdisjoint d.1 (mem_names_of_mem_definitionsFor hd)
    (heq ▸ mem_compilerNames_of_mem_compilerDefinitions hd')

/-! ## The configure commands of a build -/

/-- A complete configuration defines what the target does, and what the choice of compilers does
if there has been one. -/
theorem IsComplete.definitions_eq (h : IsComplete t l c) :
    c.definitions = definitionsFor t l ∨
      ∃ compilers, c.definitions = definitionsFor t l ++ compilerDefinitions compilers := by
  rcases h with rfl | ⟨compilers, rfl⟩
  · rw [withFuzzing_configFor]
    exact .inl rfl
  · rw [withFuzzing_configFor, definitions_withCompilers]
    exact .inr ⟨compilers, rfl⟩

theorem IsComplete.definitionsFor_subset (h : IsComplete t l c) :
    definitionsFor t l ⊆ c.definitions := by
  rcases h.definitions_eq with h | ⟨compilers, h⟩ <;> rw [h]
  · exact List.Subset.refl _
  · exact List.subset_append_left _ _

theorem IsComplete.distinctNames (h : IsComplete t l c) : DistinctNames c.definitions := by
  rcases h.definitions_eq with h | ⟨compilers, h⟩ <;> rw [h]
  · exact distinctNames_definitionsFor t l
  · exact distinctNames_append_compilerDefinitions t l compilers

theorem IsComplete.mem_names (h : IsComplete t l c) {d : String × String}
    (hd : d ∈ c.definitions) : d.1 ∈ parameterNames ++ platformNames ++ compilerNames := by
  rcases h.definitions_eq with h | ⟨compilers, h⟩ <;> rw [h] at hd
  · exact List.mem_append_left _ (mem_names_of_mem_definitionsFor hd)
  · rcases List.mem_append.1 hd with hd | hd
    · exact List.mem_append_left _ (mem_names_of_mem_definitionsFor hd)
    · exact List.mem_append_right _ (mem_compilerNames_of_mem_compilerDefinitions hd)

/-- What a configure command defines. -/
theorem IsComplete.definitionsOf_configureCall (h : IsComplete t l c) (profile : String) :
    CMake.definitionsOf (CMake.configureCall c t.outDir profile l.cmake).arguments.tail =
      (("CMAKE_INSTALL_PREFIX", t.outDir.text) :: c.definitions) ++ c.collected profile := by
  unfold CMake.configureCall
  rw [c.tail_configureArguments,
    CMake.definitionsOf_map_defineArgument (c.noEqualsSign_arguments h.noEqualsSign _ _)]

/-- A configure command defines no name twice: what is collected gives way to what is defined. -/
theorem IsComplete.distinctNames_configureCall (h : IsComplete t l c) (profile : String) :
    DistinctNames
      (CMake.definitionsOf (CMake.configureCall c t.outDir profile l.cmake).arguments.tail) := by
  have hinstall : "CMAKE_INSTALL_PREFIX" ∉ parameterNames ++ platformNames ++ compilerNames ∧
      "CMAKE_INSTALL_PREFIX" ∉ CMake.reservedNames.tail := by decide
  have hreserved : CMake.reservedNames.tail.Nodup := by decide
  obtain ⟨hnames, hundefined⟩ := c.names_collected profile
  rw [h.definitionsOf_configureCall]
  refine CMake.DistinctNames.append ?_ (hnames.nodup hreserved) fun d hd d' hd' heq => ?_
  · refine List.nodup_cons.2 ⟨fun hmem => ?_, h.distinctNames⟩
    obtain ⟨d, hd, hname⟩ := List.mem_map.1 hmem
    have hlisted := h.mem_names hd
    rw [hname] at hlisted
    exact hinstall.1 hlisted
  · rcases List.mem_cons.1 hd with rfl | hd
    · have hlisted := hnames.mem (List.mem_map_of_mem hd')
      rw [← heq] at hlisted
      exact hinstall.2 hlisted
    · have hdefined : c.isDefined d.1 = true := List.any_eq_true.2 ⟨d, hd, by simp⟩
      rw [heq, hundefined d' hd'] at hdefined
      cases hdefined

/-- What a target defines reaches CMake as it is. -/
theorem IsComplete.setting?_of_mem (h : IsComplete t l c) (profile : String)
    {d : String × String} (hd : d ∈ definitionsFor t l) :
    (CMake.configureCall c t.outDir profile l.cmake).setting? d.1 = some d.2 := by
  refine (h.distinctNames_configureCall profile).lastValue?_of_mem ?_
  rw [h.definitionsOf_configureCall]
  exact List.mem_append_left _ (List.mem_cons_of_mem _ (h.definitionsFor_subset hd))

/-! ## The shape of a configuration -/

/-- What the configuration of a build for another machine is like, whatever the machine. -/
structure HasShape (t : Target) (c : CMake.Config) : Prop where
  /-- The parameters of the NDK come first. -/
  android : t.system = "android" → ∀ params,
    (androidTable t).lookup t.architecture = some params → params <+: c.definitions
  /-- The parameters of an Apple target come first. -/
  apple : t.system = "macos" ∨ t.system = "ios" → ∀ params,
    Parameters.apple.lookup t.triple = some params → params <+: c.definitions
  distinct : DistinctNames c.definitions
  distinct_withCompilers : ∀ compilers, DistinctNames (withCompilers compilers c).definitions
  toolchain : c.isDefined "CMAKE_TOOLCHAIN_FILE" = true ↔
    t.system = "android" ∨ t.system = "wasi" ∨
      t.system = "linux" ∧ t.architecture ∈ linuxArchitectures

/-- Whether a target has a toolchain file is a question to its platform. -/
theorem hasToolchain_iff (t : Target) :
    (t.system = "android" ∨ t.system = "wasi" ∨
        t.system = "linux" ∧ t.architecture ∈ linuxArchitectures) ↔
      match t.platform with
      | .android | .wasi => True
      | .linux => t.architecture ∈ linuxArchitectures
      | _ => False := by
  have hsystem : t.platform.Has t.system := Platform.has_ofSystem t.system
  cases hplatform : t.platform <;> rw [hplatform] at hsystem <;>
    simp_all [Platform.Has, Platform.systems]

theorem platform_eq_android_iff (t : Target) : t.platform = .android ↔ t.system = "android" := by
  unfold Target.platform Platform.ofSystem
  grind

theorem isDefined_toolchain_iff (hcross : t.isCross = true)
    (hhome : ¬(t.platform = .android ∧ t.ndkHome = none)) :
    (configFor t l).isDefined "CMAKE_TOOLCHAIN_FILE" = true ↔
      t.system = "android" ∨ t.system = "wasi" ∨
        t.system = "linux" ∧ t.architecture ∈ linuxArchitectures := by
  have hfile := linuxToolchain?_eq_none_iff t l { sourceDir := sourceDir t l }
  rw [CMake.Config.isDefined_eq, configFor, lastValue?_platform (by decide), if_pos hcross,
    hasToolchain_iff]
  cases hplatform : t.platform with
  | android =>
    cases home : t.ndkHome with
    | none => exact absurd ⟨hplatform, home⟩ hhome
    | some home =>
      simp only [platformDefinitions, home]
      exact iff_of_true rfl trivial
  | linux =>
    simp only [platformDefinitions]
    cases htoolchain : linuxToolchain? t l { sourceDir := sourceDir t l } with
    | none => exact iff_of_false Bool.false_ne_true (hfile.1 htoolchain)
    | some file =>
      refine iff_of_true rfl (Classical.not_not.1 fun h => ?_)
      rw [hfile.2 h] at htoolchain
      cases htoolchain
  | ios | windows =>
    simp only [platformDefinitions]
    split <;> exact iff_of_false Bool.false_ne_true id
  | wasi => exact iff_of_true rfl trivial
  | macos | other => exact iff_of_false Bool.false_ne_true id

theorem prefix_definitionsFor (hcross : t.isCross = true) :
    tableParameters t t.platform <+: definitionsFor t l := by
  unfold definitionsFor
  rw [if_pos hcross]
  exact List.prefix_append _ _

theorem hasShape_configFor (hcross : t.isCross = true)
    (hhome : ¬(t.platform = .android ∧ t.ndkHome = none)) : HasShape t (configFor t l) where
  android hsystem params hparams := by
    have hplatform : t.platform = .android := (platform_eq_android_iff t).2 hsystem
    have htable : tableParameters t t.platform = params := by
      rw [hplatform]
      exact congrArg (·.getD []) hparams
    exact htable ▸ prefix_definitionsFor hcross
  apple hsystem params hparams := by
    have htable : tableParameters t t.platform = params := by
      unfold Target.platform
      rcases hsystem with h | h <;> rw [h] <;> exact congrArg (·.getD []) hparams
    exact htable ▸ prefix_definitionsFor hcross
  distinct := distinctNames_definitionsFor t l
  distinct_withCompilers := distinctNames_append_compilerDefinitions t l
  toolchain := isDefined_toolchain_iff hcross hhome

/-- On the host itself a configuration is empty. For another machine it fails exactly if the NDK
is not known, and else it has its shape, and the user is warned once if the target is not listed.
Whatever a configuration defines, every configure command gives it to CMake. -/
theorem a_configuration_has_its_shape (host : Host) (s : Session) (t : Target) (l : Layout) :
    (t.host = t.triple → ∃ c, (config t l).result host s = .ok c ∧
      c.definitions = [] ∧ c.cFlags = [] ∧ c.cxxFlags = [] ∧
      warningsOf ((config t l).events host s) = []) ∧
    (t.host ≠ t.triple →
      ((∃ p, (config t l).result host s = .error (.problem p) ∧ p.kind = .configuration) ↔
        t.system = "android" ∧ t.ndkHome = none) ∧
      (¬(t.system = "android" ∧ t.ndkHome = none) →
        ∃ c, (config t l).result host s = .ok c ∧ HasShape t c ∧
          (IsUnlisted t → ∃ message,
            warningsOf ((config t l).events host s) = [(.unsupportedTarget, message)]) ∧
          (¬IsUnlisted t → warningsOf ((config t l).events host s) = []))) ∧
    ∀ call, .started call ∈ (build t l).events host s → call.isConfigure = true →
      DistinctNames (CMake.definitionsOf call.arguments.tail) ∧
      ∀ c, (config t l).result host s = .ok c →
        ∀ d ∈ c.definitions, call.setting? d.1 = some d.2 := by
  refine ⟨fun hself => ?_, fun hne => ?_, fun call hcall hconfigure => ?_⟩
  · have hcross : t.isCross = false := by simpa [Target.isCross] using hself
    have hconfig : config t l = pure { sourceDir := sourceDir t l } := by
      unfold config
      simp [hcross]
    rw [hconfig]
    exact ⟨_, result_pure _, rfl, rfl, rfl, (warnsIf_pure _).silent id⟩
  · have hcross : t.isCross = true := by simpa [Target.isCross] using hne
    rw [result_config, configOf, ← platform_eq_android_iff]
    by_cases hhome : t.platform = .android ∧ t.ndkHome = none
    · rw [if_pos ⟨hcross, hhome⟩]
      exact ⟨iff_of_true ⟨.ndkHomeUnset, rfl, rfl⟩ hhome, fun h => absurd hhome h⟩
    · rw [if_neg fun h => hhome h.2]
      refine ⟨iff_of_false nofun hhome, fun _ => ⟨_, rfl, hasShape_configFor hcross hhome, ?_⟩⟩
      have hconfig : (config t l).result host s = .ok (configFor t l) := by
        rw [result_config, configOf, if_neg fun h => hhome h.2]
        rfl
      have hwarns := warnsIf_config hcross hconfig
      exact ⟨hwarns.warned, hwarns.silent⟩
  · obtain ⟨c, profile, hcomplete, rfl⟩ := exists_isComplete_of_configure hcall hconfigure
    refine ⟨hcomplete.distinctNames_configureCall profile, fun c' hc' d hd => ?_⟩
    rw [eq_configFor hc'] at hd
    exact hcomplete.setting?_of_mem profile hd

/-- A build on Linux for an Android machine that the tables of the NDK do not list. -/
def riscvAndroid : Target :=
  { linuxTarget with
    architecture := "riscv64"
    system := "android"
    triple := "riscv64-linux-android"
    environment := ""
    ndkHome := some (.ofString "/ndk") }

/-- Nothing of the tables is defined for such a machine, but the rest is. -/
theorem an_unlisted_android_machine_is_warned_of :
    ∃ c, (config riscvAndroid .default).result silentTools { disk := .empty } = .ok c ∧
      HasShape riscvAndroid c ∧ ∃ message,
        warningsOf ((config riscvAndroid .default).events silentTools { disk := .empty }) =
          [(.unsupportedTarget, message)] := by
  have hshape := a_configuration_has_its_shape silentTools { disk := .empty } riscvAndroid .default
  obtain ⟨c, hc, hshape, hwarned, -⟩ := (hshape.2.1 (by decide)).2 (by decide)
  exact ⟨c, hc, hshape, hwarned (.inl ⟨rfl, by decide⟩)⟩

end Native

end CrossBuild
