-- The variables of the environment that a run depends on. Two runs of which one has
-- another value of a variable either do the same or both name the variable, unless
-- the build is for Android on Android itself, where the NDK is used and not named.
import CrossBuild.Proofs.RunOrder

namespace CrossBuild

open Job

variable {host : Host} {s : Session} {t : Target} {l : Layout}

namespace Job

variable {α β : Type} {d : Directive}

/-! ## Emitting a directive -/

/-- The job emits the directive if it comes to its end. -/
def Emits (d : Directive) (j : Job α) (host : Host) (s : Session) : Prop :=
  ∀ a, j.result host s = .ok a → d ∈ directivesOf (j.events host s)

theorem Follows.emits {script : List Event} {j : Job α}
    (h : Follows (fun _ => False) script j host s) (hd : d ∈ directivesOf script) :
    Emits d j host s := by
  intro a ha
  rw [← directivesOf_effectsOf, h.complete a ha]
  exact hd

theorem Emits.after {x : Job α} {f : α → Job β} (hx : Within (fun _ => True) x host s)
    (hwithin : ∀ a s, Within (fun _ => True) (f a) host s)
    (hf : ∀ a, x.result host s = .ok a → Emits d (f a) host (x.left host s)) :
    Emits d (x >>= f) host s := by
  intro b hb
  obtain ⟨a, ha, hb⟩ := result_bind_eq_ok.1 hb
  rw [events_bind_of_ok hx ha (hwithin a _), directivesOf_append]
  exact List.mem_append_right _ (hf a ha b hb)

/-! ## Two runs -/

/-- The two jobs differ in the tools that they start, in what they come to, or in what they leave
on the disk. -/
def Differ (host : Host) (s : Session) (j j' : Job α) : Prop :=
  callsOf (j.events host s) ≠ callsOf (j'.events host s) ∨
    j.result host s ≠ j'.result host s ∨
    (j.left host s).disk ≠ (j'.left host s).disk

theorem not_differ_self (j : Job α) : ¬Differ host s j j := by
  simp [Differ]

/-- Two jobs with a first part in common differ only if that part succeeds. -/
theorem Emits.of_differ {x : Job α} {f f' : α → Job β} (h : Emits d x host s)
    (hx : Within (fun _ => True) x host s)
    (hf : ∀ a s, Within (fun _ => True) (f a) host s)
    (hf' : ∀ a s, Within (fun _ => True) (f' a) host s)
    (hdiffer : Differ host s (x >>= f) (x >>= f')) :
    d ∈ directivesOf ((x >>= f).events host s) ∧ d ∈ directivesOf ((x >>= f').events host s) := by
  cases hresult : x.result host s with
  | error e =>
    unfold Differ at hdiffer
    simp only [events_bind_of_error hresult, result_bind_of_error hresult,
      left_bind_of_error hresult, ne_eq, not_true_eq_false, or_self] at hdiffer
  | ok a =>
    have hd := h a hresult
    rw [events_bind_of_ok hx hresult (hf a _), events_bind_of_ok hx hresult (hf' a _),
      directivesOf_append, directivesOf_append]
    exact ⟨List.mem_append_left _ hd, List.mem_append_left _ hd⟩

end Job

namespace Pipeline

/-! ## The parts of a run -/

theorem within_any_link : Within (fun _ => True) (link t l) host s :=
  within_link (fun _ => trivial) trivial (fun _ => trivial)
    (fun _ _ _ => Native.within_buildWith trivial (fun _ => trivial) fun _ _ => trivial)
    (fun _ _ _ => trivial) trivial

theorem within_any_generate {root : Path} :
    Within (fun _ => True) (Bindings.generate t l root) host s :=
  Bindings.within_generate
    (Bindings.within_writeTemporary (fun _ => trivial) trivial (fun _ _ _ => trivial)
      fun _ _ => trivial)
    fun _ => trivial

/-- A library that has been linked is followed by the variable of its headers. -/
theorem emits_link : Emits headersVariable (link t l) host s := by
  have hroot : Within (fun _ => True) (buildRoot t l) host s := by
    unfold buildRoot
    split
    · exact Within.bind (within_log _ _ _) fun _ _ => within_pure _
    · exact Native.within_build (fun _ => trivial) trivial (fun _ => trivial)
        fun _ _ _ => Native.within_buildWith trivial (fun _ => trivial) fun _ _ => trivial
  have hlast {s : Session} : Within (fun _ => True) (emit headersVariable) host s :=
    within_emit trivial
  have hdirectives (root : Path) {s : Session} :
      Within (fun _ => True) (Link.emit root t) host s :=
    Link.within_emit fun _ _ _ => trivial
  unfold link
  refine Emits.after hroot (fun root s => (hdirectives root).bind fun _ _ => hlast) fun root _ => ?_
  refine Emits.after (hdirectives root) (fun _ _ => hlast) fun _ _ => ?_
  exact Follows.emits (follows_emit _) List.mem_cons_self

/-! ## The variables -/

/-- The variables of the environment that a target has a path of. -/
inductive Variable where
  | ndkHome
  | prebuilt
  | headers
  deriving DecidableEq

namespace Variable

/-- The directive that names the variable. -/
def directive : Variable → Directive
  | ndkHome => ndkVariable
  | prebuilt => prebuiltVariable
  | headers => headersVariable

/-- The target with another value of the variable. -/
def set (v : Variable) (value : Option Path) (t : Target) : Target :=
  match v with
  | ndkHome => { t with ndkHome := value }
  | prebuilt => { t with prebuilt := value }
  | headers => { t with headers := value }

end Variable

variable {value : Option Path}

theorem prepare_set (v : Variable) : prepare (v.set value t) l = prepare t l := by
  cases v <;> rfl

/-- Only a build for Android looks at the NDK. -/
theorem run_ndkHome (h : t.platform ≠ .android) : run { t with ndkHome := value } l = run t l := by
  have hplatform : Target.platform { t with ndkHome := value } = t.platform := rfl
  have hconfig : Native.config { t with ndkHome := value } l = Native.config t l := by
    unfold Native.config
    rw [hplatform]
    cases hp : t.platform with
    | android => exact absurd hp h
    | _ => rfl
  have hsysroot : Bindings.sysrootArguments { t with ndkHome := value } l =
      Bindings.sysrootArguments t l := by
    unfold Bindings.sysrootArguments
    rw [hplatform]
    cases hp : t.platform with
    | android => exact absurd hp h
    | _ => rfl
  have hbuild : Native.build { t with ndkHome := value } l = Native.build t l := by
    rw [Native.build_eq, Native.build_eq, hconfig]
    rfl
  have hlink : link { t with ndkHome := value } l = link t l := by
    unfold link buildRoot
    rw [hbuild]
    rfl
  have hgenerate (root : Path) : Bindings.generate { t with ndkHome := value } l root =
      Bindings.generate t l root := by
    unfold Bindings.generate Bindings.call
    rw [hsysroot]
    rfl
  unfold run
  rw [hlink, hgenerate]
  rfl

theorem ndkVariable_not_mem (h : t.isCross = false) :
    ndkVariable ∉ directivesOf ((run t l).events host s) := by
  obtain ⟨p, hfits, hfollows⟩ := exists_follows_run host s t l
  intro hmem
  have hplan := (directivesOf_run hfits hfollows).subset hmem
  have hnative : ¬(t.platform = .android ∧ t.isCross = true) := by simp [h]
  unfold Plan.directives Link.linkDirectives Link.searchDirectives at hplan
  rw [if_neg hnative] at hplan
  cases hfetches : p.fetches <;> cases hssl : t.enables .ssl <;>
    by_cases hmac : t.platform = .macos <;>
    simp [hfetches, hssl, hmac, Link.libraries, ndkVariable, Directive.rerunIfEnvChanged,
      Directive.warning, Directive.linkSearch, Directive.linkStatic, Directive.cdylibLinkArg]
      at hplan

/-! ## Differences -/

/-- What a run does first it does whatever the variables are. -/
theorem announced_of_prepare {v : Variable} (hv : v.directive ∈ firstDirectives t)
    (hdiffer : Differ host s (run t l) (run (v.set value t) l)) :
    v.directive ∈ directivesOf ((run t l).events host s) ∧
      v.directive ∈ directivesOf ((run (v.set value t) l).events host s) := by
  have hprepare :
      Follows (fun _ => False) ((firstDirectives t).map .emitted) (prepare t l) host s :=
    follows_prepare
  have hrest (t : Target) (u : Unit) (s : Session) : Within (fun _ => True)
      (link t l >>= fun _ =>
        Bindings.generate t l (Bindings.headerRoot t (Native.sourceDir t l))) host s :=
    within_any_link.bind fun _ _ => within_any_generate
  unfold run at hdiffer ⊢
  rw [prepare_set] at hdiffer ⊢
  refine (hprepare.emits ?_).of_differ hprepare.within (hrest t) (hrest _) hdiffer
  rw [directivesOf_map_emitted]
  exact hv

theorem announced_of_headers
    (hdiffer : Differ host s (run t l) (run { t with headers := value } l)) :
    headersVariable ∈ directivesOf ((run t l).events host s) ∧
      headersVariable ∈ directivesOf ((run { t with headers := value } l).events host s) := by
  have hprepare : Within (fun _ => True) (prepare t l) host s :=
    within_prepare trivial fun _ => trivial
  have hlinked : Emits headersVariable (prepare t l >>= fun _ => link t l) host s :=
    Emits.after hprepare (fun _ _ => within_any_link) fun _ _ => emits_link
  have hrun (value : Option Path) : run { t with headers := value } l =
      (prepare t l >>= fun _ => link t l) >>= fun _ => Bindings.generate
        { t with headers := value } l (value.getD (Native.sourceDir t l / "include")) := by
    rw [bind_assoc]
    rfl
  have hself : run t l = run { t with headers := t.headers } l := rfl
  rw [hself, hrun, hrun] at hdiffer ⊢
  exact hlinked.of_differ (hprepare.bind fun _ _ => within_any_link)
    (fun _ _ => within_any_generate) (fun _ _ => within_any_generate) hdiffer

/-- Two runs that differ in the value of one variable, and then in what they do, both name the
variable, unless it is the home of the NDK and the build is for Android on Android itself. Such a
build uses the NDK and does not name it. -/
theorem a_difference_is_announced_iff (host : Host) (s : Session) (t : Target) (l : Layout)
    (v : Variable) (value : Option Path) :
    (Differ host s (run t l) (run (v.set value t) l) →
      v.directive ∈ directivesOf ((run t l).events host s) ∧
        v.directive ∈ directivesOf ((run (v.set value t) l).events host s)) ↔
    ¬(v = .ndkHome ∧ t.platform = .android ∧ t.isCross = false ∧
      Differ host s (run t l) (run (v.set value t) l)) := by
  constructor
  · rintro h ⟨rfl, -, hnative, hdiffer⟩
    exact ndkVariable_not_mem hnative (h hdiffer).1
  · intro h hdiffer
    cases v with
    | prebuilt => exact announced_of_prepare List.mem_cons_self hdiffer
    | headers => exact announced_of_headers hdiffer
    | ndkHome =>
      by_cases handroid : t.platform = .android
      · cases hcross : t.isCross with
        | false => exact absurd ⟨rfl, handroid, hcross, hdiffer⟩ h
        | true =>
          refine announced_of_prepare ?_ hdiffer
          unfold firstDirectives
          rw [if_pos ⟨handroid, hcross⟩]
          exact List.mem_cons_of_mem _ List.mem_cons_self
      · have hsame : run (Variable.ndkHome.set value t) l = run t l := run_ndkHome handroid
        rw [hsame] at hdiffer
        exact absurd hdiffer (not_differ_self _)

/-- A build for Android on Android, with a prebuilt library. -/
def nativeAndroid : Target :=
  { linuxTarget with
    system := "android"
    architecture := "aarch64"
    host := "aarch64-linux-android"
    triple := "aarch64-linux-android"
    ndkHome := some (.ofString "/ndk-a")
    prebuilt := some (.ofString "/bssl") }

/-- The same build with another NDK. -/
def otherNdk : Target := Variable.ndkHome.set (some (.ofString "/ndk-b")) nativeAndroid

/-- A disk with two NDKs. -/
def ndkDisk : Disk :=
  let ndk : Entry := .folder [("toolchains", .folder [("llvm", .folder [("prebuilt",
    .folder [("linux-x86_64", .folder [])])])])]
  ⟨.folder [("ndk-a", ndk), ("ndk-b", ndk)]⟩

/-- With another NDK this build reads other system headers, and it does not name the variable. -/
theorem a_native_android_build_hides_its_ndk :
    ¬(Differ silentTools { disk := ndkDisk } (run nativeAndroid .default) (run otherNdk .default) →
      Variable.ndkHome.directive ∈
          directivesOf ((run nativeAndroid .default).events silentTools { disk := ndkDisk }) ∧
        Variable.ndkHome.directive ∈
          directivesOf ((run otherNdk .default).events silentTools { disk := ndkDisk })) := by
  intro h
  have hcalls : callsOf ((run nativeAndroid .default).events silentTools { disk := ndkDisk }) ≠
      callsOf ((run otherNdk .default).events silentTools { disk := ndkDisk }) := by decide +kernel
  have hnot : Variable.ndkHome.directive ∉
      directivesOf ((run nativeAndroid .default).events silentTools { disk := ndkDisk }) := by
    decide +kernel
  exact hnot (h (Or.inl hcalls)).1

end Pipeline

end CrossBuild
