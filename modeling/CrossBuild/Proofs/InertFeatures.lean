-- The features that a run reads. Targets that differ in other features are built in
-- the same way: with the same tools, directives and messages, to the same end, and
-- with the same files on the disk.
import CrossBuild.Proofs.LinkedLibraries
import CrossBuild.Proofs.SystemHeaders

namespace CrossBuild

variable {host : Host} {s : Session} {t : Target} {l : Layout} {features : FeatureSet}

namespace Target

/-- The features that a run for the target reads. Those of the NDK count in cross builds for
Android only. -/
def readFeatures (t : Target) : List Feature :=
  [.ssl, .fips, .fuzzing] ++
    if t.platform = .android ∧ t.isCross then [.androidApi19, .ndkOldGcc] else []

/-- The target with other features. -/
def withFeatures (features : FeatureSet) (t : Target) : Target := { t with features }

/-- The features that a run for the target reads are the same. -/
def ReadsSame (t : Target) (features : FeatureSet) : Prop :=
  ∀ f ∈ t.readFeatures, (t.withFeatures features).enables f = t.enables f

namespace ReadsSame

theorem ssl (h : t.ReadsSame features) :
    (t.withFeatures features).enables .ssl = t.enables .ssl :=
  h .ssl (by simp [readFeatures])

theorem fips (h : t.ReadsSame features) :
    (t.withFeatures features).enables .fips = t.enables .fips :=
  h .fips (by simp [readFeatures])

theorem fuzzing (h : t.ReadsSame features) :
    (t.withFeatures features).enables .fuzzing = t.enables .fuzzing :=
  h .fuzzing (by simp [readFeatures])

theorem androidApi19 (h : t.ReadsSame features) (handroid : t.platform = .android)
    (hcross : t.isCross = true) :
    (t.withFeatures features).enables .androidApi19 = t.enables .androidApi19 :=
  h .androidApi19 (by simp [readFeatures, handroid, hcross])

theorem ndkOldGcc (h : t.ReadsSame features) (handroid : t.platform = .android)
    (hcross : t.isCross = true) :
    (t.withFeatures features).enables .ndkOldGcc = t.enables .ndkOldGcc :=
  h .ndkOldGcc (by simp [readFeatures, handroid, hcross])

end ReadsSame

end Target

open Target

/-! ## The native library -/

namespace Native

theorem sourceDir_withFeatures (h : t.ReadsSame features) :
    sourceDir (t.withFeatures features) l = sourceDir t l := by
  unfold sourceDir
  rw [h.fips]
  rfl

theorem configureAndroid_withFeatures (h : t.ReadsSame features) (handroid : t.platform = .android)
    (hcross : t.isCross = true) :
    configureAndroid (t.withFeatures features) = configureAndroid t := by
  unfold configureAndroid
  rw [h.ndkOldGcc handroid hcross, h.androidApi19 handroid hcross]
  rfl

theorem config_withFeatures (h : t.ReadsSame features) :
    config (t.withFeatures features) l = config t l := by
  have hplatform : (t.withFeatures features).platform = t.platform := rfl
  have hcross : (t.withFeatures features).isCross = t.isCross := rfl
  unfold config
  rw [sourceDir_withFeatures h, hplatform, hcross]
  cases hc : t.isCross with
  | false => rfl
  | true =>
    cases hp : t.platform with
    | android => rw [configureAndroid_withFeatures h hp hc]
    | _ => rfl

theorem withFuzzing_withFeatures (h : t.ReadsSame features) :
    withFuzzing (t.withFeatures features) = withFuzzing t := by
  unfold withFuzzing
  rw [h.fuzzing]

theorem chooseCompilers_withFeatures (h : t.ReadsSame features) :
    chooseCompilers (t.withFeatures features) = chooseCompilers t := by
  unfold chooseCompilers
  rw [h.fips]

theorem buildWith_withFeatures (h : t.ReadsSame features) :
    buildWith (t.withFeatures features) l = buildWith t l := by
  unfold buildWith
  rw [h.ssl]
  rfl

theorem build_withFeatures (h : t.ReadsSame features) :
    build (t.withFeatures features) l = build t l := by
  rw [build_eq, build_eq, h.fips, config_withFeatures h, withFuzzing_withFeatures h,
    chooseCompilers_withFeatures h, buildWith_withFeatures h]
  rfl

end Native

/-! ## The directives and the bindings -/

theorem Link.emit_withFeatures (h : t.ReadsSame features) (root : Path) :
    Link.emit root (t.withFeatures features) = Link.emit root t := by
  unfold Link.emit Link.directives
  rw [h.ssl]
  rfl

theorem Bindings.generate_withFeatures (h : t.ReadsSame features) (root : Path) :
    Bindings.generate (t.withFeatures features) l root = Bindings.generate t l root := by
  unfold Bindings.generate Bindings.call
  rw [h.fips]
  rfl

/-! ## A run -/

namespace Pipeline

theorem link_withFeatures (h : t.ReadsSame features) :
    link (t.withFeatures features) l = link t l := by
  have hprebuilt : (t.withFeatures features).prebuilt = t.prebuilt := rfl
  have hroot : buildRoot (t.withFeatures features) l = buildRoot t l := by
    unfold buildRoot
    rw [hprebuilt, Native.build_withFeatures h]
  unfold link
  rw [hroot]
  simp only [Link.emit_withFeatures h]

/-- The two runs are one job, so they do the same on every host and from every session on. -/
theorem run_withFeatures (h : t.ReadsSame features) :
    run (t.withFeatures features) l = run t l := by
  unfold run
  rw [link_withFeatures h, Native.sourceDir_withFeatures h, Bindings.generate_withFeatures h]
  rfl

/-- Features that a run does not read make no difference: not to what happens, not to what the
run comes to, and not to the files that it leaves. -/
theorem other_features_are_inert (host : Host) (s : Session) (t : Target) (l : Layout)
    (features : FeatureSet) (h : t.ReadsSame features) :
    (run (t.withFeatures features) l).events host s = (run t l).events host s ∧
      (run (t.withFeatures features) l).result host s = (run t l).result host s ∧
      ((run (t.withFeatures features) l).left host s).disk = ((run t l).left host s).disk := by
  rw [run_withFeatures h]
  exact ⟨rfl, rfl, rfl⟩

/-- A cross build for Android of both libraries, with a feature that chooses the level of the
system. -/
def oldAndroidTarget : Target :=
  { Bindings.androidTarget with features := ⟨["android-api-19", "rpk", "ssl"]⟩ }

/-- The same features, but one that a run has no use for has made room for two others. -/
def oldAndroidFeatures : FeatureSet := ⟨["android-api-19", "fips-link", "pq-experimental", "ssl"]⟩

/-- With either set of features the build comes to its end, and does so in the same way. -/
theorem an_android_build_has_inert_features :
    oldAndroidTarget.features ≠ oldAndroidFeatures ∧
      oldAndroidTarget.ReadsSame oldAndroidFeatures ∧
      ((run oldAndroidTarget .default).result wellEquipped
        { disk := Bindings.macNdkDisk }).isOk = true ∧
      (run (oldAndroidTarget.withFeatures oldAndroidFeatures) .default).events wellEquipped
          { disk := Bindings.macNdkDisk } =
        (run oldAndroidTarget .default).events wellEquipped { disk := Bindings.macNdkDisk } ∧
      (run (oldAndroidTarget.withFeatures oldAndroidFeatures) .default).result wellEquipped
          { disk := Bindings.macNdkDisk } =
        (run oldAndroidTarget .default).result wellEquipped { disk := Bindings.macNdkDisk } ∧
      ((run (oldAndroidTarget.withFeatures oldAndroidFeatures) .default).left wellEquipped
          { disk := Bindings.macNdkDisk }).disk =
        ((run oldAndroidTarget .default).left wellEquipped
          { disk := Bindings.macNdkDisk }).disk := by
  have hsame : oldAndroidTarget.ReadsSame oldAndroidFeatures := by
    unfold ReadsSame
    decide +kernel
  exact ⟨by decide, hsame, by decide +kernel,
    other_features_are_inert wellEquipped { disk := Bindings.macNdkDisk } oldAndroidTarget .default
      oldAndroidFeatures hsame⟩

end Pipeline

end CrossBuild
