-- The vendor of a triple that is written in full. The operating system is looked for
-- in every component after the architecture, and the first name that is known counts,
-- so a vendor with the name of an operating system hides the one that comes after it.
import CrossBuild.Proofs.CanonicalTriples

namespace CrossBuild.Triple

variable {architecture vendor vendor' system environment : String}

/-! ## Triples in four components -/

/-- What can stand between two dashes of a triple. -/
def IsComponent (component : String) : Prop := component ≠ "" ∧ '-' ∉ component.toList

instance (component : String) : Decidable (IsComponent component) :=
  inferInstanceAs (Decidable (_ ∧ _))

/-- A component in the place of the vendor. One that begins like Android would make every triple
one for Android. -/
def IsVendor (component : String) : Prop :=
  IsComponent component ∧ Text.startsWith component "android" = false

instance (component : String) : Decidable (IsVendor component) :=
  inferInstanceAs (Decidable (_ ∧ _))

/-- A triple in four components. -/
def inFull (architecture vendor system environment : String) : String :=
  "-".intercalate [architecture, vendor, system, environment]

theorem pieces_inFull (hvendor : IsComponent vendor)
    (hothers : ∀ component ∈ [architecture, system, environment], IsComponent component) :
    Text.pieces '-' (inFull architecture vendor system environment) =
      [architecture, vendor, system, environment] := by
  have hall : ∀ component ∈ [architecture, vendor, system, environment], IsComponent component := by
    simp only [List.forall_mem_cons] at hothers ⊢
    exact ⟨hothers.1, hvendor, hothers.2⟩
  unfold inFull
  rw [Text.pieces_intercalate fun component hmem => (hall component hmem).2, List.filter_eq_self]
  intro component hmem
  exact decide_eq_true (hall component hmem).1

theorem parse_inFull (hvendor : IsComponent vendor)
    (hothers : ∀ component ∈ [architecture, system, environment], IsComponent component) :
    parse (inFull architecture vendor system environment) =
      .ok ⟨architectureOf architecture, systemOf [vendor, system, environment],
        environmentNamed environment⟩ := by
  have hlast : [architecture, vendor, system, environment].getLast? = some environment := rfl
  have henvironment : environmentOf [architecture, vendor, system, environment] =
      environmentNamed environment := by
    rw [environmentOf_of_getLast? hlast, if_pos (by simp)]
  rw [parse_of_pieces (pieces_inFull hvendor hothers), henvironment]

/-! ## What the vendor does to the operating system -/

/-- The last two components say by themselves that the target is one for Android. -/
def IsForAndroid (system environment : String) : Prop :=
  Text.startsWith system "android" = true ∨ Text.startsWith environment "android" = true

instance (system environment : String) : Decidable (IsForAndroid system environment) :=
  inferInstanceAs (Decidable (_ ∨ _))

/-- The operating system that stands behind the vendor: a known one, else whatever stands in the
place of the operating system. -/
def systemBehind (system environment : String) : String :=
  ((knownSystem? system).or (knownSystem? environment)).getD system

/-- The operating system behind a vendor that may be known as one itself. -/
def systemPast (vendor system environment : String) : String :=
  (knownSystem? vendor).getD (systemBehind system environment)

theorem systemOf_of_isForAndroid (h : IsForAndroid system environment) :
    systemOf [vendor, system, environment] = "android" := by
  unfold systemOf
  rw [if_pos]
  rcases h with h | h <;> simp [h]

theorem systemOf_of_not_isForAndroid (h : ¬IsForAndroid system environment)
    (hvendor : Text.startsWith vendor "android" = false) :
    systemOf [vendor, system, environment] = systemPast vendor system environment := by
  have hnone : ¬([vendor, system, environment].any
      fun component => Text.startsWith component "android") = true := by
    unfold IsForAndroid at h
    simp only [List.any_cons, List.any_nil, hvendor, Bool.false_or, Bool.or_false, Bool.or_eq_true]
    exact h
  unfold systemOf systemPast systemBehind
  rw [if_neg hnone]
  cases hfirst : knownSystem? vendor with
  | some found => simp [hfirst]
  | none =>
    cases hsecond : knownSystem? system with
    | some found => simp [hfirst, hsecond]
    | none => cases hthird : knownSystem? environment <;> simp [hfirst, hsecond, hthird]

theorem systemBehind_linux (environment : String) : systemBehind "linux" environment = "linux" := by
  have hknown : knownSystem? "linux" = some "linux" := by decide
  simp [systemBehind, hknown]

/-- Linux is found behind a vendor exactly if the vendor names no other operating system. -/
theorem systemPast_linux_iff (vendor environment : String) :
    systemPast vendor "linux" environment = "linux" ↔
      ∀ found ∈ knownSystem? vendor, found = "linux" := by
  unfold systemPast
  rw [systemBehind_linux]
  cases knownSystem? vendor <;> simp

/-! ## Two vendors -/

/-- Two triples that differ in the vendor only say the same of the architecture and of the
environment. They say the same of the operating system exactly if it is Android or if it is the
same past both vendors; past a vendor stands Linux exactly if the vendor has no other known
name. -/
theorem the_vendor_is_inert_iff (hvendor : IsVendor vendor) (hvendor' : IsVendor vendor')
    (hothers : ∀ component ∈ [architecture, system, environment], IsComponent component) :
    ∃ parsed parsed', parse (inFull architecture vendor system environment) = .ok parsed ∧
      parse (inFull architecture vendor' system environment) = .ok parsed' ∧
      parsed.architecture = parsed'.architecture ∧ parsed.environment = parsed'.environment ∧
      (parsed = parsed' ↔ IsForAndroid system environment ∨
        systemPast vendor system environment = systemPast vendor' system environment) ∧
      (system = "linux" → Text.startsWith environment "android" = false →
        (parsed.system = "linux" ↔ ∀ found ∈ knownSystem? vendor, found = "linux")) := by
  refine ⟨_, _, parse_inFull hvendor.1 hothers, parse_inFull hvendor'.1 hothers, rfl, rfl, ?_, ?_⟩
  · by_cases handroid : IsForAndroid system environment
    · rw [systemOf_of_isForAndroid handroid, systemOf_of_isForAndroid handroid]
      simp [handroid]
    · rw [systemOf_of_not_isForAndroid handroid hvendor.2,
        systemOf_of_not_isForAndroid handroid hvendor'.2]
      simp [handroid]
  · rintro rfl henvironment
    have handroid : ¬IsForAndroid "linux" environment := by
      have hlinux : Text.startsWith "linux" "android" = false := by decide
      simp [IsForAndroid, hlinux, henvironment]
    dsimp only
    rw [systemOf_of_not_isForAndroid handroid hvendor.2]
    exact systemPast_linux_iff vendor environment

/-- The usual vendors name no operating system, and Linux is found past them. -/
theorem the_usual_vendors_are_inert :
    ∃ parsed, parse "x86_64-unknown-linux-gnu" = .ok parsed ∧
      parse "x86_64-pc-linux-gnu" = .ok parsed ∧ parsed.system = "linux" := by
  have hvendor : IsVendor "unknown" := by decide
  have hvendor' : IsVendor "pc" := by decide
  have hothers : ∀ component ∈ ["x86_64", "linux", "gnu"], IsComponent component := by decide
  obtain ⟨parsed, parsed', hparsed, hparsed', -, -, hsame, hlinux⟩ :=
    the_vendor_is_inert_iff hvendor hvendor' hothers
  have heq : parsed = parsed' := hsame.2 (Or.inr (by decide))
  exact ⟨parsed, hparsed, heq ▸ hparsed', (hlinux rfl (by decide)).2 (by decide)⟩

/-- A vendor without a name has the name of an operating system, which hides Linux. -/
theorem a_vendor_hides_the_system :
    parse "aarch64-none-linux-gnu" = .ok ⟨"aarch64", "none", "gnu"⟩ ∧
      ¬∃ parsed, parse "aarch64-none-linux-gnu" = .ok parsed ∧
        parse "aarch64-unknown-linux-gnu" = .ok parsed := by
  have hnone : parse "aarch64-none-linux-gnu" = .ok ⟨"aarch64", "none", "gnu"⟩ := by rfl
  have hunknown : parse "aarch64-unknown-linux-gnu" = .ok ⟨"aarch64", "linux", "gnu"⟩ := by rfl
  refine ⟨hnone, ?_⟩
  rintro ⟨parsed, hparsed, hparsed'⟩
  have hsystem : "none" = "linux" :=
    congrArg system
      (Except.ok.inj ((hnone.symm.trans hparsed).trans (hparsed'.symm.trans hunknown)))
  exact absurd hsystem (by decide)

end CrossBuild.Triple
