-- The command line of the generator, read back. What stands before and after the two
-- dashes is put together from five pieces, and still the headers come out of it whole
-- and in their order, with the system headers before those of the library.
import CrossBuild.Proofs.SourceTrees

namespace CrossBuild

open Job

variable {host : Host} {s : Session} {t : Target} {l : Layout}

/-! ## Reading a command line -/

/-- The values that options give to one name, in order. -/
def Bindings.valuesOf (name : String) (options : List (String × String)) : List String :=
  (options.filter fun o => o.1 = name).map (·.2)

namespace Call

/-- The flags of the generator: the arguments before the file that it writes. -/
def generatorFlags (c : Call) : List String := c.arguments.takeWhile (· ≠ "--output")

/-- The input of the generator, the argument after the file that it writes. -/
def input? (c : Call) : Option String := (c.arguments.dropWhile (· ≠ "--output"))[2]?

/-- The headers that the generator reads, in order: those that the compiler is told to include,
and the input. -/
def headersRead (c : Call) : List String :=
  Bindings.valuesOf "-include" (Bindings.optionsOf c.compilerArguments) ++ c.input?.toList

end Call

namespace Path

theorem text_injective : Function.Injective text := by
  intro p q h
  rw [← ofString_text p, h, ofString_text]

end Path

namespace Bindings

/-! ## The options of the compiler -/

theorem valuesOf_append (name : String) (options options' : List (String × String)) :
    valuesOf name (options ++ options') = valuesOf name options ++ valuesOf name options' := by
  simp [valuesOf]

/-- The options before those for the headers of the library: at most one of them says where the
system headers are, and none is for headers of the library. -/
structure AreForSystem (options : List (String × String)) : Prop where
  one_sysroot : (options.filter fun o => sysrootOptions.contains o.1).length ≤ 1
  not_for_library : ∀ o ∈ options, o.1 ∉ ["-I", "-include"]

/-- The arguments for the system headers are read by themselves, whatever comes after them. -/
theorem IsSysroot.exists_optionsOf_append {sysroot : List String} (h : IsSysroot sysroot) :
    ∃ before, AreForSystem before ∧
      ∀ rest, optionsOf (sysroot ++ rest) = before ++ optionsOf rest := by
  cases h with
  | none => exact ⟨[], ⟨by simp, by simp⟩, fun rest => rfl⟩
  | sdk folder =>
    refine ⟨[("-isysroot", folder)], ⟨by simp [sysrootOptions], by simp⟩, fun rest => ?_⟩
    exact optionsOf_cons (by decide) folder rest
  | ndk folder =>
    refine ⟨[("--sysroot", folder)], ⟨by simp [sysrootOptions], by simp⟩, fun rest => ?_⟩
    exact optionsOf_cons (by decide) folder rest
  | wasi folder triple =>
    refine ⟨[("--sysroot", folder), ("-target", triple)], ⟨by simp [sysrootOptions], by simp⟩,
      fun rest => ?_⟩
    simp only [List.cons_append, List.nil_append]
    rw [optionsOf_cons (by decide), optionsOf_cons (by decide),
      optionsOf_cons_of_not_mem (by decide)]

theorem AreForSystem.valuesOf_eq_nil {options : List (String × String)} (h : AreForSystem options)
    {name : String} (hname : name ∈ ["-I", "-include"]) : valuesOf name options = [] := by
  unfold valuesOf
  rw [List.map_eq_nil_iff, List.filter_eq_nil_iff]
  intro o ho heq
  exact h.not_for_library o ho (of_decide_eq_true heq ▸ hname)

theorem optionsOf_libraryArguments (t : Target) (root : Path) :
    optionsOf (libraryArguments t root) = ("-I", root.text) ::
      (headerPaths root (t.enables .fips)).dropLast.map fun path => ("-include", path.text) := by
  unfold libraryArguments
  rw [List.cons_append, List.cons_append, List.nil_append, optionsOf_cons (by decide),
    optionsOf_includes]

theorem valuesOf_includes (paths : List Path) :
    valuesOf "-include" (paths.map fun path => ("-include", path.text)) = paths.map Path.text := by
  unfold valuesOf
  rw [List.filter_eq_self.2, List.map_map]
  · rfl
  · intro o ho
    obtain ⟨path, -, rfl⟩ := List.mem_map.1 ho
    rfl

/-! ## The headers -/

theorem headersFor_eq (fips : Bool) :
    headersFor fips =
      headers.filter fun header => !(fips && ["blake2.h", "trust_token.h"].contains header) := by
  cases fips with
  | false => exact (List.filter_eq_self.2 fun _ _ => rfl).symm
  | true => rfl

theorem isPathPart_of_mem_headersFor {fips : Bool} {header : String}
    (h : header ∈ headersFor fips) : isPathPart header = true := by
  have hall : ∀ header ∈ headers, isPathPart header = true := by decide
  rw [headersFor_eq] at h
  exact hall header (List.mem_filter.1 h).1

theorem nodup_headersFor (fips : Bool) : (headersFor fips).Nodup := by
  have hall : headers.Nodup := by decide
  rw [headersFor_eq]
  exact hall.filter _

/-- Two headers have the same path only if they have the same name. -/
theorem nodup_text_headerPaths (root : Path) (fips : Bool) :
    ((headerPaths root fips).map Path.text).Nodup := by
  unfold headerPaths List.Nodup
  rw [List.map_map, List.pairwise_map]
  refine (nodup_headersFor fips).imp_of_mem fun {header other} hheader hother hne h => hne ?_
  have hparts := congrArg Path.parts (Path.text_injective h)
  rw [(Path.div_part _ (isPathPart_of_mem_headersFor hheader)).2,
    (Path.div_part _ (isPathPart_of_mem_headersFor hother)).2] at hparts
  simpa using hparts

/-- There is always a last header, which is the input of the generator. -/
theorem exists_input (root : Path) (fips : Bool) :
    ∃ input, (headerPaths root fips).getLast? = some input ∧
      (headerPaths root fips).dropLast ++ [input] = headerPaths root fips := by
  have hne : headerPaths root fips ≠ [] := by
    have hheaders : headersFor fips ≠ [] := by cases fips <;> decide
    simpa [headerPaths] using hheaders
  exact ⟨_, List.getLast?_eq_some_getLast hne, List.dropLast_concat_getLast hne⟩

/-! ## The call of the generator -/

section

variable {root output : Path} {sysroot : List String}

theorem generatorFlags_generatorCall :
    (generatorCall t l root output sysroot).generatorFlags = flags t := by
  unfold Call.generatorFlags generatorCall
  rw [List.append_assoc, List.cons_append, Text.takeWhile_ne_append (output_not_mem_flags t)]

theorem input?_generatorCall {input : Path}
    (h : (headerPaths root (t.enables .fips)).getLast? = some input) :
    (generatorCall t l root output sysroot).input? = some input.text := by
  unfold Call.input? generatorCall headerArguments
  rw [List.append_assoc, List.cons_append, Text.dropWhile_ne_append (output_not_mem_flags t), h]
  rfl

theorem words_generatorCall {input : Path}
    (h : (headerPaths root (t.enables .fips)).getLast? = some input) :
    (generatorCall t l root output sysroot).words =
      l.bindgen :: flags t ++ ["--output", output.text, input.text, "--"] ++
        (generatorCall t l root output sysroot).compilerArguments := by
  rw [compilerArguments_generatorCall]
  unfold Call.words generatorCall headerArguments libraryArguments
  rw [h]
  simp

theorem headersRead_generatorCall (hsysroot : IsSysroot sysroot) :
    (generatorCall t l root output sysroot).headersRead =
      (headerPaths root (t.enables .fips)).map Path.text := by
  obtain ⟨before, hbefore, hoptions⟩ := hsysroot.exists_optionsOf_append
  obtain ⟨input, hinput, hall⟩ := exists_input root (t.enables .fips)
  have hincludes : valuesOf "-include"
      (optionsOf (generatorCall t l root output sysroot).compilerArguments) =
        (headerPaths root (t.enables .fips)).dropLast.map Path.text := by
    rw [compilerArguments_generatorCall, hoptions, valuesOf_append,
      hbefore.valuesOf_eq_nil (by simp), optionsOf_libraryArguments]
    exact valuesOf_includes _
  unfold Call.headersRead
  rw [hincludes, input?_generatorCall hinput, Option.toList_some, ← List.map_singleton,
    ← List.map_append, hall]

end

/-! ## The law -/

/-- The command line `c` of a generator that writes to `output` says all that there is to be read,
and nothing else: it is put together in the one order in which it can be taken apart again, the
options of the compiler come in their order, and the headers are those of the library. -/
structure ReadsBack (t : Target) (l : Layout) (root output : Path) (c : Call) : Prop where
  words : ∃ input, c.input? = some input ∧
    c.words = l.bindgen :: c.generatorFlags ++ ["--output", output.text, input, "--"] ++
      c.compilerArguments
  flags : c.generatorFlags = flags t
  layoutTests : "--no-layout-tests" ∈ c.generatorFlags ↔
    t.triple = "aarch64-apple-ios" ∨ t.triple = "aarch64-apple-ios-sim" ∨
      t.triple = "aarch64-apple-ios-macabi"
  options : ∃ before, AreForSystem before ∧ ∃ included : List String,
    optionsOf c.compilerArguments =
      before ++ ("-I", root.text) :: included.map fun header => ("-include", header)
  headers : c.headersRead = (headers.filter fun header =>
    !(t.enables .fips && ["blake2.h", "trust_token.h"].contains header)).map fun header =>
      (root / "openssl" / header).text
  once : c.headersRead.Nodup

theorem layoutTests_mem_flags (t : Target) :
    "--no-layout-tests" ∈ flags t ↔ t.triple = "aarch64-apple-ios" ∨
      t.triple = "aarch64-apple-ios-sim" ∨ t.triple = "aarch64-apple-ios-macabi" := by
  have hbase : "--no-layout-tests" ∉ baseFlags := by decide
  unfold flags
  by_cases htriple : t.triple ∈ withoutLayoutTests
  · rw [if_pos (by simpa using htriple)]
    refine iff_of_true (by simp) ?_
    simpa [withoutLayoutTests] using htriple
  · rw [if_neg (by simpa using htriple), List.append_nil]
    refine iff_of_false hbase ?_
    simpa [withoutLayoutTests] using htriple

/-- Whatever is found for the system headers, the command line of the generator is read back: the
headers of the library in their order, each once, and what they are read with. -/
theorem the_headers_are_read_back {root output : Path} {c : Call}
    (h : (call t l root output).result host s = .ok c) : ReadsBack t l root output c := by
  obtain ⟨sysroot, hresult, rfl⟩ := exists_of_result_call h
  have hsysroot := isSysroot_of_result hresult
  obtain ⟨before, hbefore, hoptions⟩ := hsysroot.exists_optionsOf_append
  obtain ⟨input, hinput, -⟩ := exists_input root (t.enables .fips)
  have hread : (generatorCall t l root output sysroot).headersRead =
      (headerPaths root (t.enables .fips)).map Path.text := headersRead_generatorCall hsysroot
  constructor
  case words =>
    refine ⟨input.text, input?_generatorCall hinput, ?_⟩
    rw [generatorFlags_generatorCall]
    exact words_generatorCall hinput
  case flags => exact generatorFlags_generatorCall
  case layoutTests =>
    rw [generatorFlags_generatorCall]
    exact layoutTests_mem_flags t
  case options =>
    refine ⟨before, hbefore, (headerPaths root (t.enables .fips)).dropLast.map Path.text, ?_⟩
    rw [compilerArguments_generatorCall, hoptions, optionsOf_libraryArguments, List.map_map]
    rfl
  case headers =>
    rw [hread, ← headersFor_eq]
    unfold headerPaths
    rw [List.map_map]
    rfl
  case once =>
    rw [hread]
    exact nodup_text_headerPaths root _

/-- A build under the security policy for phones on a Mac. -/
def phoneTarget : Target :=
  { linuxTarget with
    architecture := "aarch64"
    system := "ios"
    host := "aarch64-apple-darwin"
    triple := "aarch64-apple-ios"
    features := ⟨["fips"]⟩
    environment := "" }

/-- A Mac, on which `xcrun` finds an SDK. -/
def macTools : Host where
  cwd := .ofString "/"
  tools _ call :=
    if call.program = "xcrun" then .ended { stdout := "/sdk\n" } else .refused .noEntry

/-- The bindings for phones are read with the SDK, without the two headers that are not part of
the module, and without tests of alignment. -/
theorem the_headers_for_phones_are_read_back :
    ∃ c, (call phoneTarget .default (.ofString "/include") (.ofString "/tmp")).result macTools
        { disk := .empty } = .ok c ∧
      ReadsBack phoneTarget .default (.ofString "/include") (.ofString "/tmp") c ∧
      c.headersRead.length = 27 ∧ c.sysroots = [("-isysroot", "/sdk")] := by
  have hresult : ((call phoneTarget .default (.ofString "/include")
      (.ofString "/tmp")).result macTools { disk := .empty }).isOk = true := by
    decide +kernel
  obtain ⟨c, hc⟩ := exists_of_isOk hresult
  have hread := the_headers_are_read_back hc
  refine ⟨c, hc, hread, ?_, ?_⟩
  · rw [hread.headers, List.length_map]
    decide
  · obtain ⟨sysroot, hsysroot, rfl⟩ := exists_of_result_call hc
    cases hsysroot
    rw [sysroots_generatorCall]
    decide +kernel

end Bindings

end CrossBuild
