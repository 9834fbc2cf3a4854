-- Generating the bindings. The generator reads the headers of the library with the system
-- headers of the target, writes to a temporary file, and only a file that it has written whole
-- takes the place of the bindings.
import CrossBuild.Layout
import CrossBuild.Ndk
import CrossBuild.Target

namespace CrossBuild.Bindings

/-! ## Headers -/

/-- The headers of the library, in the order in which they are read. -/
def headers : List String := [
  "aes.h", "asn1_mac.h", "asn1t.h", "blake2.h", "blowfish.h", "cast.h", "chacha.h", "cmac.h",
  "cpu.h", "curve25519.h", "des.h", "dtls1.h", "hkdf.h", "hrss.h", "md4.h", "md5.h",
  "obj_mac.h", "objects.h", "opensslv.h", "ossl_typ.h", "pkcs12.h", "poly1305.h", "rand.h",
  "rc4.h", "ripemd.h", "siphash.h", "srtp.h", "trust_token.h", "x509v3.h"]

/-- The headers that are not part of the module under the security policy. -/
def fipsExcluded : List String := ["blake2.h", "trust_token.h"]

/-- The headers by the kind of the build. -/
def headersFor (fips : Bool) : List String :=
  if fips then headers.filter fun header => !fipsExcluded.contains header else headers

/-- The paths of the headers under the folder of all headers. -/
def headerPaths (root : Path) (fips : Bool) : List Path :=
  (headersFor fips).map fun header => root / "openssl" / header

/-- The folder of all headers: the one that is set, or the one in the sources. -/
def headerRoot (t : Target) (sourceDir : Path) : Path := t.headers.getD (sourceDir / "include")

/-! ## The command line -/

/-- The options that every run of the generator has. -/
def baseFlags : List String := [
  "--with-derive-default", "--with-derive-eq", "--default-enum-style", "newtype",
  "--default-macro-constant-type", "signed", "--size_t-is-usize"]

/-- The targets with unaligned types, for which tests of alignment can not be generated. -/
def withoutLayoutTests : List String :=
  ["aarch64-apple-ios", "aarch64-apple-ios-sim", "aarch64-apple-ios-macabi"]

/-- The options of the generator for a target. -/
def flags (t : Target) : List String :=
  baseFlags ++ if withoutLayoutTests.contains t.triple then ["--no-layout-tests"] else []

/-- The system headers of an Apple SDK, where `xcrun` finds them. That it does not is only
warned of. -/
def appleSysroot (sdk xcrun : String) : Job (Option String) := do
  match ← Job.start ⟨xcrun, ["--show-sdk-path", "--sdk", sdk], none⟩ with
  | .error e =>
    Job.warn .sdkLookup ("xcrun failed: " ++ e.text)
    return none
  | .ok exit =>
    if exit.code = 0 then return some (Text.trimEnd exit.stdout)
    let detail := if exit.code < 0 then "killed" else "exit code " ++ toString exit.code
    Job.warn .sdkLookup ("xcrun failed: " ++ detail)
    if exit.stderr ≠ "" then Job.log .warning .bindings (Text.trimEnd exit.stderr)
    return none

/-- The arguments by which the system headers of the target are read, and not those of the
host. -/
def sysrootArguments (t : Target) (l : Layout) : Job (List String) := do
  match t.platform with
  | .ios | .macos =>
    match ← appleSysroot (← Job.get (appleSdk t.triple)) l.xcrun with
    | some sysroot => return ["-isysroot", sysroot]
    | none => return []
  | .android =>
    let root := Ndk.prebuiltDir (← Job.get t.requireNdkHome)
    let toolchain ← Ndk.locate root
    return ["--sysroot", (root / toolchain / "sysroot").text]
  | .wasi =>
    return ["--sysroot", Text.trimEndSlashes l.wasiSdk ++ "/share/wasi-sysroot",
      "-target", "wasm32-wasi", "-fvisibility=default"]
  | _ => return []

/-- The arguments that read the headers in order: the last one is the input, and each of the
others is included before it. -/
def headerArguments (root : Path) (paths : List Path) (sysroot : List String) : List String :=
  (paths.getLast?.map Path.text).toList ++ ["--"] ++ sysroot ++ ["-I", root.text] ++
    paths.dropLast.flatMap fun path => ["-include", path.text]

/-- The call of the generator that writes to `output`. -/
def call (t : Target) (l : Layout) (root output : Path) : Job Call := do
  let sysroot ← sysrootArguments t l
  return ⟨l.bindgen, flags t ++ ["--output", output.text] ++
    headerArguments root (headerPaths root (t.enables .fips)) sysroot, none⟩

/-! ## Generation -/

/-- Where the bindings go. -/
def outputPath (t : Target) (l : Layout) : Path := t.outDir / l.bindingsFile

/-- The file that is written before it takes the place of `output`. -/
def temporaryPath (output : Path) : Except Failure Path :=
  match output.withSuffix? ".tmp" with
  | some path => .ok path
  | none => .error (.noFileName output)

/-- Generates the bindings from the headers under `root`. After a failure nothing new is
left. -/
def generate (t : Target) (l : Layout) (root : Path) : Job Path := do
  let output := outputPath t l
  let temporary ← MonadExcept.ofExcept (temporaryPath output)
  let call ← call t l root temporary
  Job.log .info .bindings ("Generating " ++ output.text)
  Job.log .debug .bindings ("Running " ++ " ".intercalate call.words)
  Job.ensureFolders output.parent
  match ← Job.start call with
  | .error e =>
    Job.removeFile temporary
    Job.fail (.bindgenNotStarted call.program e)
  | .ok exit =>
    if exit.code ≠ 0 then
      Job.removeFile temporary
      let said := if exit.stderr ≠ "" then exit.stderr else exit.stdout
      Job.fail (.bindgenFailed call.program exit.code said)
    if !(← Job.isPresent temporary) then
      Job.fail (.bindingsMissing call.program exit.stderr)
    Job.rename temporary output
    return output

end CrossBuild.Bindings
