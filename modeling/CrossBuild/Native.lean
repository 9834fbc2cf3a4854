-- Building the native library. A build for the host itself needs no parameters; a cross build
-- gets those of the target's platform, and a platform without any is warned of and built with
-- the defaults of CMake.
import CrossBuild.CMake.Build
import CrossBuild.Compiler
import CrossBuild.Layout
import CrossBuild.Source
import CrossBuild.Target

namespace CrossBuild.Native

/-- The flag that puts bitcode into object files. -/
def bitcodeFlag : String := "-fembed-bitcode"

/-- The flags of a build for fuzzing. -/
def fuzzingFlags : List String :=
  ["-DBORINGSSL_UNSAFE_DETERMINISTIC_MODE", "-DBORINGSSL_UNSAFE_FUZZER_MODE"]

/-- The folder of the sources of a target. -/
def sourceDir (t : Target) (l : Layout) : Path := t.projectDir / l.sourceName (t.enables .fips)

def warnUnsupported (message : String) : Job Unit := Job.warn .unsupportedTarget message

/-- Defines the parameters of a target, and warns if there are none. -/
def defineParameters (t : Target) (label : String) (params : Parameters) (c : CMake.Config) :
    Job CMake.Config := do
  if params.isEmpty then
    warnUnsupported ("no " ++ label ++ " CMake parameters for " ++ t.triple ++ "; using defaults")
  params.forM fun (name, value) =>
    Job.log .info .native
      (t.system ++ " arch=" ++ t.architecture ++ " add " ++ name ++ "=" ++ value)
  return c.defineAll params

/-- An Android build uses the toolchain file of the NDK. -/
def configureAndroid (t : Target) (c : CMake.Config) : Job CMake.Config := do
  let home ← Job.get t.requireNdkHome
  let c ← defineParameters t "Android" (.forAndroid t.architecture (t.enables .ndkOldGcc)) c
  let toolchain := home / "build" / "cmake" / "android.toolchain.cmake"
  Job.log .info .native ("android toolchain=" ++ toolchain.text)
  return c.defineAll [
    ("CMAKE_TOOLCHAIN_FILE", toolchain.text),
    ("ANDROID_NATIVE_API_LEVEL", if t.enables .androidApi19 then "19" else "21"),
    ("ANDROID_STL", "c++_shared")]

/-- What the triples of Mac Catalyst end with. -/
def catalystTail : String := "-macabi"

/-- The compiler flags of an iOS build. -/
def iosFlags (t : Target) : String :=
  if Text.endsWith t.triple catalystTail then bitcodeFlag ++ " -target " ++ t.triple
  else if t.architecture = "x86_64" then bitcodeFlag ++ " -target x86_64-apple-ios-simulator"
  else bitcodeFlag

/-- An iOS build embeds bitcode. For Mac Catalyst the flags are defined outright, so that no
deployment target is added to them. -/
def configureIos (t : Target) (c : CMake.Config) : Job CMake.Config := do
  let c ← defineParameters t "Apple" (.forApple t.triple) c
  let flags := iosFlags t
  if Text.endsWith t.triple catalystTail then
    return c.defineAll [
      ("CMAKE_ASM_FLAGS", flags), ("CMAKE_C_FLAGS", flags), ("CMAKE_CXX_FLAGS", flags)]
  else return (c.define "CMAKE_ASM_FLAGS" flags).addCFlag flags

/-- The toolchain file of a Linux build, by architecture. -/
def linuxToolchain? (t : Target) (l : Layout) (c : CMake.Config) : Option Path :=
  let folder := t.projectDir / l.toolchainDir
  if t.architecture = "x86" then some (c.sourceDir / "src" / "util" / "32-bit-toolchain.cmake")
  else if t.architecture = "aarch64" then some (folder / "aarch64-linux.cmake")
  else if t.architecture = "arm" then some (folder / "armv7-linux.cmake")
  else none

def configureLinux (t : Target) (l : Layout) (c : CMake.Config) : Job CMake.Config :=
  match linuxToolchain? t l c with
  | some file => return c.define "CMAKE_TOOLCHAIN_FILE" file.text
  | none => do
    warnUnsupported ("no toolchain file configured by boring-sys for " ++ t.triple)
    return c

/-- The folder of the WASI SDK without slashes at its end. -/
def wasiSdk (l : Layout) : String := Text.trimEndSlashes l.wasiSdk

def configureWasi (l : Layout) (c : CMake.Config) : CMake.Config :=
  c.defineAll [
    ("CMAKE_TOOLCHAIN_FILE", wasiSdk l ++ "/share/cmake/wasi-sdk-pthread.cmake"),
    ("WASI_SDK_PREFIX", wasiSdk l ++ "/"),
    ("CMAKE_C_COMPILER_FORCED", "true")]

/-- A Windows build on a Windows host has no assembly: the compiler can not cross-compile
it. -/
def configureWindows (t : Target) (c : CMake.Config) : CMake.Config :=
  if Text.contains t.host "windows" then c.define "OPENSSL_NO_ASM" "YES" else c

/-- The configuration of the library for a target. -/
def config (t : Target) (l : Layout) : Job CMake.Config := do
  let c : CMake.Config := { sourceDir := sourceDir t l }
  if !t.isCross then return c
  match t.platform with
  | .android => configureAndroid t c
  | .macos => defineParameters t "Apple" (.forApple t.triple) c
  | .ios => configureIos t c
  | .windows => return configureWindows t c
  | .linux => configureLinux t l c
  | .wasi => return configureWasi l c
  | .other =>
    warnUnsupported ("no cross-compilation parameters for " ++ t.triple ++ "; using defaults")
    return c

/-- The configuration with the flags of a build for fuzzing. -/
def withFuzzing (t : Target) (c : CMake.Config) : CMake.Config :=
  if t.enables .fuzzing then fuzzingFlags.foldl CMake.Config.addCxxFlag c else c

/-- The configuration of a FIPS build, which uses the chosen compilers only. -/
def withCompilers (compilers : Compilers) (c : CMake.Config) : CMake.Config :=
  c.defineAll [
    ("CMAKE_C_COMPILER", compilers.c), ("CMAKE_CXX_COMPILER", compilers.cxx),
    ("CMAKE_ASM_COMPILER", compilers.c), ("FIPS", "1")]

/-- Chooses the compilers of a FIPS build. -/
def chooseCompilers (t : Target) (c : CMake.Config) : Job CMake.Config := do
  if t.enables .fips then
    return withCompilers (← Compilers.select Compilers.requiredVersion Compilers.candidates) c
  else return c

/-- Fetches the sources if they are missing and builds the libraries. The root of the build
is the output folder of the target. -/
def build (t : Target) (l : Layout) : Job Path := do
  let _ ← Source.ensure t.projectDir (l.sourceName (t.enables .fips)) l.git
  let c ← chooseCompilers t (withFuzzing t (← config t l))
  let profile ← Job.get t.profile
  if t.enables .ssl then CMake.build c "ssl" t.outDir profile.name l.cmake
  CMake.build c "crypto" t.outDir profile.name l.cmake
  return t.outDir

end CrossBuild.Native
