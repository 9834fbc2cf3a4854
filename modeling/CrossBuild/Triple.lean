-- Target triples. A triple names an architecture, a vendor, an operating system and an
-- environment, some of which may be left out; the operating system is found by its name.
import CrossBuild.Problem
import CrossBuild.Text.Search

namespace CrossBuild

/-- What a target triple says about a target. -/
structure Triple where
  architecture : String
  system : String
  environment : String
  deriving DecidableEq, Repr

namespace Triple

/-- The names of the 32-bit x86 architectures. -/
def x86Names : List String := ["i386", "i586", "i686"]

/-- The architectures by the starts of their names; the first start that fits counts, so the
64-bit names stand before the shorter ones. -/
def architectureStarts : List (String × String) := [
  ("aarch64", "aarch64"), ("arm64", "aarch64"), ("arm", "arm"), ("thumb", "arm"),
  ("riscv64", "riscv64"), ("riscv32", "riscv32"), ("x86_64", "x86_64"),
  ("powerpc64", "powerpc64"), ("mips64", "mips64"), ("mips", "mips")]

/-- The architecture that the first component of a triple names. -/
def architectureOf (component : String) : String :=
  if x86Names.contains component then "x86"
  else
    match architectureStarts.find? fun (start, _) => Text.startsWith component start with
    | some (_, architecture) => architecture
    | none => component

/-- The operating systems that are known by their own name. -/
def knownSystems : List String := [
  "cuda", "dragonfly", "emscripten", "freebsd", "fuchsia", "haiku", "hermit", "illumos", "ios",
  "linux", "netbsd", "none", "openbsd", "redox", "solaris", "tvos", "uefi", "visionos",
  "watchos", "windows"]

/-- The operating system that a component names by itself. -/
def knownSystem? (component : String) : Option String :=
  if component = "darwin" then some "macos"
  else if Text.startsWith component "wasi" then some "wasi"
  else if knownSystems.contains component then some component
  else none

/-- The operating system that the components after the architecture name: Android wherever
it is named, else the first known system, else the component in the place of the system. -/
def systemOf (components : List String) : String :=
  if components.any fun component => Text.startsWith component "android" then "android"
  else
    match components.findSome? knownSystem?, components with
    | some system, _ => system
    | none, _ :: second :: _ => second
    | none, [only] => only
    | none, [] => ""

/-- The environments that are known by the start of their name. -/
def environmentStarts : List String := ["msvc", "gnu", "musl", "uclibc", "sgx"]

/-- The environments that are known by their whole name. -/
def environmentNames : List String := ["sim", "macabi"]

/-- The environment that the last of at least four components names. -/
def environmentOf (components : List String) : String :=
  match components.getLast? with
  | none => ""
  | some last =>
    if components.length < 4 then ""
    else
      match environmentStarts.find? fun start => Text.startsWith last start with
      | some environment => environment
      | none => if environmentNames.contains last then last else ""

/-- What a triple says. It needs two nonempty components; empty ones do not count. -/
def parse (triple : String) : Except Problem Triple :=
  match Text.pieces '-' triple with
  | first :: second :: rest =>
    .ok
      { architecture := architectureOf first
        system := systemOf (second :: rest)
        environment := environmentOf (first :: second :: rest) }
  | _ => .error (.malformedTriple triple)

end Triple

end CrossBuild
