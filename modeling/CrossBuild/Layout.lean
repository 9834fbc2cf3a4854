-- The layout of a project: where its sources and tools are. A settings file can override each
-- entry; the text of the value it gives counts, and null keeps the default.
import CrossBuild.Document

namespace CrossBuild

/-- Where the sources and the tools of a project are. -/
structure Layout where
  sourceDir : String
  fipsSourceDir : String
  toolchainDir : String
  wasiSdk : String
  bindingsFile : String
  cmake : String
  git : String
  xcrun : String
  bindgen : String
  deriving DecidableEq, Repr

namespace Layout

/-- The entries of a layout. -/
inductive Key where
  | sourceDir
  | fipsSourceDir
  | toolchainDir
  | wasiSdk
  | bindingsFile
  | cmake
  | git
  | xcrun
  | bindgen
  deriving DecidableEq, Repr

namespace Key

def all : List Key :=
  [sourceDir, fipsSourceDir, toolchainDir, wasiSdk, bindingsFile, cmake, git, xcrun, bindgen]

/-- The name of an entry in a settings file. -/
def name : Key → String
  | sourceDir => "source_dir"
  | fipsSourceDir => "fips_source_dir"
  | toolchainDir => "cmake_toolchain_dir"
  | wasiSdk => "wasi_sdk_prefix"
  | bindingsFile => "bindings_file"
  | cmake => "cmake"
  | git => "git"
  | xcrun => "xcrun"
  | bindgen => "bindgen"

/-- What an entry is when nothing else is said. -/
def default : Key → String
  | sourceDir => "deps/boringssl"
  | fipsSourceDir => "deps/boringssl-fips"
  | toolchainDir => "cmake"
  | wasiSdk => "/opt/wasi-sdk"
  | bindingsFile => "bindings.rs"
  | cmake => "cmake"
  | git => "git"
  | xcrun => "xcrun"
  | bindgen => "bindgen"

end Key

/-- The layout with the given entries. -/
def ofKeys (entry : Key → String) : Layout where
  sourceDir := entry .sourceDir
  fipsSourceDir := entry .fipsSourceDir
  toolchainDir := entry .toolchainDir
  wasiSdk := entry .wasiSdk
  bindingsFile := entry .bindingsFile
  cmake := entry .cmake
  git := entry .git
  xcrun := entry .xcrun
  bindgen := entry .bindgen

/-- An entry of a layout. -/
def get (l : Layout) : Key → String
  | .sourceDir => l.sourceDir
  | .fipsSourceDir => l.fipsSourceDir
  | .toolchainDir => l.toolchainDir
  | .wasiSdk => l.wasiSdk
  | .bindingsFile => l.bindingsFile
  | .cmake => l.cmake
  | .git => l.git
  | .xcrun => l.xcrun
  | .bindgen => l.bindgen

theorem get_ofKeys (entry : Key → String) (k : Key) : (ofKeys entry).get k = entry k := by
  cases k <;> rfl

/-- The layout of a project that has no settings file. -/
def default : Layout := ofKeys Key.default

/-- The value under a text key, the first one if there are several. -/
def valueOf? (name : String) : List (Value × Value) → Option Value
  | [] => none
  | (.text key, value) :: rest =>
    if key = Text.codePoints name then some value else valueOf? name rest
  | _ :: rest => valueOf? name rest

/-- An entry of the layout that the entries of a settings file give. -/
def settingText? (d : Document) (settings : List (Value × Value)) (k : Key) : Option String :=
  match valueOf? k.name settings with
  | some value => if value.isNull then some k.default else d.display value
  | none => some k.default

/-- The layout that the entries of a settings file give, unless one of them has no text.
Other entries do not count. -/
def resolve? (d : Document) (settings : List (Value × Value)) : Option Layout := do
  let texts ← Key.all.mapM fun k => do return (k, ← settingText? d settings k)
  return ofKeys fun k => (texts.lookup k).getD k.default

/-- The folder of the sources, by the kind of the build. -/
def sourceName (l : Layout) (fips : Bool) : String := if fips then l.fipsSourceDir else l.sourceDir

end Layout

end CrossBuild
