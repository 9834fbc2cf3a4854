-- Choosing the compilers of a FIPS build. The security policy of the cryptographic module
-- fixes the version of the compiler, so the first candidate that reports this version is taken
-- and a run without one ends.
import CrossBuild.Job
import CrossBuild.Text.Line
import CrossBuild.Text.Search

namespace CrossBuild

/-- A C compiler and its C++ partner. -/
structure Compilers where
  c : String
  cxx : String
  deriving DecidableEq, Repr

namespace Compilers

/-- The version that the security policy requires. -/
def requiredVersion : String := "7.0.1"

/-- The candidates in the order in which they are tried. -/
def candidates : List Compilers := [⟨"clang-7", "clang++-7"⟩, ⟨"clang", "clang++"⟩, ⟨"cc", "c++"⟩]

/-- The version that a compiler reports, the first line it writes; empty if it can not be
started. -/
def version (tool : String) : Job String := do
  match ← Job.start ⟨tool, ["--version"], none⟩ with
  | .error e =>
    Job.log .warning .compiler ("missing " ++ tool ++ ", trying other compilers: " ++ e.text)
    return ""
  | .ok exit =>
    if exit.code ≠ 0 then Job.fail (.probeFailed tool exit.code exit.stderr)
    return Text.firstLine exit.stdout

/-- The first candidate whose C compiler reports the required version. Its partner has to
report it too, and the last candidate has to have it. -/
def select (required : String) : List Compilers → Job Compilers
  | [] => Job.fail (.unsupportedCompiler required "")
  | candidate :: rest => do
    let found ← version candidate.c
    if Text.contains found required then
      let partner ← version candidate.cxx
      if !Text.contains partner required then
        Job.fail (.compilerMismatch candidate.c candidate.cxx required partner)
      Job.log .info .compiler
        ("FIPS toolchain: " ++ candidate.c ++ " / " ++ candidate.cxx ++ " (" ++ found ++ ")")
      return candidate
    else if rest.isEmpty then Job.fail (.unsupportedCompiler required found)
    else
      if found ≠ "" then
        Job.log .warning .compiler
          ("FIPS requires clang version " ++ required ++ ", skipping incompatible version \"" ++
            found ++ "\"")
      select required rest

end Compilers

end CrossBuild
