-- Features of a build, and the environment variables that switch them on.
import CrossBuild.Text.Case
import CrossBuild.Text.Search

namespace CrossBuild

/-- The features that make a difference. -/
inductive Feature where
  | ssl
  | fips
  | fuzzing
  | androidApi19
  | ndkOldGcc
  deriving DecidableEq, Repr

namespace Feature

def all : List Feature := [ssl, fips, fuzzing, androidApi19, ndkOldGcc]

def name : Feature → String
  | ssl => "ssl"
  | fips => "fips"
  | fuzzing => "fuzzing"
  | androidApi19 => "android-api-19"
  | ndkOldGcc => "ndk-old-gcc"

end Feature

/-- The names of the enabled features, in ascending order and each once. -/
structure FeatureSet where
  names : List String
  deriving DecidableEq, Repr

namespace FeatureSet

def ofList (names : List String) : FeatureSet :=
  ⟨names.eraseDups.mergeSort fun a b => decide (a ≤ b)⟩

def contains (s : FeatureSet) (f : Feature) : Bool := s.names.contains f.name

/-- What the name of a variable that enables a feature starts with. -/
def variableStart : String := "CARGO_FEATURE_"

/-- The name of the feature that a variable enables: the rest of its name in small letters,
with hyphens for underscores. -/
def ofVariable? (name : String) : Option String :=
  if Text.startsWith name variableStart ∧ name ≠ variableStart then
    let rest := String.ofList (name.toList.drop variableStart.toList.length)
    some (String.ofList ((Text.lower rest).toList.map fun c => if c = '_' then '-' else c))
  else none

/-- The name of the variable that enables a feature: the name of the feature in capitals, with
underscores for hyphens. -/
def variableOf (feature : String) : String :=
  variableStart ++
    String.ofList (feature.toList.map fun c => if c = '-' then '_' else Text.capital c)

/-- The features that the variables of an environment enable. -/
def ofVariables (names : List String) : FeatureSet := ofList (names.filterMap ofVariable?)

end FeatureSet

end CrossBuild
