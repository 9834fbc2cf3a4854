-- CMake configurations, and the command lines that configure and build by them.
import CrossBuild.Path

namespace CrossBuild.CMake

/-- The definitions and compiler flags that a source tree is configured with, in the order
in which they were given. -/
structure Config where
  sourceDir : Path
  definitions : List (String × String) := []
  cFlags : List String := []
  cxxFlags : List String := []
  deriving DecidableEq

namespace Config

def define (c : Config) (name value : String) : Config :=
  { c with definitions := c.definitions ++ [(name, value)] }

def defineAll (c : Config) (definitions : List (String × String)) : Config :=
  { c with definitions := c.definitions ++ definitions }

def addCFlag (c : Config) (flag : String) : Config := { c with cFlags := c.cFlags ++ [flag] }

def addCxxFlag (c : Config) (flag : String) : Config :=
  { c with cxxFlags := c.cxxFlags ++ [flag] }

def isDefined (c : Config) (name : String) : Bool := c.definitions.any fun d => d.1 = name

/-- The argument that defines a variable. -/
def defineArgument (name value : String) : String := "-D" ++ name ++ "=" ++ value

/-- The definition of flags that were collected; nothing if there are none or if the
variable is defined already. -/
def flagsArgument (c : Config) (name : String) (flags : List String) : List String :=
  if flags.isEmpty || c.isDefined name then [] else [defineArgument name (" ".intercalate flags)]

/-- The definition of the profile, unless it is defined already. -/
def profileArgument (c : Config) (profile : String) : List String :=
  if c.isDefined "CMAKE_BUILD_TYPE" then [] else [defineArgument "CMAKE_BUILD_TYPE" profile]

/-- The arguments that configure a source tree. A definition counts more than the flags that
were collected. -/
def configureArguments (c : Config) (outDir : Path) (profile : String) : List String :=
  [c.sourceDir.text, defineArgument "CMAKE_INSTALL_PREFIX" outDir.text] ++
    c.definitions.map (fun d => defineArgument d.1 d.2) ++
    c.flagsArgument "CMAKE_C_FLAGS" c.cFlags ++
    c.flagsArgument "CMAKE_CXX_FLAGS" c.cxxFlags ++
    c.profileArgument profile

end Config

/-- The arguments that build a target of a configured source tree. -/
def buildArguments (target profile : String) : List String :=
  ["--build", ".", "--target", target, "--config", profile]

end CrossBuild.CMake
