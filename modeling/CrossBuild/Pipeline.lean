-- The whole run: the native library, the directives that link it, and the bindings.
import CrossBuild.Bindings
import CrossBuild.Link
import CrossBuild.Native

namespace CrossBuild.Pipeline

/-- The directives that make a change of a variable a reason to run again. -/
def prebuiltVariable : Directive := .rerunIfEnvChanged "BORING_BSSL_PATH"

def ndkVariable : Directive := .rerunIfEnvChanged "ANDROID_NDK_HOME"

def headersVariable : Directive := .rerunIfEnvChanged "BORING_BSSL_INCLUDE_PATH"

/-- The root of the build to link: one that is there already, or a new one. -/
def buildRoot (t : Target) (l : Layout) : Job Path := do
  match t.prebuilt with
  | some root =>
    Job.log .info .pipeline ("Using prebuilt BoringSSL at " ++ root.text)
    return root
  | none => Native.build t l

/-- Removes the bindings of an earlier run, so that a run that fails leaves none, and emits
the directives that come before all others. -/
def prepare (t : Target) (l : Layout) : Job Unit := do
  Job.removeFile (Bindings.outputPath t l)
  Job.emit prebuiltVariable
  if t.platform = .android ∧ t.isCross then Job.emit ndkVariable

/-- Builds the library unless it has been built, and links it. -/
def link (t : Target) (l : Layout) : Job Unit := do
  let root ← buildRoot t l
  let _ ← Link.emit root t
  Job.emit headersVariable

/-- Builds the library unless it has been built, links it, and generates the bindings, of
which the path is given. -/
def run (t : Target) (l : Layout) : Job Path := do
  prepare t l
  link t l
  Bindings.generate t l (Bindings.headerRoot t (Native.sourceDir t l))

end CrossBuild.Pipeline
