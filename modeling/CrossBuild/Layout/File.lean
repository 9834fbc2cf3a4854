-- Loading the layout of a project from its settings file. What the file says is settled by a
-- loader of documents; what a layout makes of it is settled here.
import CrossBuild.Job
import CrossBuild.Layout
import CrossBuild.Yaml.Document

namespace CrossBuild.Layout

/-- The name of the settings file of a project. -/
def fileName : String := "boring-build.yaml"

/-- The settings file of the project in a folder: the given one, or the one in the folder. -/
def settingsPath (projectDir : Path) (config : Option Path) : Path :=
  config.getD (projectDir / fileName)

/-- The names of the keys that no entry of a layout has, in ascending order; nothing if one
of them is not a text. -/
def unknownKeys (settings : List (Value × Value)) : Option (List String) :=
  let names := Key.all.map fun k => Text.codePoints k.name
  let unknown := settings.filterMap fun (key, _) =>
    match key with
    | .text name => if names.contains name then none else some (some name)
    | _ => some none
  (unknown.mapM id).map fun names => (names.mergeSort Text.codePointsLe).map Text.ofCodePoints

/-- The layout that the entries of a settings file give. Unknown keys are only warned of. -/
def ofSettings (path : Path) (d : Document) (settings : List (Value × Value)) : Job Layout := do
  match unknownKeys settings with
  | none => throw .keyNotText
  | some names =>
    if !names.isEmpty then
      Job.log .warning .layout
        ("Ignoring unknown keys in " ++ path.text ++ ": " ++ ", ".intercalate names)
  Job.log .debug .layout ("Loaded layout overrides from " ++ path.text)
  match resolve? d settings with
  | some l => return l
  | none => throw .numberTooLong

/-- The layout that a settings file gives by what it holds: null gives the default, and any
other value has to be a mapping. -/
def ofLoaded (path : Path) (loaded : Except Yaml.Fault Document) : Job Layout :=
  match loaded with
  | .error .malformed => Job.fail (.malformedConfig path)
  | .error .unfinished => Job.fail (.malformedConfig path)
  | .error .notText => throw (.notText path)
  | .error fault => throw (.badScalar fault)
  | .ok d =>
    if d.root.isNull then ofSettings path d []
    else
      match d.entries? d.root with
      | some settings => ofSettings path d settings
      | none => Job.fail (.configNotMapping path (d.kindName d.root))

/-- The layout of the project in a folder: from the given settings file, or from the one in
the folder if there is one. -/
def load (loader : ByteArray → Except Yaml.Fault Document) (projectDir : Path)
    (config : Option Path) : Job Layout := do
  let path := settingsPath projectDir config
  if ← Job.isFile path then
    ofLoaded path (loader (← Job.require path fun d cwd => d.read cwd path))
  else
    match config with
    | some path => Job.fail (.configMissing path)
    | none => return default

end CrossBuild.Layout
