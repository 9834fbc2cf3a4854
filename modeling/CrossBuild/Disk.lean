-- The files and folders that a run sees and changes. The tree of a disk is addressed by
-- locations, which are lists of names from the root; a path leads to a location when it is
-- followed from the current folder. Every operation gives the reason when it refuses.
import CrossBuild.Path
import CrossBuild.SystemError

namespace CrossBuild

/-- A file with its content, or a folder with the named entries in it. -/
inductive Entry where
  | file (content : ByteArray)
  | folder (children : List (String × Entry))

namespace Entry

def isFile : Entry → Bool
  | file _ => true
  | folder _ => false

def isFolder : Entry → Bool
  | file _ => false
  | folder _ => true

/-- The entries in a folder; a file has none. -/
def children : Entry → List (String × Entry)
  | file _ => []
  | folder children => children

/-- The entry at a location. -/
def at? : Entry → List String → Option Entry
  | e, [] => some e
  | e, name :: rest => (e.children.lookup name).bind fun child => child.at? rest

/-- The children with the named one set: in its place if there is one, at the end if not. -/
def setChild (name : String) (child : Entry) : List (String × Entry) → List (String × Entry)
  | [] => [(name, child)]
  | (other, e) :: rest =>
    if other = name then (name, child) :: rest else (other, e) :: setChild name child rest

/-- The tree with the entry at a location set. Names on the way that are missing become
folders. -/
def put (new : Entry) : Entry → List String → Entry
  | _, [] => new
  | e, name :: rest =>
    folder (setChild name (put new ((e.children.lookup name).getD (folder [])) rest) e.children)

/-- The tree without the entry at a location. -/
def erase : Entry → List String → Entry
  | e, [] => e
  | e, [name] =>
    match e with
    | file content => file content
    | folder children => folder (children.filter fun child => child.1 ≠ name)
  | e, name :: next :: rest =>
    match e.children.lookup name with
    | none => e
    | some child => folder (setChild name (child.erase (next :: rest)) e.children)

end Entry

/-- A list of names from the root of the disk. -/
abbrev Location := List String

/-- The tree of files and folders under the root. -/
structure Disk where
  root : Entry

namespace Disk

def empty : Disk := ⟨.folder []⟩

def at? (d : Disk) (loc : Location) : Option Entry := d.root.at? loc

def put (d : Disk) (loc : Location) (e : Entry) : Disk := ⟨Entry.put e d.root loc⟩

def erase (d : Disk) (loc : Location) : Disk := ⟨d.root.erase loc⟩

/-! ## Following a path -/

/-- The longest name that a folder can hold, in bytes. -/
def longestName : Nat := 255

/-- The longest path that the operating system takes, in bytes. -/
def longestPath : Nat := 4095

end Disk

/-- Where a walk through the tree stands: at an entry, below the folders that it has gone
through, the nearest first, each with the name that led on from there. -/
structure Spot where
  entry : Entry
  above : List (String × Entry) := []

namespace Spot

/-- The names from where the tree starts to the spot. -/
def location (s : Spot) : Location := (s.above.map (·.1)).reverse

/-- The spot above; nothing is above the root but the root itself. -/
def up (s : Spot) : Spot :=
  match s.above with
  | [] => s
  | (_, e) :: above => ⟨e, above⟩

/-- The entries in the folder that a spot is at. -/
def children (s : Spot) : Except ErrorCode (List (String × Entry)) :=
  match s.entry with
  | .folder children => .ok children
  | .file _ => .error .notFolder

/-- The entry of that name in the folder that a spot is at, if there is one. -/
def child? (s : Spot) (name : String) : Except ErrorCode (Option Entry) := do
  let children ← s.children
  if Disk.longestName < name.utf8ByteSize then .error .nameTooLong
  else .ok (children.lookup name)

/-- The spot that the parts lead to, two dots leading up. -/
def follow (s : Spot) : List String → Except ErrorCode Spot
  | [] => .ok s
  | ".." :: rest => do
    let _ ← s.children
    s.up.follow rest
  | name :: rest => do
    match ← s.child? name with
    | some e => Spot.follow ⟨e, (name, s.entry) :: s.above⟩ rest
    | none => .error .noEntry

end Spot

namespace Disk

/-- Where a path starts when the current folder is at `cwd`. A path that is too long starts
nowhere. -/
def start (d : Disk) (cwd : Location) (p : Path) : Except ErrorCode Spot :=
  if longestPath < p.text.utf8ByteSize then .error .nameTooLong
  else Spot.follow ⟨d.root, []⟩ (if p.isAbsolute then [] else cwd)

/-- The spot that a path leads to. -/
def spot (d : Disk) (cwd : Location) (p : Path) : Except ErrorCode Spot := do
  (← d.start cwd p).follow p.parts

/-- The entry that a path leads to. -/
def find (d : Disk) (cwd : Location) (p : Path) : Except ErrorCode Entry := do
  return (← d.spot cwd p).entry

/-- The entry that a path leads to. That nothing is there is an answer; any other reason
for not getting there is a refusal. -/
def find? (d : Disk) (cwd : Location) (p : Path) : Except ErrorCode (Option Entry) :=
  match d.find cwd p with
  | .ok e => .ok (some e)
  | .error code => if code = .noEntry ∨ code = .notFolder then .ok none else .error code

/-- What the last part of a path names: a place in a folder, or a folder that is reached
without a name of its own. -/
inductive Place where
  | named (folder : Location) (name : String) (entry : Option Entry)
  | unnamed

/-- The place that a path names; all parts but the last one have to be there. -/
def place (d : Disk) (cwd : Location) (p : Path) : Except ErrorCode Place := do
  let start ← d.start cwd p
  match p.name? with
  | none => .ok .unnamed
  | some name =>
    let folder ← start.follow p.parts.dropLast
    if name = ".." then
      let _ ← folder.children
      .ok .unnamed
    else
      .ok (.named folder.location name (← folder.child? name))

/-! ## Operations -/

def isFile (d : Disk) (cwd : Location) (p : Path) : Except ErrorCode Bool := do
  return ((← d.find? cwd p).map Entry.isFile).getD false

def isFolder (d : Disk) (cwd : Location) (p : Path) : Except ErrorCode Bool := do
  return ((← d.find? cwd p).map Entry.isFolder).getD false

def isPresent (d : Disk) (cwd : Location) (p : Path) : Except ErrorCode Bool := do
  return (← d.find? cwd p).isSome

/-- The content of a file. -/
def read (d : Disk) (cwd : Location) (p : Path) : Except ErrorCode ByteArray := do
  match ← d.find cwd p with
  | .file content => .ok content
  | .folder _ => .error .isFolder

/-- The entries in a folder, by their names. -/
def list (d : Disk) (cwd : Location) (p : Path) : Except ErrorCode (List (String × Entry)) := do
  match ← d.find cwd p with
  | .folder children => .ok children
  | .file _ => .error .notFolder

/-- Writes a file into a folder that is there. -/
def write (d : Disk) (cwd : Location) (p : Path) (content : ByteArray) :
    Except ErrorCode Disk := do
  match ← d.place cwd p with
  | .unnamed => .error .isFolder
  | .named _ _ (some (.folder _)) => .error .isFolder
  | .named folder name _ => .ok (d.put (folder ++ [name]) (.file content))

/-- Makes a folder in a folder that is there. -/
def makeFolder (d : Disk) (cwd : Location) (p : Path) : Except ErrorCode Disk := do
  match ← d.place cwd p with
  | .named folder name none => .ok (d.put (folder ++ [name]) (.folder []))
  | _ => .error .alreadyExists

/-- Makes a folder unless it is there already. -/
def ensureFolder (d : Disk) (cwd : Location) (p : Path) : Except ErrorCode Disk :=
  match d.makeFolder cwd p with
  | .ok d' => .ok d'
  | .error code =>
    if code = .noEntry then .error code
    else do if ← d.isFolder cwd p then .ok d else .error code

/-- Makes a folder and the folders above it that are missing, the upper ones first. The
folders made before a refusal stay. -/
def ensureFolders (d : Disk) (cwd : Location) (p : Path) : Disk × Except ErrorCode Unit :=
  match d.ensureFolder cwd p with
  | .ok d' => (d', .ok ())
  | .error code =>
    if code = .noEntry ∧ p.parts ≠ [] then
      match d.ensureFolders cwd p.parent with
      | (d', .ok ()) =>
        match d'.ensureFolder cwd p with
        | .ok d'' => (d'', .ok ())
        | .error code => (d', .error code)
      | (d', .error code) => (d', .error code)
    else (d, .error code)
termination_by p.parts.length
decreasing_by
  have := List.length_pos_iff.2 (by simp_all : p.parts ≠ [])
  simp [Path.parent]
  omega

/-- Removes a file. -/
def unlink (d : Disk) (cwd : Location) (p : Path) : Except ErrorCode Disk := do
  match ← d.place cwd p with
  | .unnamed => .error .isFolder
  | .named _ _ none => .error .noEntry
  | .named _ _ (some (.folder _)) => .error .isFolder
  | .named folder name (some (.file _)) => .ok (d.erase (folder ++ [name]))

/-- Whether an entry may take the place of another one. -/
def mayReplace : Entry → Option Entry → Except ErrorCode Unit
  | _, none => .ok ()
  | .file _, some (.file _) => .ok ()
  | .file _, some (.folder _) => .error .isFolder
  | .folder _, some (.file _) => .error .notFolder
  | .folder _, some (.folder []) => .ok ()
  | .folder _, some (.folder (_ :: _)) => .error .notEmpty

/-- Moves the entry at `p` to `q`, in the place of what is there. -/
def rename (d : Disk) (cwd : Location) (p q : Path) : Except ErrorCode Disk := do
  match ← d.place cwd p, ← d.place cwd q with
  | .named folder name entry, .named folder' name' old =>
    match entry with
    | none => .error .noEntry
    | some e =>
      if folder ++ [name] = folder' ++ [name'] then .ok d
      else if (folder ++ [name]).isPrefixOf (folder' ++ [name']) then .error .invalid
      else if (folder' ++ [name']).isPrefixOf (folder ++ [name]) then .error .notEmpty
      else do
        mayReplace e old
        .ok ((d.erase (folder ++ [name])).put (folder' ++ [name']) e)
  | _, _ => .error .busy

end Disk

end CrossBuild
