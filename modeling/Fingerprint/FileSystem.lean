import Fingerprint.Path

/-!
# Files

A file system in memory: a tree of directories, files and two devices, one
that swallows what is written to it and one that is always full. The bytes of
a file are kept apart from its name, so that a file that is open can still be
written to after it was renamed or removed.

A path ends before its first zero byte. It is resolved name by name, starting
from the working directory or the root. Every name on the way has to be a
directory; `.` stays and `..` goes up.

* `FileSystem.status`: what a path leads to;
* `FileSystem.createDirectories`: a directory with all that lead to it;
* `FileSystem.rename`, `removeAll`;
* `FileSystem.openAppend`, `append`: writing at the end of a file.
-/

namespace Fingerprint

/-- Why the file system refuses something. -/
inductive Errno where
  | noEntry
  | denied
  | busy
  | exists
  | notDirectory
  | isDirectory
  | invalid
  | noSpace
  | readOnly
  | nameTooLong
  | notEmpty
  deriving DecidableEq, Repr

namespace Errno

/-- The number of an error. -/
def number : Errno → Int
  | noEntry => 2
  | denied => 13
  | busy => 16
  | «exists» => 17
  | notDirectory => 20
  | isDirectory => 21
  | invalid => 22
  | noSpace => 28
  | readOnly => 30
  | nameTooLong => 36
  | notEmpty => 39

/-- The text of an error. -/
def message : Errno → Bytes
  | noEntry => "No such file or directory"
  | denied => "Permission denied"
  | busy => "Device or resource busy"
  | «exists» => "File exists"
  | notDirectory => "Not a directory"
  | isDirectory => "Is a directory"
  | invalid => "Invalid argument"
  | noSpace => "No space left on device"
  | readOnly => "Read-only file system"
  | nameTooLong => "File name too long"
  | notEmpty => "Directory not empty"

end Errno

/-- What a path leads to. -/
inductive FileStatus where
  | absent
  | regular (size : Nat)
  | directory
  | special
  deriving DecidableEq, Repr

namespace FileStatus

/-- Whether there is something at the path. -/
def present : FileStatus → Bool
  | absent => false
  | _ => true

end FileStatus

/-- The devices. -/
inductive Device where
  /-- Swallows what is written to it. -/
  | null
  /-- Has no room for anything. -/
  | full
  deriving DecidableEq, Repr

/-- What a name in the tree stands for. -/
inductive Node where
  | directory
  /-- A file, whose bytes are kept under the number. -/
  | file (number : Nat)
  | device (device : Device)
  deriving DecidableEq, Repr

/-- The names that lead from the root to a node. -/
abbrev Place := List Bytes

/-- A tree of directories and the bytes of its files. -/
structure FileSystem where
  /-- All places below the root that hold something. -/
  nodes : List (Place × Node)
  /-- The bytes of files by their numbers. -/
  contents : List (Nat × Bytes) := []
  nextNumber : Nat := 0
  /-- Where paths that are not absolute start. -/
  workingDirectory : Place

namespace FileSystem

/-- A file system with an empty working directory and the devices. -/
def fresh : FileSystem where
  nodes :=
    [([Bytes.ofString "dev"], .directory), ([Bytes.ofString "dev", Bytes.ofString "null"], .device .null),
     ([Bytes.ofString "dev", Bytes.ofString "full"], .device .full), ([Bytes.ofString "work"], .directory)]
  workingDirectory := [Bytes.ofString "work"]

/-- The longest name there may be. -/
def maxName : Nat := 255

/-- The length that a path has to stay below. -/
def maxPath : Nat := 4096

/-- How many directories may be missing for one to be made with all that lead to it. -/
def maxMissing : Nat := 1000

/-- The node at a place. -/
def node? (fs : FileSystem) (place : Place) : Option Node :=
  if place.isEmpty then some .directory else fs.nodes.lookup place

/-- The bytes of the file with a number. -/
def bytes (fs : FileSystem) (number : Nat) : Bytes := (fs.contents.lookup number).getD []

/-- Puts a node at a place, in the stead of what was there. -/
def setNode (fs : FileSystem) (place : Place) (node : Node) : FileSystem :=
  { fs with nodes := fs.nodes.filter (·.1 != place) ++ [(place, node)] }

/-- Gives a file its bytes. -/
def setBytes (fs : FileSystem) (number : Nat) (bytes : Bytes) : FileSystem :=
  { fs with contents := (number, bytes) :: fs.contents.filter (·.1 != number) }

/-! ## Resolving paths -/

/-- The place that a name leads to from a directory. -/
def step (fs : FileSystem) (place : Place) (name : Bytes) : Except Errno Place :=
  if fs.node? place != some .directory then .error .notDirectory
  else if name = Bytes.ofString "." then .ok place
  else if name = Bytes.ofString ".." then .ok place.dropLast
  else if maxName < name.length then .error .nameTooLong
  else .ok (place ++ [name])

/-- The place that names lead to, which has to hold something. -/
def walk (fs : FileSystem) : Place → List Bytes → Except Errno Place
  | place, [] => .ok place
  | place, name :: rest =>
    match fs.step place name with
    | .error errno => .error errno
    | .ok next => if (fs.node? next).isNone then .error .noEntry else fs.walk next rest

/-- Where a path starts. -/
def start (fs : FileSystem) (path : Bytes) : Place :=
  if Path.isAbsolute path then [] else fs.workingDirectory

/-- Whether a path ends with a slash, which only a directory may. -/
def endsAsDirectory (path : Bytes) : Bool := path.untilZero.getLast? == some Path.slash

/-- What is read of a path: its bytes before the first zero byte. It is refused as a
    whole if they are none or too many. -/
def readPath (path : Bytes) : Except Errno Bytes :=
  let path := path.untilZero
  if path.isEmpty then .error .noEntry
  else if maxPath ≤ path.length then .error .nameTooLong
  else .ok path

/-- The place of a path that leads to something. -/
def resolve (fs : FileSystem) (path : Bytes) : Except Errno Place := do
  let path ← readPath path
  let names := Path.names path
  fs.walk (fs.start path) (if endsAsDirectory path then names ++ [Bytes.ofString "."] else names)

/-- The directory in which a path has its last name, and that name. -/
def locate (fs : FileSystem) (path : Bytes) : Except Errno (Place × Bytes) := do
  let path ← readPath path
  let names := Path.names path
  match names.getLast? with
  | none => .error .exists
  | some name => do
    let directory ← fs.walk (fs.start path) names.dropLast
    if fs.node? directory != some .directory then .error .notDirectory else .ok (directory, name)

/-- What is at a path. A path on which something is missing leads to nothing. -/
def status (fs : FileSystem) (path : Bytes) : Except Errno FileStatus :=
  match fs.resolve path with
  | .error .noEntry | .error .notDirectory => .ok .absent
  | .error errno => .error errno
  | .ok place =>
    match fs.node? place with
    | some .directory => .ok .directory
    | some (.file number) => .ok (.regular (fs.bytes number).length)
    | some (.device _) => .ok .special
    | none => .ok .absent

/-- Whether a path leads to a directory. -/
def isDirectory (fs : FileSystem) (path : Bytes) : Bool := fs.status path matches .ok .directory

/-! ## Directories -/

/-- Makes a directory at a path whose parent is there. One that is there already will do. -/
def createDirectory (fs : FileSystem) (path : Bytes) : FileSystem × Option Errno :=
  match fs.locate path with
  | .error errno => (fs, if errno = .exists && fs.isDirectory path then none else some errno)
  | .ok (directory, name) =>
    match fs.step directory name with
    | .error errno => (fs, some errno)
    | .ok place =>
      if (fs.node? place).isSome then (fs, if fs.isDirectory path then none else some .exists)
      else (fs.setNode place .directory, none)

/-- Makes the directories of a list in order, until one is refused. -/
def createEach (fs : FileSystem) : List Bytes → FileSystem × Option Errno
  | [] => (fs, none)
  | path :: rest =>
    match fs.createDirectory path with
    | (fs, none) => fs.createEach rest
    | (fs, some errno) => (fs, some errno)

/-- The directories that are missing for `path` to be one, outermost first, in front of
    those in `found`. Names `.` and `..` are passed over. The search ends at the
    first parent that is there, or when too many are missing, and `fuel` is at least
    the length of the path. -/
def missing (fs : FileSystem) : (fuel : Nat) → (path : Bytes) → (found : List Bytes) →
    Except Errno (List Bytes)
  | 0, _, found => .ok found
  | fuel + 1, path, found =>
    let name := Path.filename path
    let passed := name = Bytes.ofString "." || name = Bytes.ofString ".."
    let found := if passed then found else path :: found
    let parent := Path.parent path
    if maxMissing < found.length then .error .nameTooLong
    else if parent.isEmpty then .ok found
    else
      match fs.status parent with
      | .error errno => .error errno
      | .ok .directory => .ok found
      | .ok .absent => fs.missing fuel parent found
      | .ok _ => .error .notDirectory

/-- Makes a directory at a path, with all directories that lead to it. -/
def createDirectories (fs : FileSystem) (path : Bytes) : FileSystem × Option Errno :=
  if path.isEmpty then (fs, some .invalid)
  else
    match fs.status path with
    | .error errno => (fs, some errno)
    | .ok .directory => (fs, none)
    | .ok .absent =>
      let path := if (Path.filename path).isEmpty then Path.parent path else path
      match fs.missing path.length path [] with
      | .error errno => (fs, some errno)
      | .ok found => fs.createEach found
    | .ok _ => (fs, some .notDirectory)

/-- Makes a directory at a path where there is nothing. What is there already will do,
    whatever it is. -/
def provideDirectory (fs : FileSystem) (path : Bytes) : FileSystem × Option Errno :=
  match fs.status path with
  | .ok .absent | .error _ => fs.createDirectories path
  | .ok _ => (fs, none)

/-! ## Renaming and removing -/

/-- Takes everything at and below a place out of the tree. -/
def detach (fs : FileSystem) (place : Place) : FileSystem :=
  { fs with nodes := fs.nodes.filter fun entry => !place.isPrefixOf entry.1 }

/-- Moves everything at and below `source` to `target`. -/
def relocate (fs : FileSystem) (source target : Place) : FileSystem :=
  { fs with
    nodes := fs.nodes.map fun entry =>
      if source.isPrefixOf entry.1 then (target ++ entry.1.drop source.length, entry.2) else entry }

/-- Whether there is something below a place. -/
def occupied (fs : FileSystem) (place : Place) : Bool :=
  fs.nodes.any fun entry => place.isPrefixOf entry.1 && entry.1 != place

/-- Renames what is at one path to another. A file takes the place of a file, a
    directory that of an empty directory. -/
def rename (fs : FileSystem) (source target : Bytes) : FileSystem × Option Errno :=
  let moved : Except Errno FileSystem := do
    let (sourceDirectory, sourceName) ← fs.locate source
    let (targetDirectory, targetName) ← fs.locate target
    let special := fun name => name = Bytes.ofString "." || name = Bytes.ofString ".."
    if special sourceName || special targetName then .error .busy
    let old ← fs.step sourceDirectory sourceName
    let some kind := fs.node? old | .error .noEntry
    let new ← fs.step targetDirectory targetName
    if kind != .directory && (endsAsDirectory source || endsAsDirectory target) then .error .notDirectory
    if old = new then return fs
    if old.isPrefixOf new then .error .invalid
    match fs.node? new with
    | none => return fs.relocate old new
    | some .directory =>
      if kind != .directory then .error .isDirectory
      else if fs.occupied new then .error .notEmpty
      else return (fs.detach new).relocate old new
    | some _ =>
      if kind = .directory then .error .notDirectory
      else return (fs.detach new).relocate old new
  match moved with
  | .ok fs => (fs, none)
  | .error errno => (fs, some errno)

/-- Takes everything below a place out of the tree, but not the place itself. -/
def clear (fs : FileSystem) (place : Place) : FileSystem :=
  { fs with nodes := fs.nodes.filter fun entry => !(place.isPrefixOf entry.1 && entry.1 != place) }

/-- Whether the last name of a path says where a directory is and not what it is called. -/
def endsUnnamed (path : Bytes) : Bool :=
  match (Path.names path.untilZero).getLast? with
  | none => true
  | some name => name = Bytes.ofString "." || name = Bytes.ofString ".."

/-- Removes what is at a path with all that is below it. A directory that the path does
    not end with the name of is only cleared. -/
def removeAll (fs : FileSystem) (path : Bytes) : FileSystem :=
  match fs.resolve path with
  | .ok place => if endsUnnamed path then fs.clear place else fs.detach place
  | .error _ => fs

/-! ## Writing -/

/-- What an open file is written through. -/
inductive Stream where
  | file (number : Nat)
  | device (device : Device)
  deriving DecidableEq, Repr

/-- Opens the file at a path for writing, and makes an empty one if there is none. -/
def openFile (fs : FileSystem) (path : Bytes) : FileSystem × Option Stream :=
  match fs.locate path with
  | .error _ => (fs, none)
  | .ok (directory, name) =>
    match fs.step directory name with
    | .error _ => (fs, none)
    | .ok place =>
      match fs.node? place with
      | some .directory => (fs, none)
      | some (.file number) => (fs, if endsAsDirectory path then none else some (.file number))
      | some (.device device) => (fs, if endsAsDirectory path then none else some (.device device))
      | none =>
        if endsAsDirectory path then (fs, none)
        else
          ({ (fs.setNode place (.file fs.nextNumber)) with nextNumber := fs.nextNumber + 1 },
            some (.file fs.nextNumber))

/-- Writes at the end of an open file. Fails without a trace where there is no room. -/
def append (fs : FileSystem) (stream : Stream) (line : Bytes) : FileSystem × Bool :=
  match stream with
  | .file number => (fs.setBytes number (fs.bytes number ++ line), true)
  | .device .null => (fs, true)
  | .device .full => (fs, false)

/-- Puts a file with the given bytes at a path, in the stead of the bytes there. -/
def write (fs : FileSystem) (path : Bytes) (bytes : Bytes) : FileSystem :=
  match fs.openFile path with
  | (fs, some (.file number)) => fs.setBytes number bytes
  | (fs, _) => fs

/-! ## Listing -/

/-- All that is below the working directory: the path from there, and the bytes of a
    file. -/
def listing (fs : FileSystem) : List (Bytes × Option Bytes) :=
  fs.nodes.filterMap fun (place, node) =>
    if fs.workingDirectory.isPrefixOf place && place != fs.workingDirectory then
      let path := Bytes.joinWith [Path.slash] (place.drop fs.workingDirectory.length)
      match node with
      | .file number => some (path, some (fs.bytes number))
      | _ => some (path, none)
    else none

end FileSystem

end Fingerprint
