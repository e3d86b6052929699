import Tftp.Errno
import Tftp.Text.Utf8

/-!
# Volumes

A store root as a tree of directories and regular files, with file contents held by inode.

Paths are resolved as POSIX does, relative to the root: components are separated by `/`, empty
components and `.` stay where they are, and `..` goes up one directory, from the root to the
directories above it, which are known to exist but whose other contents are not; an absolute
path starts at the system root, of which likewise only what the volume made there is known.
Every component but the last must name a directory (`ENOENT` when it is missing, `ENOTDIR` when
it is a file), a name longer than the 255 bytes a directory entry holds is refused when it is
looked up (`ENAMETOOLONG`), and a trailing slash asks for a directory. A path holding a NUL byte
cannot be passed to the system at all, and one that, joined to the root's path, fills the
4096 bytes the system takes for a path and its terminating NUL is refused before any component
is looked at (`ENAMETOOLONG`).

Open files follow POSIX: an open file refers to an inode, not to a name, so it keeps reading and
writing the same bytes after its name is removed or replaced; it has its own position; a file
opened read-only refuses writes and one opened write-only refuses reads (`EBADF`); and a
directory can be opened for reading, but reading it fails with `EISDIR`.
-/

namespace Tftp

/-- What a location holds. -/
inductive Entry where
  | file (inode : Nat)
  | directory
  deriving DecidableEq, Repr, Inhabited

/-- A place in the tree: the names walked from the root, with `..` for each step above it, or
from the system root `/` for an absolute path. -/
abbrev Location := List String

/-- A store root: the files and directories at their locations, the contents of every inode
ever created, and the length in bytes of the root's own path, which a relative path is joined to.
The root and the directories above it are not listed. -/
structure Volume where
  entries : List (Location × Entry) := []
  contents : Array (List UInt8) := #[]
  rootLength : Nat := 0
  deriving Inhabited

/-- How a file was opened. -/
inductive Access where
  | readOnly
  | writeOnly
  deriving DecidableEq, Repr, Inhabited

/-- What an open file refers to. -/
inductive Target where
  | inode (n : Nat)
  | directory
  deriving DecidableEq, Repr, Inhabited

/-- An open file: its target, how it was opened and its position. -/
structure OpenFile where
  target : Target
  access : Access
  pos : Nat := 0
  deriving DecidableEq, Repr, Inhabited

/-- The bytes of `data` written at `pos` over `content`; a gap is filled with zero bytes. -/
def overwrite (content : List UInt8) (pos : Nat) (data : List UInt8) : List UInt8 :=
  content.take pos ++ List.replicate (pos - content.length) 0 ++ data ++
    content.drop (pos + data.length)

namespace Location

/-- The system root, where an absolute path starts. -/
def system : Location := ["/"]

/-- Whether a location is a directory that exists without an entry of the volume: the root, a
directory above it, or the system root. -/
def isBase (loc : Location) : Bool := loc == system || loc.all (· == "..")

/-- Where a component that is `.`, `..` or empty leads from a directory; `..` of the system root
is the system root itself. -/
def step (dir : Location) (c : String) : Location :=
  if c == ".." then
    if dir == system then dir
    else if dir.all (· == "..") then dir ++ [".."]
    else dir.dropLast
  else dir

end Location

/-- Whether a component moves within the tree instead of naming an entry. -/
def isDots (c : String) : Bool := c == "" || c == "." || c == ".."

/-- The components of a path, without the empty ones a trailing slash leaves, and whether it
ended in a slash. The empty path is the root with a slash after it. -/
def splitPath (path : String) : List String × Bool :=
  let parts := (path.toList.splitOn '/').map String.ofList
  let kept := (parts.reverse.dropWhile (· == "")).reverse
  (kept, kept.length < parts.length)

/-- How a path ends: at a directory reached by `.`, `..` or as the root, or at a name in a
directory, given by its location. -/
inductive Last where
  | dots (dir : Location)
  | name (loc : Location)
  deriving DecidableEq, Repr

namespace Volume

/-- The longest name a directory entry holds, in bytes. -/
def nameMax : Nat := 255

/-- The room the system has for a path, in bytes, its terminating NUL included. -/
def pathMax : Nat := 4096

/-- The length in bytes of a path as given to the system: joined to the root's path with a `/`,
unless it is absolute. -/
def fullLength (v : Volume) (path : String) : Nat :=
  if path.startsWith "/" then Utf8.byteLength path else v.rootLength + 1 + Utf8.byteLength path

/-- What a location holds, looking its last name up in its directory. -/
def find (v : Volume) (loc : Location) : Except Errno (Option Entry) :=
  if loc.isBase then .ok (some .directory)
  else if loc.getLast?.any (Utf8.byteLength · > nameMax) then .error .nameTooLong
  else .ok (v.entries.lookup loc)

/-- Walks components that must each lead to a directory, from `dir`. -/
def walk (v : Volume) (dir : Location) : List String → Except Errno Location
  | [] => .ok dir
  | c :: rest =>
    if isDots c then v.walk (dir.step c) rest
    else match v.find (dir ++ [c]) with
      | .error e => .error e
      | .ok (some .directory) => v.walk (dir ++ [c]) rest
      | .ok (some (.file _)) => .error .notDirectory
      | .ok none => .error .noEntry

/-- Resolves a path up to its last component, and whether it ended in a slash. -/
def resolve (v : Volume) (path : String) : Except Errno (Last × Bool) := do
  if path.contains '\x00' then throw .nulInPath
  if v.fullLength path ≥ pathMax then throw .nameTooLong
  let start := if path.startsWith "/" then Location.system else []
  let (cs, slash) := splitPath path
  match cs.getLast? with
  | none => return (.dots start, slash)
  | some last =>
    let dir ← v.walk start cs.dropLast
    if isDots last then return (.dots (dir.step last), slash)
    else return (.name (dir ++ [last]), slash)

/-- Whether a path leads to something that exists. -/
def contains (v : Volume) (path : String) : Bool :=
  match v.resolve path with
  | .ok (.dots _, _) => true
  | .ok (.name loc, slash) =>
    match v.find loc with
    | .ok (some .directory) => true
    | .ok (some (.file _)) => !slash
    | _ => false
  | .error _ => false

/-- The entries with `loc` bound to `e`, replacing an earlier binding in place. -/
def bind (entries : List (Location × Entry)) (loc : Location) (e : Entry) :
    List (Location × Entry) :=
  if entries.any (·.1 == loc) then entries.map fun p => if p.1 == loc then (loc, e) else p
  else entries ++ [(loc, e)]

/-- The contents of an inode. -/
def content (v : Volume) (n : Nat) : List UInt8 := v.contents.getD n []

/-- A new inode holding `data`, and its number. -/
def allocate (v : Volume) (data : List UInt8) : Volume × Nat :=
  ({ v with contents := v.contents.push data }, v.contents.size)

/-- Replaces the contents of an inode. -/
def setContent (v : Volume) (n : Nat) (data : List UInt8) : Volume :=
  { v with contents := v.contents.set! n data }

/-- Opens a path for reading. -/
def openRead (v : Volume) (path : String) : Except Errno OpenFile := do
  match ← v.resolve path with
  | (.dots _, _) => return { target := .directory, access := .readOnly }
  | (.name loc, slash) =>
    match ← v.find loc with
    | none => throw .noEntry
    | some (.file n) =>
      if slash then throw .notDirectory else return { target := .inode n, access := .readOnly }
    | some .directory => return { target := .directory, access := .readOnly }

/-- Opens a path for writing, creating the file if absent and emptying it if present; a path
ending in a slash or at a directory cannot be a file. -/
def create (v : Volume) (path : String) : Except Errno (Volume × OpenFile) := do
  match ← v.resolve path with
  | (.dots _, _) | (.name _, true) => throw .isDirectory
  | (.name loc, false) =>
    match ← v.find loc with
    | some .directory => throw .isDirectory
    | some (.file n) => return (v.setContent n [], { target := .inode n, access := .writeOnly })
    | none =>
      let (v, n) := v.allocate []
      return ({ v with entries := bind v.entries loc (.file n) },
        { target := .inode n, access := .writeOnly })

/-- Reads up to `limit` bytes from the position of an open file. -/
def readUpTo (v : Volume) (f : OpenFile) (limit : Nat) : Except Errno (OpenFile × List UInt8) :=
  match f.access, f.target with
  | .writeOnly, _ => .error .badDescriptor
  | .readOnly, .directory => .error .isDirectory
  | .readOnly, .inode n =>
    let chunk := ((v.content n).drop f.pos).take limit
    .ok ({ f with pos := f.pos + chunk.length }, chunk)

/-- Reads from the position of an open file to the end. -/
def readToEnd (v : Volume) (f : OpenFile) : Except Errno (OpenFile × List UInt8) :=
  match f.access, f.target with
  | .writeOnly, _ => .error .badDescriptor
  | .readOnly, .directory => .error .isDirectory
  | .readOnly, .inode n =>
    let rest := (v.content n).drop f.pos
    .ok ({ f with pos := f.pos + rest.length }, rest)

/-- Writes bytes at the position of an open file. -/
def write (v : Volume) (f : OpenFile) (data : List UInt8) : Except Errno (Volume × OpenFile) :=
  match f.access, f.target with
  | .readOnly, _ => .error .badDescriptor
  | .writeOnly, .directory => .error .isDirectory
  | .writeOnly, .inode n =>
    .ok (v.setContent n (overwrite (v.content n) f.pos data), { f with pos := f.pos + data.length })

/-- Removes a path that is not a directory; open files keep its inode. -/
def removeFile (v : Volume) (path : String) : Except Errno Volume := do
  match ← v.resolve path with
  | (.dots _, _) => throw .isDirectory
  | (.name loc, slash) =>
    match ← v.find loc with
    | none => throw .noEntry
    | some .directory => throw .isDirectory
    | some (.file _) =>
      if slash then throw .notDirectory
      else return { v with entries := v.entries.filter (·.1 != loc) }

/-- Creates an empty directory. -/
def makeDirectory (v : Volume) (path : String) : Except Errno Volume := do
  match ← v.resolve path with
  | (.dots _, _) => throw .alreadyExists
  | (.name loc, _) =>
    match ← v.find loc with
    | some _ => throw .alreadyExists
    | none => return { v with entries := bind v.entries loc .directory }

/-- Creates a directory and the directories above it that are missing. -/
def makeDirectories (v : Volume) (path : String) : Volume :=
  let (cs, _) := splitPath path
  (List.range cs.length).foldl (fun v i =>
    (v.makeDirectory ("/".intercalate (cs.take (i + 1)))).toOption.getD v) v

/-- The whole contents of the file at a path. -/
def readFile (v : Volume) (path : String) : Except Errno (List UInt8) := do
  let f ← v.openRead path
  let (_, data) ← v.readToEnd f
  return data

/-- Replaces the contents of the file at a path, creating it if absent. -/
def writeFile (v : Volume) (path : String) (data : List UInt8) : Except Errno Volume := do
  let (v, f) ← v.create path
  let (v, _) ← v.write f data
  return v

/-- A volume whose root's path is `rootLength` bytes long, holding the given files, then the given
directories with those above them. -/
def ofFixtures (rootLength : Nat) (files : List (String × List UInt8)) (dirs : List String) :
    Volume :=
  let v := files.foldl (fun v (path, data) => (v.writeFile path data).toOption.getD v)
    { rootLength }
  dirs.foldl makeDirectories v

/-- Every entry of the root with its contents, `none` for a directory, sorted by name. -/
def listing (v : Volume) : List (String × Option (List UInt8)) :=
  (v.entries.filterMap fun (loc, e) =>
    match loc, e with
    | [name], .file n => some (name, some (v.content n))
    | [name], .directory => some (name, none)
    | _, _ => none).mergeSort fun a b => a.1 ≤ b.1

end Volume

end Tftp
