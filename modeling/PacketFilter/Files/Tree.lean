import PacketFilter.Files.Store

/-!
# Directory trees

Rules, templates, logs and settings live in a directory tree. It is a list of entries, each under
its location: the names on the way down from the root. What a path means depends on the tree, and
`locate` says how: relative paths start from the working directory, every name is looked for in a
directory that must exist, `.` and an empty name stay where they are and `..` goes up. Two
spellings of a path are the same file exactly if they lead to the same location.

Operations fail for the reasons an operating system gives. There are no links and no permissions.
-/

namespace PacketFilter

/-- The names on the way from the root. -/
abbrev Location := List Text

/-- What a location can hold. -/
inductive Entry where
  | file (content : Bytes)
  | directory
  deriving DecidableEq, Repr

namespace Location

/-- Order name by name, a directory before what it holds. -/
def compare : Location → Location → Ordering
  | [], [] => .eq
  | [], _ :: _ => .lt
  | _ :: _, [] => .gt
  | a :: as, b :: bs => (Text.compare a b).then (compare as bs)

end Location

/-- A directory tree with a working directory. The root is a directory of every tree. -/
structure Tree where
  /-- Where relative paths start. -/
  working : Location := []
  entries : List (Location × Entry) := []
  deriving DecidableEq, Repr

namespace Tree

/-- What a location holds. -/
def entry? (t : Tree) (l : Location) : Option Entry :=
  if l = [] then some .directory else Sorted.find? Location.compare l t.entries

/-! ## Paths -/

/-- The longest file name, in bytes. -/
def longestName : Nat := 255

/-- The length, in bytes, from which a path is too long. -/
def tooLong : Nat := 4096

/-- One step of a path from a location, which has to be a directory. -/
def step (t : Tree) (l : Location) (name : Text) : Except FileError Location :=
  match t.entry? l with
  | none => .error .notFound
  | some (.file _) => .error .notDirectory
  | some .directory =>
    if name = [] ∨ name = ['.'] then .ok l
    else if name = ['.', '.'] then .ok l.dropLast
    else if longestName < Utf8.size name then .error .nameTooLong
    else .ok (l ++ [name])

/-- The location a path leads to. Only its last name may be missing from the tree. -/
def locate (t : Tree) (p : Path) : Except FileError Location :=
  if '\x00' ∈ p then .error .nulInPath
  else if p = [] then .error .notFound
  else if tooLong ≤ Utf8.size p then .error .nameTooLong
  else (Text.splitBy (· = '/') p).foldlM (step t) (if Path.isAbsolute p then [] else t.working)

/-- The location that a path names, read from left to right without looking at any file. It is the
one that the path leads to, if it leads anywhere. -/
def nominal (t : Tree) (p : Path) : Location :=
  (Path.names p).foldl (fun l name ↦ if name = ['.', '.'] then l.dropLast else l ++ [name])
    (if Path.isAbsolute p then [] else t.working)

/-- What a path leads to, if it leads to anything. -/
def at? (t : Tree) (p : Path) : Option Entry :=
  match t.locate p with
  | .ok l => t.entry? l
  | .error _ => none

def isFile (t : Tree) (p : Path) : Bool :=
  match t.at? p with
  | some (.file _) => true
  | _ => false

def isDirectory (t : Tree) (p : Path) : Bool := t.at? p = some .directory

/-- Whether a path leads to anything. -/
def present (t : Tree) (p : Path) : Bool := (t.at? p).isSome

/-! ## Reading -/

def read (t : Tree) (p : Path) : Except FileError Bytes := do
  match t.entry? (← t.locate p) with
  | some (.file content) => .ok content
  | some .directory => .error .isDirectory
  | none => .error .notFound

/-- The text of a file, which has to be UTF-8 as a whole. -/
def readText (t : Tree) (p : Path) : Except FileError Text := do
  match Utf8.decode? (← t.read p) with
  | some text => .ok text
  | none => .error .notUtf8

/-- The text of a file, a failure naming the path. -/
def load (t : Tree) (p : Path) : Except Error Text := (t.readText p).mapError (.file p)

/-- The name of a location directly inside `dir`. -/
def nameIn? (dir l : Location) : Option Text :=
  if l.dropLast = dir then l.getLast? else none

/-- The names in a directory, in order, and what they are. -/
def list (t : Tree) (p : Path) : Except FileError (List (Text × Entry)) := do
  let dir ← t.locate p
  match t.entry? dir with
  | some .directory =>
    .ok (t.entries.filterMap fun (l, e) ↦ (nameIn? dir l).map fun name ↦ (name, e))
  | some (.file _) => .error .notDirectory
  | none => .error .notFound

/-- The names of the files in a directory, in order. A file that its path does not lead to, because
it is too long, is left out. -/
def fileNames (t : Tree) (p : Path) : Except Error (List Text) :=
  match t.list p with
  | .ok found => .ok ((found.map Prod.fst).filter fun name ↦ t.isFile (p.join name))
  | .error cause => .error (.file p cause)

/-! ## Changing -/

/-- The tree with an entry put at a location. -/
def put (t : Tree) (l : Location) (e : Entry) : Tree :=
  { t with entries := Sorted.insert Location.compare l e t.entries }

/-- The tree with a file written. The directory it is in has to exist; a path that ends in a slash
is that of a directory, whether there is one or not. -/
def write (t : Tree) (p : Path) (content : Bytes) : Except FileError Tree := do
  let l ← t.locate p.withoutSlash
  if t.entry? l = some .directory ∨ p.getLast? = some '/' then .error .isDirectory
  else .ok (t.put l (.file content))

/-- The tree with a file there, created empty if it is missing. -/
def touch (t : Tree) (p : Path) : Except FileError Tree := do
  match t.entry? (← t.locate p) with
  | some (.file _) => .ok t
  | _ => t.write p []

def remove (t : Tree) (p : Path) : Except FileError Tree := do
  let l ← t.locate p
  match t.entry? l with
  | some (.file _) => .ok { t with entries := Sorted.erase Location.compare l t.entries }
  | some .directory => .error .isDirectory
  | none => .error .notFound

/-- The tree with a new directory in a directory that exists. -/
def makeDirectory (t : Tree) (p : Path) : Except FileError Tree := do
  let l ← t.locate p.withoutSlash
  if (t.entry? l).isSome then .error .alreadyExists else .ok (t.put l .directory)

/-- The tree with a directory that is there afterwards. One that was there before is no failure. -/
def ensureDirectory (t : Tree) (p : Path) : Tree × Except FileError Unit :=
  match t.makeDirectory p with
  | .ok t => (t, .ok ())
  | .error cause => (t, if t.isDirectory p then .ok () else .error cause)

/-- The tree with a directory and those above it that are missing, those above first. The paths
tried become shorter, and `fuel` bounds their number. -/
def makeDirectories (p : Path) : (fuel : Nat) → Tree → Tree × Except FileError Unit
  | 0, t => (t, .ok ())
  | fuel + 1, t =>
    if p = [] then (t, .ok ())
    else match t.makeDirectory p, Path.parent? p with
      | .error .notFound, none => (t, .error .notFound)
      | .error .notFound, some parent =>
        match makeDirectories parent fuel t with
        | (t, .ok ()) => t.ensureDirectory p
        | (t, .error cause) => (t, .error cause)
      | _, _ => t.ensureDirectory p

/-- The tree with a directory and those above it that are missing. -/
def createDirectory (t : Tree) (p : Path) : Tree × Except FileError Unit :=
  makeDirectories p (p.length + 1) t

instance : FileStore Tree where
  present := present
  read := read
  write := write
  remove := remove
  createDirectory := createDirectory

end Tree
end PacketFilter
