import PacketFilter.Failure
import PacketFilter.Files.Tree

/-!
# Locks

Two runs of the generator on one directory must not interleave. A run holds a lock on a file beside
the directory, so that the directory itself has rule files only. A lock is on the file, however it
was reached; lock files stay where they are when a lock is released.
-/

namespace PacketFilter

/-- A lock that is held. -/
structure Lock where
  /-- The lock file, as its path was built. -/
  path : Path
  /-- What is locked. -/
  location : Location
  deriving DecidableEq, Repr

namespace Lock

/-- The lock file of a directory. A path that ends in no name of its own has it inside. -/
def pathFor (dir : Path) : Path :=
  match Path.parent? dir, Path.fileName? dir with
  | some parent, some name => parent.join ("." ++ name ++ ".lock")
  | _, _ => dir.join ".make-rules.lock"

/-- The tree with the directory of a lock file. -/
def prepare (t : Tree) (lockFile : Path) : Tree × Except Failure Unit :=
  match Path.parent? lockFile with
  | none => (t, .ok ())
  | some parent =>
    (t.createDirectory parent).map id fun result ↦ result.mapError fun cause ↦
      (Failure.ofFile cause).within ("Failed to create directory: " ++ parent)

/-- The failure to open a lock file. -/
def notOpened (lockFile : Path) (cause : FileError) : Failure :=
  (Failure.ofFile cause).within ("Failed to open lock file: " ++ lockFile)

/-- The tree with a lock file, and where the file is. What was created before a failure stays. -/
def openFile (t : Tree) (lockFile : Path) : Tree × Except Failure Location :=
  match prepare t lockFile with
  | (t, .error f) => (t, .error f)
  | (t, .ok ()) =>
    match t.touch lockFile with
    | .error cause => (t, .error (notOpened lockFile cause))
    | .ok t => (t, (t.locate lockFile).mapError (notOpened lockFile))

/-- The failure of a run on a directory that another run has locked. -/
def busy (dir : Path) : Failure :=
  ⟨"Another make-rules run is using " ++ dir ++
    ".\nIf you believe this is an error, remove the lock file: " ++ pathFor dir, []⟩

/-- The tree with the lock file of a directory, and a lock on it unless one of those that are held
is on the same file. -/
def acquire (held : List Lock) (t : Tree) (dir : Path) : Tree × Except Failure Lock :=
  (openFile t (pathFor dir)).map id fun opened ↦ opened.bind fun location ↦
    if held.any (·.location = location) then .error (busy dir) else .ok ⟨pathFor dir, location⟩

end Lock
end PacketFilter
