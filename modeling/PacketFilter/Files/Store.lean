import PacketFilter.Error
import PacketFilter.Sorted
import PacketFilter.Text.Utf8

/-!
# Stores of files

Generating rule files needs five operations. `FileStore` names them for any type of store, so that
a run of the generator can be stated and proved over a plain map of paths and still be carried out
on a directory tree.

`Shelf` is the plain map. Paths in it are mere keys: there are no directories, and two spellings
of a path are two files. Any operation on a chosen path can be made to fail, and then leaves the
files as they were.
-/

namespace PacketFilter

/-- The operations on files that a run of the generator uses. -/
class FileStore (σ : Type) where
  /-- Whether there is a file or directory of that path. -/
  present : σ → Path → Bool
  read : σ → Path → Except FileError Bytes
  write : σ → Path → Bytes → Except FileError σ
  remove : σ → Path → Except FileError σ
  /-- Creates a directory together with those above it that are missing. What was created before a
  failure stays. -/
  createDirectory : σ → Path → σ × Except FileError Unit

/-- Files under exact paths, in order, and the paths on which an operation fails. -/
structure Shelf where
  files : List (Path × Bytes) := []
  unreadable : List Path := []
  unwritable : List Path := []
  unremovable : List Path := []
  uncreatable : List Path := []
  deriving DecidableEq, Repr

namespace Shelf

def get? (s : Shelf) (p : Path) : Option Bytes := Sorted.find? Text.compare p s.files

/-- The contents of a file, unless it cannot be read. -/
def read (s : Shelf) (p : Path) : Except FileError Bytes :=
  if p ∈ s.unreadable then .error .denied
  else match s.get? p with
    | some content => .ok content
    | none => .error .notFound

/-- The store with a file written, unless it cannot be. -/
def write (s : Shelf) (p : Path) (content : Bytes) : Except FileError Shelf :=
  if p ∈ s.unwritable then .error .denied
  else .ok { s with files := Sorted.insert Text.compare p content s.files }

/-- The store with a file removed, unless it cannot be. -/
def remove (s : Shelf) (p : Path) : Except FileError Shelf :=
  if p ∈ s.unremovable then .error .denied
  else if (s.get? p).isNone then .error .notFound
  else .ok { s with files := Sorted.erase Text.compare p s.files }

/-- There are no directories to create, but the attempt can fail. -/
def createDirectory (s : Shelf) (p : Path) : Shelf × Except FileError Unit :=
  (s, if p ∈ s.uncreatable then .error .denied else .ok ())

instance : FileStore Shelf where
  present s p := (s.get? p).isSome
  read := read
  write := write
  remove := remove
  createDirectory := createDirectory

end Shelf
end PacketFilter
