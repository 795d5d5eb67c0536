import PacketFilter.Files.Tree
import PacketFilter.Service.Line
import PacketFilter.Text.Lines

/-!
# The registry of services

The registry maps names to services. Names that differ in the case of ASCII letters are one name,
so every key is in lower case, and services are listed in the order of their names.

Reading a further text adds to what is there. The registry is a value: a fresh start is the empty
registry, and nothing is shared between two engines that have one each.
-/

namespace PacketFilter

/-- Services under their lower-case names, in order. -/
structure Registry where
  entries : List (Text × Service) := []
  deriving DecidableEq, Repr

namespace Registry

def empty : Registry := {}

/-- The services, in the order of their names. -/
def services (r : Registry) : List Service := r.entries.map Prod.snd

def size (r : Registry) : Nat := r.entries.length

/-- The service of a name, in letters of either case. -/
def find? (r : Registry) (name : Text) : Option Service :=
  Sorted.find? Text.compare (Text.lower name) r.entries

/-- The registry with a port added to the service of a name, which is created if it is missing. -/
def insert (r : Registry) (name : Text) (p : Port) : Registry :=
  let key := Text.lower name
  { entries := Sorted.update Text.compare key
      (fun found ↦ (found.getD ⟨key, []⟩).add p) r.entries }

/-- The registry with a port added under several names. -/
def insertAll (r : Registry) (names : List Text) (p : Port) : Registry :=
  names.foldl (fun r name ↦ r.insert name p) r

/-- The registry with one line read, and whether the line was skipped. A line without code is
neither registered nor skipped. -/
def addLine (r : Registry) (raw : Text) : Registry × Bool :=
  let t := Service.Line.code raw
  if Text.trim t = [] then (r, false)
  else match Service.Line.read? t with
    | some line => (r.insertAll (line.name :: line.aliases) line.port, false)
    | none => (r, true)

/-- The registry with the lines of a text read, and the number of lines skipped. -/
def addText (r : Registry) (text : Text) : Registry × Nat :=
  (Text.lines text).foldl
    (fun (r, skipped) raw ↦
      let (r, skip) := r.addLine raw
      (r, if skip then skipped + 1 else skipped))
    (r, 0)

def ofText (text : Text) : Registry := (empty.addText text).1

def load (t : Tree) (p : Path) : Except Error Registry := (t.load p).map ofText

end Registry
end PacketFilter
