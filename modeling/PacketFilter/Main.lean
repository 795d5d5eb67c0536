import PacketFilter.Command.Reach

/-!
# The program

The program reads the places that a command looks at into a tree, runs the command on it, and
carries out what changed in the tree. A run that leaves a lock file behind is done again with the
file locked, on what is there once it is.
-/

namespace PacketFilter

def Location.path (l : Location) : String := String.ofList ('/' :: Text.joinWith "/" l)

namespace Program

/-- The tree with what a location holds, and what is inside it down to a depth. -/
def capture : (depth : Nat) → Tree → Location → IO Tree
  | depth, t, l => do
    match ← (IO.FS.realPath l.path).toBaseIO with
    | .error _ => return t
    | .ok place =>
      if ← place.isDir then
        let t := t.put l .directory
        match depth with
        | 0 => return t
        | depth + 1 =>
          let entries ← place.readDir
          entries.foldlM (fun t e ↦ capture depth t (l ++ [e.fileName.toList])) t
      else return t.put l (.file (← IO.FS.readBinFile l.path).toList)

/-- The tree with what a location holds and the directories above it. -/
def capturePath (t : Tree) (p : Path) : IO Tree := do
  let l := t.nominal p
  let t ← (List.range l.length).foldlM (fun t n ↦ capture 0 t (l.take n)) t
  capture 1 t l

/-- A tree with everything that a command looks at, reached in a number of steps. -/
def observe (i : Invocation) : (steps : Nat) → Tree → IO Tree
  | 0, t => return t
  | steps + 1, t => do
    let places := i.command.reach t i.settingsFile
    observe i steps (← places.foldlM capturePath t)

/-- The number of steps after which a command's places are known: the settings, what they name, and
the logs. -/
def enoughSteps : Nat := 4

/-- Carries out what makes one tree another. -/
def commit (old new : Tree) : IO Unit := do
  for (l, e) in new.entries do
    if old.entry? l ≠ some e then
      match e with
      | .directory => IO.FS.createDirAll l.path
      | .file content => IO.FS.writeBinFile l.path (ByteArray.mk content.toArray)
  for (l, _) in old.entries do
    if (new.entry? l).isNone then IO.FS.removeFile l.path

/-- The lock file of a command that may need one. -/
def lockFile? : Command → Option Path
  | .makeRules _ output _ => some (Lock.pathFor output)
  | _ => none

def finish (e : Ending) : IO UInt32 := do
  IO.print (String.ofList e.output)
  if e.report ≠ [] then IO.eprintln (String.ofList e.report)
  return e.status.toUInt32

/-- Carries out a run under a lock on its lock file. -/
def runLocked (start : Tree) (words : List Text) (i : Invocation) (lockFile : Path) :
    IO UInt32 := do
  let location := start.nominal lockFile
  IO.FS.createDirAll (Location.path location.dropLast)
  let handle ← IO.FS.Handle.mk location.path .append
  let held : List Lock := if ← handle.tryLock then [] else [⟨lockFile, location⟩]
  let t ← observe i enoughSteps start
  let e := runProgram held t words
  commit t e.tree
  if held = [] then handle.unlock
  finish e

def run (words : List Text) : IO UInt32 := do
  let working := Path.names (← IO.currentDir).toString.toList
  let start : Tree := { working := working }
  match Arguments.parse words with
  | .error _ => finish (runProgram [] start words)
  | .ok i =>
    let t ← observe i enoughSteps start
    let e := runProgram [] t words
    match lockFile? i.command with
    | some lockFile => if e.tree.isFile lockFile then runLocked start words i lockFile else finish e
    | none => finish e

end Program
end PacketFilter

def main (args : List String) : IO UInt32 := PacketFilter.Program.run (args.map String.toList)
