import PacketFilter.Text.Basic

/-!
# Paths

A path is kept as it was written, because every message and report shows it that way; what it
means is read off its components. Repeated slashes, a slash at the end and `.` components other
than a leading one add nothing and are no components. `..` is one, since what it leads to depends
on the directory tree.
-/

namespace PacketFilter

/-- A path, as written. -/
abbrev Path := Text

namespace Path

def isAbsolute : Path → Bool
  | '/' :: _ => true
  | _ => false

/-- The path of `name` inside `dir`. An absolute name stands for itself. -/
def join (dir name : Path) : Path :=
  if isAbsolute name ∨ dir = [] then name
  else if dir.getLast? = some '/' then dir ++ name
  else dir ++ "/" ++ name

/-- The names between slashes that say something: neither empty nor `.`. -/
def names (p : Path) : List Text :=
  (Text.splitBy (· = '/') p).filter fun n ↦ n ≠ [] ∧ n ≠ ['.']

/-- The path without slashes at its end. One slash stays if there is nothing else. -/
def withoutSlash (p : Path) : Path :=
  match p.reverse.dropWhile (· = '/') with
  | [] => p.take 1
  | rest => rest.reverse

/-- The reversed path without the slashes and `.` components at its end; one slash stays if
nothing else is left, and so does a lone `.`. -/
def trimReversed : Text → Text
  | '/' :: '/' :: rest => trimReversed ('/' :: rest)
  | ['/'] => ['/']
  | '/' :: '.' :: '/' :: rest => trimReversed ('/' :: rest)
  | '/' :: rest => rest
  | '.' :: '/' :: rest => trimReversed ('/' :: rest)
  | other => other
termination_by t => t.length

/-- The path without what adds nothing at its end. -/
def trimmed (p : Path) : Path := (trimReversed p.reverse).reverse

/-- The last component, unless it is the root, `.` or `..`. -/
def fileName? (p : Path) : Option Text :=
  let last := ((trimmed p).reverse.takeWhile (· ≠ '/')).reverse
  if last = [] ∨ last = ['.'] ∨ last = ['.', '.'] then none else some last

/-- The path up to its last component. The root and the empty path have none. -/
def parent? (p : Path) : Option Path :=
  let t := trimmed p
  if t = [] ∨ t = ['/'] then none
  else some (trimmed (t.reverse.dropWhile (· ≠ '/')).reverse)

/-- A file name cut at its last dot. A dot at its start does not count. -/
private def cutName (name : Text) : Option (Text × Text) :=
  match Text.cut? '.' name.reverse with
  | some (_, []) => none
  | some (after, before) => some (before.reverse, after.reverse)
  | none => none

/-- What follows the last dot of the file name. -/
def extension? (p : Path) : Option Text := do
  let name ← fileName? p
  (cutName name).map Prod.snd

/-- The file name up to its last dot. -/
def stem? (p : Path) : Option Text := do
  let name ← fileName? p
  match cutName name with
  | some (before, _) => some before
  | none => some name

end Path
end PacketFilter
