import PacketFilter.Rule.Engine
import PacketFilter.Rule.Remark

/-!
# Directories of rules

In a directory of rules every file `NN-name` is a rule: the number only orders the files, the name
is that of the rule and the lines of the file are the addresses it is for. A file without addresses
is a rule for all of them.

A rule that has no template of its own takes the default one, but only if the rule names a port or
some address: the default template, given neither, would accept everything.

A rule that cannot be rendered leaves a comment and does not stop the others.
-/

namespace PacketFilter

/-- A directory of rules for one direction. -/
structure RuleDirectory where
  path : Path
  direction : Direction
  /-- In place of the direction's chain. -/
  chain : Option Text := none
  defaultTemplate : Text := "accept"
  deriving DecidableEq

/-- A rule of a directory: its raw name and the addresses it is for, as written. A rule for all
addresses has `none` as its only one. -/
structure RuleEntry where
  name : Text
  addresses : List (Option Text)
  deriving DecidableEq, Repr

namespace RuleEntry

/-- The name of the rule that a file of a given name holds. -/
def nameOf? (fileName : Text) : Option Text := do
  let (number, name) ← Text.cut? '-' fileName
  if number.all Text.isDigit ∧ name ≠ [] then some name else none

/-- The addresses that a file's text lists. -/
def addressesOf (content : Text) : List (Option Text) :=
  match ((Text.lines content).map Text.trim).filter fun l ↦ l ≠ [] ∧ l.head? ≠ some '#' with
  | [] => [none]
  | lines => lines.map some

/-- Whether the rule is for some address only. -/
def hasAddress (r : RuleEntry) : Bool := r.addresses.any Option.isSome

end RuleEntry

/-- The commands of a rule for one address as written, or a comment if it is none. -/
def Engine.renderAddress (e : Engine) (t : Template) (r : Rule) (raw : Option Text) : List Text :=
  match raw with
  | none => (e.compileWith r t).commands
  | some text =>
    match Range.parse text with
    | .ok range => (e.compileWith { r with address := some range } t).commands
    | .error cause => [Remark.ignoring r.direction r.identifier.name raw cause.message]

namespace RuleDirectory

/-- The rule of a file, unless its name is not that of a rule. -/
def readEntry (d : RuleDirectory) (t : Tree) (fileName : Text) :
    Except Error (Option RuleEntry) :=
  match RuleEntry.nameOf? fileName with
  | none => .ok none
  | some name => do
    let content ← t.load (d.path.join fileName)
    return some ⟨name, RuleEntry.addressesOf content⟩

/-- The rules, in the order of their files. -/
def entries (d : RuleDirectory) (t : Tree) : Except Error (List RuleEntry) := do
  return (← (← t.fileNames d.path).mapM (d.readEntry t)).filterMap id

/-- The file names of templates to try for a rule. -/
def candidates (d : RuleDirectory) (e : Engine) (r : RuleEntry) : List Text :=
  let own := d.direction.templateName r.name
  if e.portsOf (e.classify r.name) ≠ [] ∨ r.hasAddress then
    [own, d.direction.templateName d.defaultTemplate]
  else [own]

def renderEntry (d : RuleDirectory) (e : Engine) (t : Tree) (r : RuleEntry) : List Text :=
  match e.findTemplate t (d.candidates e r) with
  | .error cause =>
    r.addresses.map fun raw ↦ Remark.ignoring d.direction r.name raw cause.message
  | .ok template =>
    let rule : Rule :=
      { identifier := e.classify r.name, direction := d.direction, chain := d.chain }
    r.addresses.flatMap (e.renderAddress template rule)

/-- The commands of all rules, in the order of their files. -/
def render (d : RuleDirectory) (e : Engine) (t : Tree) : Except Error (List Text) := do
  return (← d.entries t).flatMap (d.renderEntry e t)

end RuleDirectory
end PacketFilter
