import PacketFilter.Files.Tree
import PacketFilter.Signature.Basic
import PacketFilter.Text.Blank

/-!
# Signature files

A signature file holds one signature a line, and may say once each which log file it is for and
which ports its hits count against:

```text
file = /var/log/auth.log
ports = ssh, 2222

@invalid-user sshd\[\d+\]: Invalid user (\S+) from __IP__
sshd\[\d+\]: Failed password for .* from __IP__ port \d+ ssh2
```

A signature without a name of its own gets one from the file's name and its number in the file. A
line that cannot be understood makes the whole file fail, since a signature that is silently
dropped would leave a service without protection.
-/

namespace PacketFilter

structure SignatureFile where
  path : Path
  /-- The log file the signatures are for. -/
  log : Option Path
  /-- Ports or services that hits count against. -/
  ports : List Text
  signatures : List Signature
  deriving DecidableEq, Repr

namespace SignatureFile

/-- The port of hits that count against every port. -/
def allPorts : Text := "all"

/-- What follows `key =` on a line. -/
def setting? (key line : Text) : Option Text := do
  let rest ← Text.after? key line
  (Text.after? "=" (Text.trimStart rest)).map Text.trim

def readPorts (value : Text) : List Text :=
  (Text.splitBy (fun c ↦ c == ',' || Text.isBlank c) value).filter (· ≠ [])

def isNameChar (c : Char) : Bool := Text.isAlphanumeric c || c == '-' || c == '_' || c == '.'

/-- The name and the pattern that follow the sign of a named signature. -/
def readNamed (t : Text) : Except Text (Text × Text) :=
  let name := t.takeWhile fun c ↦ !Text.isBlank c
  let source := Text.trim (t.drop name.length)
  if name = [] ∨ !name.all isNameChar then .error ("bad pattern name " ++ Text.quoted name)
  else if source = [] then .error ("pattern " ++ Text.quoted name ++ " has no regex")
  else .ok (name, source)

/-- What has been read of a file. -/
structure Draft where
  log : Option Path := none
  ports : Option (List Text) := none
  signatures : List Signature := []

/-- A trimmed line that is neither empty nor a comment, added to what has been read. -/
def Draft.addLine (d : Draft) (stem line : Text) : Except Text Draft :=
  match setting? "file" line, setting? "ports" line with
  | some value, _ =>
    if d.log.isSome then .error "duplicate 'file' directive" else .ok { d with log := some value }
  | none, some value =>
    if d.ports.isSome then .error "duplicate 'ports' directive"
    else .ok { d with ports := some (readPorts value) }
  | none, none => do
    let (name, source) ←
      match line with
      | '@' :: rest => readNamed rest
      | _ => .ok (stem ++ "-" ++ Text.decimal (d.signatures.length + 1), line)
    let s ← Signature.compile name source
    return { d with signatures := d.signatures ++ [s] }

/-- The lines from a given number on, added one by one. -/
def Draft.addLines (path : Path) (stem : Text) : Draft → Nat → List Text → Except Error Draft
  | d, _, [] => .ok d
  | d, n, raw :: rest => do
    let line := Text.trim raw
    if line = [] ∨ line.head? = some '#' then addLines path stem d (n + 1) rest
    else
      let d ← (d.addLine stem line).mapError (.badLine path n)
      addLines path stem d (n + 1) rest

/-- The signature file of a text. The path names it in messages and unnamed signatures. -/
def parse (path : Path) (content : Text) : Except Error SignatureFile := do
  let stem := (Path.stem? path).getD "pattern"
  let d ← Draft.addLines path stem {} 1 (Text.lines content)
  let ports := d.ports.getD []
  return ⟨path, d.log, if ports = [] then [allPorts] else ports, d.signatures⟩

def load (t : Tree) (p : Path) : Except Error SignatureFile := do parse p (← t.load p)

def apply (f : SignatureFile) (lines : List Text) : List Hit :=
  Signature.applyAll f.signatures lines

/-! ## Directories of signature files -/

/-- The extension of signature files in a directory. -/
def extension : Text := "patterns"

/-- The signature files of a path: all those in a directory, in the order of their names, or the
one it leads to. -/
def loadAll (t : Tree) (p : Path) : Except Error (List SignatureFile) :=
  match t.list p with
  | .ok found =>
    ((found.map fun (name, _) ↦ Path.join p name).filter
      fun q ↦ Path.extension? q = some extension).mapM (load t)
  | .error _ => do return [← load t p]

/-- The signatures of several files, in order. -/
def signaturesOf (fs : List SignatureFile) : List Signature := fs.flatMap signatures

end SignatureFile
end PacketFilter
