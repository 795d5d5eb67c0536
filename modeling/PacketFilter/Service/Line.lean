import PacketFilter.Service.Basic
import PacketFilter.Text.Blank
import PacketFilter.Text.Property

/-!
# Lines of a services file

A line names a service, its port and protocol, and then any aliases:

```text
smtp            25/tcp          mail
```

Everything from the first `#` on is a comment. The file is shared with other programs and holds
entries that mean nothing here, other protocols among them. A line that is not in this form is
therefore skipped, and the reader reports how many were.

Names are runs of word characters and hyphens. After the protocol the line may hold aliases and
blanks only, and the protocol has to end where it stands: `tcp6` is another protocol.
-/

namespace PacketFilter.Service

/-- What one line registers: a port under a name and its aliases. -/
structure Line where
  name : Text
  port : Port
  aliases : List Text
  deriving DecidableEq, Repr

namespace Line

def isNameChar (c : Char) : Bool := Text.isWord c || c == '-'

/-- The line up to its comment, without blanks at its end. -/
def code (raw : Text) : Text := Text.trimEnd (Text.before '#' raw)

/-- The protocol a text starts with, and what follows. -/
def readProtocol? (t : Text) : Option (Protocol × Text) :=
  match Text.after? "tcp" t, Text.after? "udp" t with
  | some rest, _ => some (.tcp, rest)
  | none, some rest => some (.udp, rest)
  | none, none => none

/-- Whether what follows the protocol is a list of aliases. -/
def isAliasList (t : Text) : Bool :=
  t.all (fun c ↦ isNameChar c || Text.isBlank c) && !(t.head?.any Text.isWord)

/-- The entry of a line without its comment. -/
def read? (t : Text) : Option Line := do
  let name := t.takeWhile isNameChar
  let gap := (t.drop name.length).takeWhile Text.isBlank
  let t := t.drop (name.length + gap.length)
  let numeral := t.takeWhile Text.isDecimal
  let (protocol, rest) ← readProtocol? (← Text.after? "/" (t.drop numeral.length))
  let number ← Port.number? numeral
  if name ≠ [] ∧ gap ≠ [] ∧ isAliasList rest then some ⟨name, ⟨number, protocol⟩, Text.words rest⟩
  else none

end Line
end PacketFilter.Service
