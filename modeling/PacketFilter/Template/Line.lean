import PacketFilter.Address.Basic
import PacketFilter.Template.Token
import PacketFilter.Text.Blank

/-!
# Template lines

A line is kept as written together with its segments. What decides how it is rendered is read off
them: whether it has tokens at all, whether it speaks of a port, and whether it would match on a
chain or an address alone.

A line that calls one of the two packet filter commands by name is tied to that command's address
family.
-/

namespace PacketFilter.Template

/-- A line as written, with its segments. -/
structure Line where
  raw : Text
  segments : List Segment
  deriving DecidableEq, Repr

namespace Line

def parse (raw : Text) : Line := ⟨raw, Template.segments raw⟩

def has (l : Line) (k : Token) : Bool := .token k ∈ l.segments

def tokens (l : Line) : List Token :=
  l.segments.filterMap fun
    | .token k => some k
    | .text _ => none

def hasTokens (l : Line) : Bool := l.tokens ≠ []

/-- Whether the line speaks of a port. -/
def usesPorts (l : Line) : Bool := l.tokens.any Token.isPort

/-- Whether the line matches on an address or a chain but not on a port. -/
def isPortless (l : Line) : Bool :=
  !l.usesPorts && l.tokens.any (· ∈ [.chain, .src, .dest, .address])

/-- Whether the line is a command: neither blank nor a comment. -/
def isCommand (l : Line) : Bool :=
  match Text.trimStart l.raw with
  | [] => false
  | c :: _ => c != '#'

/-- The name of a program without the directories in front of it. -/
def programName (word : Text) : Text := (word.reverse.takeWhile (· ≠ '/')).reverse

/-- The family of the packet filter command that the line calls by name. -/
def literalFamily (l : Line) : Option Family := do
  let word ← (Text.words l.raw).head?
  if programName word = "iptables" then some .v4
  else if programName word = "ip6tables" then some .v6
  else none

end Line
end PacketFilter.Template
