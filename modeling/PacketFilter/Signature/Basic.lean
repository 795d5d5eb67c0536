import PacketFilter.Address.Range
import PacketFilter.Regex.Match
import PacketFilter.Regex.Parser
import PacketFilter.Text.Lines
import PacketFilter.Text.Quoted

/-!
# Signatures

A signature describes the log lines that tell of an attempt to break in. It is a pattern with one
group for the address the attempt came from, which is usually written `__IP__`: that stands for a
group named `address` around anything that looks like an address, with or without the embedding of
IPv4 addresses in front of it.

Log lines quote what strangers sent, so a signature that could match anywhere would let them forge
an address. A pattern that fixes neither its start nor its end is therefore tied to the end of the
line, where the address that the server itself wrote usually stands.

Text that is captured but is no address makes a hit without an address.
-/

namespace PacketFilter

/-- A named pattern that captures an address. -/
structure Signature where
  name : Text
  /-- The pattern's text, with everything added to it. -/
  expanded : Text
  pattern : Regex.Pattern
  /-- The number of the group that captures the address. -/
  addressGroup : Nat
  deriving DecidableEq, Repr

/-- A line that a signature matched. -/
structure Hit where
  /-- The name of the signature. -/
  signature : Text
  line : Text
  /-- The address the line tells of, if the captured text is one. -/
  address : Option Range
  /-- The text captured as an address. -/
  rawAddress : Option Text
  /-- What the other groups captured, in order. -/
  captures : List Text
  deriving DecidableEq

namespace Signature

/-- What stands for the address in a signature. -/
def placeholder : Text := "__IP__"

/-- The name of the group that captures the address. -/
def addressName : Text := "address"

/-- The pattern that the placeholder stands for. -/
def addressPattern : Text := "(?:::ffff:)?(?P<address>[0-9a-fA-F:.]+(?:/[0-9]+)?)"

/-- A pattern that is tied to neither end of a line gets tied to its end. -/
def anchor (t : Text) : Text :=
  if Text.startsWith t "^" || Text.endsWith t "$" then t else t ++ "$"

/-- The text of the pattern that a signature stands for. -/
def expand (source : Text) : Text := anchor (Text.replace placeholder addressPattern source)

/-- The signature of a pattern's text. The group that captures the address is the one of that
name, or the first if there is none. Every pattern that cannot be read is refused with the same
text: the reason, which would stand behind it, is left out. -/
def compile (name source : Text) : Except Text Signature :=
  let expanded := expand source
  match Regex.Pattern.parse? expanded with
  | none => .error "invalid regex"
  | some p =>
    let group := (p.groupNamed? addressName).getD 1
    if p.groupCount < group then
      .error ("pattern " ++ Text.quoted source ++
        " has no group capturing the source address (use " ++ placeholder ++ ")")
    else .ok ⟨name, expanded, p, group⟩

def match? (s : Signature) (line : Text) : Option Hit := do
  let m ← s.pattern.search? line
  let raw := m.group? s.addressGroup
  let others := ((List.range (s.pattern.groupCount + 1)).drop 1).filter (· ≠ s.addressGroup)
  some
    { signature := s.name
      line := line
      address := raw.bind fun t ↦ (Range.parse t).toOption
      rawAddress := raw
      captures := others.filterMap m.group? }

/-- The hits of lines: line by line, and signature by signature within each. Line breaks at a
line's end are no part of it. -/
def applyAll (ss : List Signature) (lines : List Text) : List Hit :=
  lines.flatMap fun line ↦ ss.filterMap (·.match? (Text.chomp line))

end Signature
end PacketFilter
