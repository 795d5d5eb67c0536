import PacketFilter.Address.Range
import PacketFilter.Files.Tree
import PacketFilter.Rule.Direction
import PacketFilter.Service.Basic
import PacketFilter.Template.Line
import PacketFilter.Text.Lines

/-!
# Rendering templates

A template without any token is a fixed list of commands. With tokens, every command line is
rendered once for each address family and port it is about:

* a line with `$IPTABLES` is about the family of the rule's address, or about both families if
  there is none; a line that calls a packet filter command by name is about that command's family
  and is left out for addresses of the other;
* a line that speaks of a port is about each of the rule's ports, and is left out if there are
  none.

Lines that match on a chain or an address alone are the form for any port. Once a rule has ports
and the template has lines for them, those lines are left out, since they would open every port.

Substitution is a single pass over the segments: what is put in is not searched for tokens again.
Blanks left by tokens without a value are squeezed.
-/

namespace PacketFilter

/-- The packet filter command of a family. -/
def Family.command : Family → Text
  | v4 => "/sbin/iptables"
  | v6 => "/sbin/ip6tables"

/-- A template: the path it is known by, and its lines. -/
structure Template where
  path : Path
  lines : List Template.Line
  deriving DecidableEq, Repr

namespace Template

/-- Everything a template needs to know of a rule. -/
structure Context where
  direction : Direction
  chain : Text
  address : Option Range := none
  device : Option Text := none
  ports : List Port := []
  deriving DecidableEq

/-- The value of a token for one family and port. -/
def Context.value (c : Context) (family : Option Family) (port : Option Port) : Token → Text
  | .iptables => (family.getD .v4).command
  | .chain => c.chain
  | .dev =>
    match c.device, c.direction with
    | some device, .incoming => "--in-interface " ++ device
    | some device, .outgoing => "--out-interface " ++ device
    | none, _ => []
  | .src => option "--src"
  | .dest => option "--dst"
  | .address =>
    match c.direction with
    | .incoming => option "--src"
    | .outgoing => option "--dst"
  | .port => (port.map Port.numeral).getD []
  | .proto => (port.map (·.protocol.name)).getD []
where
  option (flag : Text) : Text :=
    match c.address with
    | some r => flag ++ " " ++ r.print
    | none => []

/-- A segment with its token replaced. -/
def Context.fill (c : Context) (family : Option Family) (port : Option Port) : Segment → Text
  | .text t => t
  | .token k => c.value family port k

namespace Line

/-- The line with its tokens replaced. A line without tokens only loses blanks at its end. -/
def substitute (l : Line) (c : Context) (family : Option Family) (port : Option Port) : Text :=
  if l.hasTokens then Text.squeeze (l.segments.flatMap (c.fill family port))
  else Text.trimEnd l.raw

/-- The families a line is rendered for. -/
def families (l : Line) (c : Context) : List (Option Family) :=
  match l.has .iptables, c.address, l.literalFamily with
  | true, some r, _ => [some r.family]
  | true, none, _ => [some .v4, some .v6]
  | false, some r, some family => if family = r.family then [some family] else []
  | false, _, family => [family]

/-- The ports a line is rendered for. -/
def portsOf (l : Line) (c : Context) : List (Option Port) :=
  if l.usesPorts then c.ports.map some else [none]

/-- The commands of a line: family by family, and port by port within each. -/
def render (l : Line) (c : Context) : List Text :=
  (l.families c).flatMap fun family ↦ (l.portsOf c).map (l.substitute c family)

end Line

def parse (path : Path) (content : Text) : Template := ⟨path, (Text.lines content).map Line.parse⟩

def load (t : Tree) (p : Path) : Except Error Template := (t.load p).map (parse p)

def isTokenized (t : Template) : Bool := t.lines.any Line.hasTokens

/-- Whether a line routes its command through `$IPTABLES`, so that the template serves both
families. -/
def isDualFamily (t : Template) : Bool := t.lines.any (·.has .iptables)

/-- Whether the lines for any port give way to those for single ports. -/
def isNarrowed (t : Template) (c : Context) : Bool :=
  c.ports ≠ [] && t.lines.any Line.usesPorts

/-- The commands of a template, in line order. -/
def render (t : Template) (c : Context) : List Text :=
  let commands := t.lines.filter Line.isCommand
  if t.isTokenized then
    (commands.filter fun l ↦ !(t.isNarrowed c && l.isPortless)).flatMap (·.render c)
  else commands.map fun l ↦ Text.trimEnd l.raw

end Template
end PacketFilter
