import PacketFilter.Address.Range
import PacketFilter.Login.Record
import PacketFilter.Rule.Engine
import PacketFilter.Rule.Remark

/-!
# Allowing

A host from which a user has logged in may connect again. Each such host is allowed once, in the
order of addresses, by a rule without ports.
-/

namespace PacketFilter.Login

/-- The hosts from which users have logged in, in order. -/
def userHosts (rs : List Record) : List Range :=
  Range.distinct (((rs.filter Record.isUser).filterMap Record.address).map Range.host)

/-- The template of rules that allow an address. -/
def allowTemplate : Text := "accept"

/-- The rule that allows a range. -/
def allowRule (r : Range) : Rule :=
  { identifier := .customName allowTemplate
    direction := .incoming
    address := some r
    ports := some [] }

/-- The commands that allow ranges, in the given order. Without a template, each leaves a
comment. -/
def renderAllowed (e : Engine) (t : Tree) (rs : List Range) : List Text :=
  match e.findTemplate t [Direction.incoming.templateName allowTemplate] with
  | .ok template => rs.flatMap fun r ↦ (e.compileWith (allowRule r) template).commands
  | .error cause =>
    rs.map fun r ↦ Remark.ignoring .incoming allowTemplate (some r.print) cause.message

end PacketFilter.Login
