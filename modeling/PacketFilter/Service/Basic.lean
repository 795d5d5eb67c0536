import PacketFilter.Text.Basic

/-!
# Ports and services

A port is a number and a transport protocol; a service is a name with its ports, in the order in
which they were first seen. That order is visible, since rules for a service are written port by
port, and so no port is kept twice.
-/

namespace PacketFilter

/-- The transport protocols that have ports. -/
inductive Protocol where
  | tcp
  | udp
  deriving DecidableEq, Repr

namespace Protocol

/-- Both protocols, in the order in which rules are written. -/
def all : List Protocol := [tcp, udp]

/-- The protocol's name in rules and in services files. -/
def name : Protocol → Text
  | tcp => "tcp"
  | udp => "udp"

/-- The protocol a word names, in letters of either case. -/
def parse (word : Text) : Except Text Protocol :=
  let w := Text.lower word
  if w = "tcp" then .ok tcp
  else if w = "udp" then .ok udp
  else .error ("Unknown protocol: " ++ w)

end Protocol

/-- Port numbers have sixteen bits. -/
abbrev PortNumber := Fin 65536

structure Port where
  number : PortNumber
  protocol : Protocol
  deriving DecidableEq, Repr

namespace Port

/-- The port number a numeral denotes, if it is one. -/
def number? (t : Text) : Option PortNumber := do
  let n ← Text.number? 10 t
  if h : n < 65536 then some ⟨n, h⟩ else none

def numeral (p : Port) : Text := Text.decimal p.number.val

/-- A port as services files write it, such as `25/tcp`. -/
def print (p : Port) : Text := p.numeral ++ "/" ++ p.protocol.name

end Port

/-- A name with its ports, in the order in which they were first seen. -/
structure Service where
  name : Text
  ports : List Port
  deriving DecidableEq, Repr

namespace Service

/-- The list with `a` at its end, unless `a` is in it. -/
def addNew {α : Type} [DecidableEq α] (as : List α) (a : α) : List α :=
  if a ∈ as then as else as ++ [a]

/-- The service with a port added, unless it has the port. -/
def add (s : Service) (p : Port) : Service := { s with ports := addNew s.ports p }

/-- The distinct port numbers, in the order in which they were first seen. -/
def portNumbers (s : Service) : List PortNumber := (s.ports.map Port.number).foldl addNew []

end Service
end PacketFilter
