import PacketFilter.Rule.Direction
import PacketFilter.Service.Registry

/-!
# Rule identifiers

The name of a rule is a port number, the name of a known service or the name of a template of its
own. Digits that are too large for a port number are a name of the third kind; they are not looked
up among the services.
-/

namespace PacketFilter

/-- What a rule's name refers to. -/
inductive Identifier where
  | numericPort (n : PortNumber)
  | serviceName (name : Text)
  | customName (name : Text)
  deriving DecidableEq, Repr

namespace Identifier

/-- The name in templates' file names and in comments. -/
def name : Identifier → Text
  | numericPort n => Text.decimal n.val
  | serviceName t => t
  | customName t => t

/-- What a raw name refers to, blanks around it aside. -/
def classify (services : Registry) (raw : Text) : Identifier :=
  let t := Text.trim raw
  if t ≠ [] ∧ t.all Text.isDigit then
    match Port.number? t with
    | some n => numericPort n
    | none => customName t
  else match services.find? t with
    | some service => serviceName service.name
    | none => customName t

/-- The ports an identifier stands for. A number stands for both protocols, a custom name for no
port. -/
def ports (services : Registry) : Identifier → List Port
  | numericPort n => Protocol.all.map (⟨n, ·⟩)
  | serviceName t => ((services.find? t).map Service.ports).getD []
  | customName _ => []

end Identifier
end PacketFilter
