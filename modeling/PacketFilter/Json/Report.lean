import PacketFilter.Blocking.Decision
import PacketFilter.Json.Basic
import PacketFilter.Login.Record

/-!
# Reports as JSON

Compiled rules, decisions and login records as other programs read them.
-/

namespace PacketFilter

/-- A range in its written form. -/
def Range.toJson (r : Range) : Json := .text r.print

/-- What a rule's name refers to, and the name or number itself. -/
def Identifier.toJson : Identifier → Json
  | .numericPort n => .object [("kind", .text "numeric_port"), ("value", .nat n.val)]
  | .serviceName t => .object [("kind", .text "service_name"), ("value", .text t)]
  | .customName t => .object [("kind", .text "custom_name"), ("value", .text t)]

def CompiledRule.toJson (r : CompiledRule) : Json :=
  .object
    [("identifier", r.identifier.toJson), ("direction", .text r.direction.name),
      ("address", .optional Range.toJson r.address), ("template", .text r.template),
      ("commands", .texts r.commands)]

def Block.toJson : Block → Json
  | .all => .text "all"
  | .ports names => .object [("ports", .texts names)]

/-- Decisions, each under its range. -/
def Blocks.toJson (bs : Blocks) : Json := .object (bs.map fun (r, b) ↦ (r.print, b.toJson))

def Login.Kind.toJson : Kind → Json
  | .unknown code => .object [("unknown", .int code)]
  | k => .text (k.name?.getD [])

def Login.Record.toJson (r : Record) : Json :=
  .object
    [("record_type", r.kind.toJson), ("pid", .int r.process), ("line", .text r.line),
      ("id", .text r.id), ("user", .text r.user), ("host", .text r.host),
      ("session", .int r.session), ("time", .text r.time.print),
      ("ip", .optional (fun a ↦ .text a.print) r.address)]

end PacketFilter
