import PacketFilter.Blocking.Count
import PacketFilter.Rule.Engine
import PacketFilter.Rule.Remark

/-!
# Blocking

An address is blocked on a port once its hits there exceed one threshold, and on every port once
its hits together exceed another. Hits that count against every port block every port.

A decision is rendered through one template. Blocking every port is a rule without ports, so that
only the template's lines for any port are used; blocking single ports is a rule for each, and then
only its lines for single ports are used. A name that is no known port leaves a comment behind.
-/

namespace PacketFilter

/-- What is blocked for one range. -/
inductive Block where
  | all
  | ports (names : List Text)
  deriving DecidableEq, Repr

/-- Decisions, in the order of their ranges. -/
abbrev Blocks := List (Range × Block)

/-- When to block, and by which template. -/
structure BlockPolicy where
  /-- Hits on one port have to exceed this number. -/
  blockAfter : Nat := 10
  /-- Hits on all ports together have to exceed this number. -/
  blockAllAfter : Nat := 25
  template : Text := "reject"
  deriving DecidableEq, Repr

namespace BlockPolicy

/-- What to block for the counts of one range, if anything. -/
def decideRange (b : BlockPolicy) (cs : PortCounts) : Option Block :=
  if b.blockAllAfter < cs.total ∨ b.blockAfter < cs.of SignatureFile.allPorts then some .all
  else
    match (cs.filter fun (_, hits) ↦ b.blockAfter < hits).map Prod.fst with
    | [] => none
    | names => some (.ports names)

def decide (b : BlockPolicy) (c : HitCount) : Blocks :=
  c.entries.filterMap fun (r, cs) ↦ (b.decideRange cs).map fun block ↦ (r, block)

/-- The rule that blocks a range on given ports; without any, on all of them. -/
def ruleFor (b : BlockPolicy) (r : Range) (ports : List Port) : Rule :=
  { identifier := .customName b.template
    direction := .incoming
    address := some r
    ports := some ports }

/-- The commands that block a range on the port of a name. -/
def renderPort (b : BlockPolicy) (e : Engine) (t : Template) (r : Range) (name : Text) :
    List Text :=
  match e.portsOf (e.classify name) with
  | [] => [Remark.ignoring .incoming name (some r.print) "it names no known port"]
  | ports => (e.compileWith (b.ruleFor r ports) t).commands

def renderBlock (b : BlockPolicy) (e : Engine) (t : Template) : Range × Block → List Text
  | (r, .all) => (e.compileWith (b.ruleFor r []) t).commands
  | (r, .ports names) => names.flatMap (b.renderPort e t r)

/-- The commands of all decisions. Without a template, each leaves a comment. -/
def render (b : BlockPolicy) (e : Engine) (t : Tree) (blocks : Blocks) : List Text :=
  match e.findTemplate t [Direction.incoming.templateName b.template] with
  | .ok template => blocks.flatMap (b.renderBlock e template)
  | .error cause =>
    blocks.map fun (r, _) ↦ Remark.ignoring .incoming b.template (some r.print) cause.message

end BlockPolicy
end PacketFilter
