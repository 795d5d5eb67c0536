import PacketFilter.Yaml.Scalar

/-!
# Documents

A document is a tree of scalars, sequences and mappings. A node may be anchored, and an alias
stands for an anchored node elsewhere. Aliases are resolved when the document is complete: an
anchor is known by a number, and if nodes share one, the node that started last has it.

Anchors are numbered by how many names there are at that point. A name that is used again gets a
new number but is not counted again, so the next new name shares that number. A document that
reuses a name before introducing another therefore moves its aliases to the later node.
-/

namespace PacketFilter.Yaml

/-- A scalar: its text, how it was written, and its tag. -/
structure Scalar where
  text : Text
  style : Style
  tag : Option Text := none
  deriving DecidableEq, Repr

inductive Node where
  | scalar (s : Scalar)
  | sequence (items : List Node)
  | mapping (entries : List (Node × Node))
  /-- Stands for the node of an anchor. -/
  | alias (anchor : Nat)

namespace Node

/-- A place where a node could be but nothing is written. -/
def empty : Node := scalar ⟨[], .plain, none⟩

end Node

/-- A node with an anchor, and how many anchored nodes started before it. -/
structure Anchored where
  anchor : Nat
  start : Nat
  node : Node

structure Document where
  root : Node
  anchored : List Anchored := []

namespace Document

def find? (d : Document) (anchor : Nat) : Option Node :=
  let all := d.anchored.filter (·.anchor == anchor)
  let latest := all.foldl (fun n a ↦ max n a.start) 0
  (all.find? (·.start == latest)).map Anchored.node

/-- The node that a node stands for. -/
def resolve (d : Document) : Node → Node
  | .alias anchor => (d.find? anchor).getD .empty
  | n => n

end Document
end PacketFilter.Yaml
