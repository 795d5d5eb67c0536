import PacketFilter.Rule.Identifier
import PacketFilter.Template.Render

/-!
# Compiling rules

The engine turns rules into commands. It finds a template for the rule's identifier on its search
path, renders it, and reports which template it took.

Templates are searched name by name, and each name directory by directory, so that an identifier's
own template in a later directory goes before the generic one in an earlier. A name that would
leave its directory, or is hidden, finds nothing.
-/

namespace PacketFilter

structure Rule where
  identifier : Identifier
  direction : Direction
  address : Option Range := none
  /-- In place of the direction's chain. -/
  chain : Option Text := none
  /-- In place of the engine's device. -/
  device : Option Text := none
  /-- In place of the identifier's ports. -/
  ports : Option (List Port) := none
  deriving DecidableEq

structure CompiledRule where
  identifier : Identifier
  direction : Direction
  address : Option Range
  template : Path
  commands : List Text
  deriving DecidableEq

/-- What rules are compiled with. -/
structure Engine where
  /-- Where templates are searched, in order. -/
  templateDirs : List Path := []
  services : Registry := {}
  /-- The template of services that have none of their own. -/
  genericTemplate : Text := "accept"
  /-- The network interface of rules that name none. -/
  device : Option Text := none
  deriving DecidableEq

namespace Engine

/-- What a raw name refers to. -/
def classify (e : Engine) (raw : Text) : Identifier := .classify e.services raw

/-- The ports an identifier stands for. -/
def portsOf (e : Engine) (i : Identifier) : List Port := i.ports e.services

/-! ## Finding templates -/

/-- The file names of templates to try, the identifier's own first. -/
def candidates (e : Engine) (i : Identifier) (d : Direction) : List Text :=
  match i with
  | .serviceName name => [d.templateName name, d.templateName e.genericTemplate]
  | _ => [d.templateName i.name]

/-- Whether a name is that of a single file that is not hidden. -/
def isPlainName (name : Text) : Bool :=
  name ≠ [] && name.head? ≠ some '.' && !name.any fun c ↦ c == '/' || c == '\x00'

/-- The first file of a name on the search path. -/
def findOne? (e : Engine) (t : Tree) (name : Text) : Option Path :=
  if isPlainName name then (e.templateDirs.map (Path.join · name)).find? t.isFile else none

/-- The first file of the first name that has one. -/
def find (e : Engine) (t : Tree) (names : List Text) : Except Error Path :=
  match names.findSome? (e.findOne? t) with
  | some p => .ok p
  | none => .error (.noTemplate names)

/-- The template file of an identifier. -/
def locate (e : Engine) (t : Tree) (i : Identifier) (d : Direction) : Except Error Path :=
  e.find t (e.candidates i d)

/-- The first template of several names. -/
def findTemplate (e : Engine) (t : Tree) (names : List Text) : Except Error Template := do
  Template.load t (← e.find t names)

/-! ## Compiling -/

/-- What a template has to know of a rule. -/
def context (e : Engine) (r : Rule) : Template.Context where
  direction := r.direction
  chain := r.chain.getD r.direction.chain
  address := r.address
  device := r.device.or e.device
  ports := r.ports.getD (e.portsOf r.identifier)

/-- A rule compiled with a given template. -/
def compileWith (e : Engine) (r : Rule) (t : Template) : CompiledRule where
  identifier := r.identifier
  direction := r.direction
  address := r.address
  template := t.path
  commands := t.render (e.context r)

/-- A rule compiled with the template found for it. -/
def compile (e : Engine) (t : Tree) (r : Rule) : Except Error CompiledRule := do
  let p ← e.locate t r.identifier r.direction
  return e.compileWith r (← Template.load t p)

/-- The rule of a raw name, compiled. -/
def compileNamed (e : Engine) (t : Tree) (raw : Text) (d : Direction) (address : Option Range) :
    Except Error CompiledRule :=
  e.compile t { identifier := e.classify raw, direction := d, address := address }

end Engine
end PacketFilter
