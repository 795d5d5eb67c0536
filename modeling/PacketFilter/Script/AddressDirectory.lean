import PacketFilter.Script.RuleDirectory

/-!
# Directories of addresses

A directory of addresses lists them by the names of its files; what the files hold is of no
interest. A name that ends in `.auto` was put there by a program and means the same address, and
hidden files are none. Every address is rendered through one template.
-/

namespace PacketFilter

/-- A directory of addresses and the template for them. -/
structure AddressDirectory where
  path : Path
  template : Text
  deriving DecidableEq, Repr

namespace AddressDirectory

/-- The addresses that are let in, listed in a directory. -/
def allowing (p : Path) : AddressDirectory := ⟨p, "accept"⟩

/-- The addresses that are kept out, listed in a directory. -/
def blocking (p : Path) : AddressDirectory := ⟨p, "reject"⟩

/-- The address that the name of a file stands for. -/
def addressOf (fileName : Text) : Text := (Text.beforeEnd? ".auto" fileName).getD fileName

/-- The addresses as written, in order and each once. -/
def addresses (d : AddressDirectory) (t : Tree) : Except Error (List Text) := do
  let names := (← t.fileNames d.path).filter fun n ↦ n.head? ≠ some '.'
  return Sorted.dedup (Text.sort (names.map addressOf))

/-- The commands for all addresses. Without a template, each leaves a comment. -/
def render (d : AddressDirectory) (e : Engine) (t : Tree) : Except Error (List Text) := do
  let addresses ← d.addresses t
  match e.findTemplate t [Direction.incoming.templateName d.template] with
  | .error cause =>
    return addresses.map fun a ↦
      Remark.ignoring .incoming d.template (some a) cause.message
  | .ok template =>
    let rule : Rule := { identifier := e.classify d.template, direction := .incoming }
    return addresses.flatMap fun a ↦ e.renderAddress template rule (some a)

end AddressDirectory
end PacketFilter
