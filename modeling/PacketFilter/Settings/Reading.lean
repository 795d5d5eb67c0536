import PacketFilter.Settings.Basic
import PacketFilter.Yaml.Parser
import PacketFilter.Yaml.Resolve

/-!
# Reading settings

The settings file is a YAML mapping. A key that is not given leaves its setting at the default, a
key that is no setting is ignored, and one that is given twice makes the file fail.

What a setting wants decides how its scalar is read: a text is taken as it is written, even if it
looks like a number, while a number may only be written as one. Where a mapping or a sequence is
wanted, nothing at all stands for an empty one.
-/

namespace PacketFilter.Settings

open Yaml

/-! ## Values of documents -/

def nullTag : Text := "tag:yaml.org,2002:null"

def numberTag : Text := "tag:yaml.org,2002:int"

/-- Whether a node is a place where nothing is written. -/
def isNothing : Node → Bool
  | .scalar s => s.style = .plain && s.text = []
  | _ => false

/-- The text of a scalar. -/
def text? (d : Document) (n : Node) : Option Text :=
  match d.resolve n with
  | .scalar s => some s.text
  | _ => none

/-- A text or null. -/
def optionalText? (d : Document) (n : Node) : Option (Option Text) :=
  match d.resolve n with
  | .scalar s =>
    if s.style ≠ .plain then some (some s.text)
    else match s.tag with
      | none => some (if s.text = [] ∨ isNull s.text then none else some s.text)
      | some tag =>
        if tag ≠ nullTag then some (some s.text)
        else if isNull s.text then some none
        else none
  | _ => none

/-- A whole number of 64 bits. -/
def natural? (d : Document) (n : Node) : Option Nat :=
  match d.resolve n with
  | .scalar s =>
    if s.style = .plain ∨ (s.style = .literal ∧ s.tag = some numberTag) then
      Yaml.natural? (Bits.values 64) s.text
    else none
  | _ => none

/-- A sequence of texts. -/
def texts? (d : Document) (n : Node) : Option (List Text) :=
  match d.resolve n with
  | .sequence items => items.mapM (text? d)
  | n => if isNothing n then some [] else none

/-- The entries of a mapping whose keys are texts. -/
def entries? (d : Document) (n : Node) : Option (List (Text × Node)) :=
  match d.resolve n with
  | .mapping entries => entries.mapM fun (k, v) ↦ (text? d k).map fun key ↦ (key, v)
  | n => if isNothing n then some [] else none

/-- What stands under a key: read by `read`, the default if it is missing. -/
def field? {α : Type} (entries : List (Text × Node)) (key : Text) (default : α)
    (read : Node → Option α) : Option α :=
  match entries.filter (·.1 = key) with
  | [] => some default
  | [(_, n)] => read n
  | _ => none

/-! ## Settings -/

/-- When to block. -/
def readBlocking? (d : Document) (n : Node) : Option BlockPolicy := do
  let entries ← entries? d n
  let default : BlockPolicy := {}
  some
    { blockAfter := ← field? entries "block_after" default.blockAfter (natural? d)
      blockAllAfter := ← field? entries "block_all_after" default.blockAllAfter (natural? d)
      template := ← field? entries "template" default.template (text? d) }

def ofDocument? (d : Document) : Option Settings := do
  let entries ← entries? d d.root
  let default : Settings := {}
  some
    { templateDirs := ← field? entries "template_dirs" default.templateDirs (texts? d)
      genericTemplate := ← field? entries "generic_template" default.genericTemplate (text? d)
      servicesFile := ← field? entries "services_file" default.servicesFile (text? d)
      baseDir := ← field? entries "base_dir" default.baseDir (text? d)
      patternsDir := ← field? entries "patterns_dir" default.patternsDir (text? d)
      loginFile := ← field? entries "wtmp_file" default.loginFile (text? d)
      device := ← field? entries "device" default.device (optionalText? d)
      blocking := ← field? entries "blacklist" default.blocking (readBlocking? d) }

def parse? (t : Text) : Option Settings := (Yaml.parse? t).bind ofDocument?

def load (t : Tree) (p : Path) : Except Failure Settings := do
  let content ← (t.readText p).mapError fun cause ↦
    (Failure.ofFile cause).within ("Failed to read config file: " ++ Text.quotedPath p)
  match parse? content with
  | none => .error ⟨"Failed to parse config file: " ++ Text.quotedPath p, []⟩
  | some s => (check s).map fun _ ↦ s

/-- The settings of a file, or the defaults if it does not exist. -/
def loadOrDefault (t : Tree) (p : Path) : Except Failure Settings :=
  if t.present p then load t p else .ok {}

end PacketFilter.Settings
