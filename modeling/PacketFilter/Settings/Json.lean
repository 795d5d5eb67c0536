import PacketFilter.Json.Basic
import PacketFilter.Settings.Basic

/-!
# Settings as JSON

Settings can be exchanged as a JSON object of the same names as in the settings file. A member that
is missing leaves its setting at the default, and a member that is no setting is ignored. An array
gives the settings by their place instead.
-/

namespace PacketFilter.Settings

def jsonText? : Json → Option Text
  | .text t => some t
  | _ => none

/-- A text or null. -/
def jsonOptionalText? : Json → Option (Option Text)
  | .null => some none
  | .text t => some (some t)
  | _ => none

/-- A whole number of 64 bits. -/
def jsonNatural? : Json → Option Nat
  | .number (.ofNat n) 0 => if n < Bits.values 64 then some n else none
  | _ => none

def jsonTexts? : Json → Option (List Text)
  | .array items => items.mapM jsonText?
  | _ => none

/-- The members that an object or an array gives to settings of the given names. -/
def jsonMembers? (names : List Text) : Json → Option (List (Text × Json))
  | .object members => some members
  | .array items => if items.length ≤ names.length then some (names.zip items) else none
  | _ => none

/-- The value of a member: read by `read`, the default if it is missing. -/
def jsonField? {α : Type} (members : List (Text × Json)) (name : Text) (default : α)
    (read : Json → Option α) : Option α :=
  match Json.member? name members with
  | some v => read v
  | none => some default

/-- The names of settings that say when to block. -/
def blockingNames : List Text := ["block_after", "block_all_after", "template"]

def names : List Text :=
  ["template_dirs", "generic_template", "services_file", "base_dir", "patterns_dir", "wtmp_file",
    "device", "blacklist"]

/-- When to block. -/
def blockingOfJson? (v : Json) : Option BlockPolicy := do
  let members ← jsonMembers? blockingNames v
  let default : BlockPolicy := {}
  some
    { blockAfter := ← jsonField? members "block_after" default.blockAfter jsonNatural?
      blockAllAfter := ← jsonField? members "block_all_after" default.blockAllAfter jsonNatural?
      template := ← jsonField? members "template" default.template jsonText? }

def ofJson? (v : Json) : Option Settings := do
  let members ← jsonMembers? names v
  let default : Settings := {}
  some
    { templateDirs := ← jsonField? members "template_dirs" default.templateDirs jsonTexts?
      genericTemplate := ← jsonField? members "generic_template" default.genericTemplate jsonText?
      servicesFile := ← jsonField? members "services_file" default.servicesFile jsonText?
      baseDir := ← jsonField? members "base_dir" default.baseDir jsonText?
      patternsDir := ← jsonField? members "patterns_dir" default.patternsDir jsonText?
      loginFile := ← jsonField? members "wtmp_file" default.loginFile jsonText?
      device := ← jsonField? members "device" default.device jsonOptionalText?
      blocking := ← jsonField? members "blacklist" default.blocking blockingOfJson? }

/-- When to block, as a value. -/
def blockingToJson (b : BlockPolicy) : Json :=
  .object
    [("block_after", .nat b.blockAfter), ("block_all_after", .nat b.blockAllAfter),
      ("template", .text b.template)]

def toJson (s : Settings) : Json :=
  .object
    [("template_dirs", .texts s.templateDirs), ("generic_template", .text s.genericTemplate),
      ("services_file", .text s.servicesFile), ("base_dir", .text s.baseDir),
      ("patterns_dir", .text s.patternsDir), ("wtmp_file", .text s.loginFile),
      ("device", .optional .text s.device), ("blacklist", blockingToJson s.blocking)]

end PacketFilter.Settings
