import PacketFilter.Settings.Basic
import PacketFilter.Yaml.Writer

/-!
# Writing settings

Every setting is written, in a fixed order. The file is put in place as a whole, so that a reader
never sees half of it: it is written next to its place and then renamed.
-/

namespace PacketFilter.Settings

open Yaml

/-- When to block, as the entries of a mapping. -/
def blockingEntries (b : BlockPolicy) : List (Text × Value) :=
  [("block_after", .number b.blockAfter), ("block_all_after", .number b.blockAllAfter),
    ("template", .text b.template)]

/-- Where everything is found, as the entries of a mapping. -/
def placeEntries (s : Settings) : List (Text × Value) :=
  [("template_dirs", .texts s.templateDirs), ("generic_template", .text s.genericTemplate),
    ("services_file", .text s.servicesFile), ("base_dir", .text s.baseDir),
    ("patterns_dir", .text s.patternsDir), ("wtmp_file", .text s.loginFile),
    ("device", match s.device with
      | some device => .text device
      | none => .null)]

def print (s : Settings) : Text :=
  writeMapping 0 s.placeEntries ++ ("blacklist:\n" : Text) ++
    writeMapping 2 (blockingEntries s.blocking)

def directoryOf (p : Path) : Path :=
  match Path.parent? p with
  | some [] => "."
  | some dir => dir
  | none => "/etc/hostwall"

/-- The tree with settings written to a file. -/
def save (s : Settings) (t : Tree) (p : Path) : Except Failure Tree :=
  if !t.isDirectory (directoryOf p) then
    .error ⟨"Failed to create temporary file for config", []⟩
  else
    (t.write p (Utf8.encode s.print)).mapError fun cause ↦
      (Failure.ofFile cause).within ("Failed to persist config file: " ++ Text.quotedPath p)

end PacketFilter.Settings
