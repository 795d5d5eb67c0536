import PacketFilter.Files.Path
import PacketFilter.Text.Blank
import PacketFilter.Text.Utf8

/-!
# Checking names

Names that come from settings or from the command line end up in commands and in paths. An
interface name has to be one that the kernel would take, a rule's name has to be a single file name
that is not hidden, and templates are only searched in directories given by absolute paths.

Each check answers with the reason for which it refuses the name.
-/

namespace PacketFilter.Check

/-- The longest interface name, in bytes. -/
def longestInterface : Nat := 15

def isInterfaceChar (c : Char) : Bool := Text.isAlphanumeric c || c ∈ "-_.@:".toList

def interface (name : Text) : Except Text Unit :=
  if name = [] then .error "Interface name cannot be empty"
  else if longestInterface < Utf8.size name then
    .error ("Interface name '" ++ name ++ "' is longer than " ++ Text.decimal longestInterface ++
      " characters")
  else if name = ['.'] ∨ name = ['.', '.'] then .error ("Invalid interface name '" ++ name ++ "'")
  else if !name.all isInterfaceChar then
    .error ("Invalid interface name '" ++ name ++
      "'. Only letters, digits and -_.@: allowed")
  else .ok ()

def ruleName (name : Text) : Except Text Unit :=
  if name = [] then .error "Rule name cannot be empty"
  else if name.head? = some '.' ∨ '/' ∈ name ∨ '\x00' ∈ name then
    .error ("Invalid rule name '" ++ name ++ "'")
  else if name.any Text.isBlank then
    .error ("Rule name '" ++ name ++ "' cannot contain whitespace")
  else .ok ()

/-- Checks a directory in which templates are searched. -/
def templateDir (dir : Path) : Except Text Unit :=
  if dir = [] then .error "Template directory cannot be empty"
  else if !Path.isAbsolute dir then
    .error ("Template directory must be an absolute path: " ++ dir)
  else .ok ()

end PacketFilter.Check
