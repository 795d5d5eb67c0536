import PacketFilter.Generator.Basic
import PacketFilter.Settings.Basic

/-!
# Commands

What the program can be asked for on its command line, and the ways in which a command line can be
refused.
-/

namespace PacketFilter

/-- A command. Paths and names that are missing come from the settings. -/
inductive Command where
  /-- Generates templates, or removes those that were generated. -/
  | makeRules (action : Generator.Action) (output servicesFile : Path)
  /-- Prints the commands of one rule. -/
  | render (name : Text) (direction : Direction) (address device : Option Text) (json : Bool)
  /-- Prints the firewall script. -/
  | generate (base : Option Path)
  /-- Looks for signatures in logs, and prints what to block. -/
  | scan (patterns : Option Path) (json : Bool) (logs : List Path)
  /-- Prints the login history, or rules for its hosts. -/
  | wtmp (file : Option Path) (json allowing : Bool)
  | version
  deriving DecidableEq, Repr

/-- A command with the options that every command has. -/
structure Invocation where
  command : Command
  /-- The settings file. -/
  settingsFile : Path
  /-- Show errors only. -/
  quiet : Bool
  /-- Show what is being done. -/
  verbose : Bool
  deriving DecidableEq, Repr

/-- Why a command line asks for no command. -/
inductive UsageError where
  /-- An argument is given twice, or together with one that it excludes. -/
  | conflict
  | wantsHelp
  /-- Nothing is given at all. -/
  | givesNothing
  /-- The version is asked for, of the program under the given name. -/
  | wantsVersion (program : Text)
  | unknownCommand
  | unknownArgument
  /-- An argument has no value or one that it does not take. -/
  | badValue
  /-- A value is given to an argument that takes none. -/
  | needlessValue
  | missingArgument
  | missingCommand
  deriving DecidableEq, Repr

namespace UsageError

def name : UsageError → Text
  | conflict => "ArgumentConflict"
  | wantsHelp => "DisplayHelp"
  | givesNothing => "DisplayHelpOnMissingArgumentOrSubcommand"
  | wantsVersion _ => "DisplayVersion"
  | unknownCommand => "InvalidSubcommand"
  | unknownArgument => "UnknownArgument"
  | badValue => "InvalidValue"
  | needlessValue => "TooManyValues"
  | missingArgument => "MissingRequiredArgument"
  | missingCommand => "MissingSubcommand"

end UsageError

def programName : Text := "hostwall"

def programVersion : Text := "0.1.0"

/-- The line that names a program and its version. -/
def versionLine (program : Text) : Text := program ++ " " ++ programVersion

end PacketFilter
