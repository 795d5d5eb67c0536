import PacketFilter.Files.Path
import PacketFilter.Text.Quoted

/-!
# What can go wrong

Every failure of reading, finding or writing a rule is one of the causes below. Their wording is
in `FileError.message` and `Error.message` alone, so that a rule that is left out, a run that
stops and an answer to a query give the same reason in the same words.

A text that comes from a file is quoted wherever a message repeats it; names of templates and
paths are shown as they are.
-/

namespace PacketFilter

/-- Why an operation on a file failed. -/
inductive FileError where
  | notFound
  | notDirectory
  | isDirectory
  | alreadyExists
  | nameTooLong
  /-- The path holds a NUL, which ends paths. -/
  | nulInPath
  | notUtf8
  | denied
  deriving DecidableEq, Repr

namespace FileError

def message : FileError → Text
  | notFound => "No such file or directory (os error 2)"
  | notDirectory => "Not a directory (os error 20)"
  | isDirectory => "Is a directory (os error 21)"
  | alreadyExists => "File exists (os error 17)"
  | nameTooLong => "File name too long (os error 36)"
  | nulInPath => "file name contained an unexpected NUL byte"
  | notUtf8 => "stream did not contain valid UTF-8"
  | denied => "denied"

end FileError

/-- Why a rule, a list of rules or a run of the compiler failed. -/
inductive Error where
  /-- The text is no address and no range. -/
  | malformedAddress (text : Text)
  /-- None of the templates exists. -/
  | noTemplate (names : List Text)
  /-- A line of a signature file is not in its format. -/
  | badLine (path : Path) (line : Nat) (reason : Text)
  /-- The bytes of a login history are no whole number of records. -/
  | brokenRecords (path : Path) (length recordSize : Nat)
  /-- An operation on a file failed. -/
  | file (path : Path) (cause : FileError)
  /-- The text names no direction of traffic. -/
  | badDirection (text : Text)
  deriving DecidableEq, Repr

namespace Error

def message : Error → Text
  | malformedAddress t => "Malformed address: " ++ Text.quoted t
  | noTemplate names => "Could not find any templates called " ++ Text.joinWith " or " names
  | badLine path line reason =>
    "Parse error in " ++ path ++ ":" ++ Text.decimal line ++ ": " ++ reason
  | brokenRecords path length recordSize =>
    "Corrupt record stream in " ++ path ++ ": " ++ Text.decimal length ++
      " bytes is not a multiple of " ++ Text.decimal recordSize
  | file path cause => "I/O error on " ++ path ++ ": " ++ cause.message
  | badDirection t =>
    "Bad direction " ++ Text.quoted t ++ " (expected incoming or outgoing)"

end Error
end PacketFilter
