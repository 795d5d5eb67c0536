import PacketFilter.Error

/-!
# Failures of a command

When a command fails, the user is told what it was doing and why that failed, each cause on its own
line. A failure is that list of reasons, the outermost first.
-/

namespace PacketFilter

/-- Why a command failed: what it was doing, and the causes in turn. -/
structure Failure where
  message : Text
  causes : List Text := []
  deriving DecidableEq, Repr

namespace Failure

/-- The failure of an operation. What was wrong with a file is a cause of its own. -/
def ofError (e : Error) : Failure :=
  match e with
  | .file _ cause => ⟨e.message, [cause.message]⟩
  | _ => ⟨e.message, []⟩

/-- The failure to read or write a file. -/
def ofFile (cause : FileError) : Failure := ⟨cause.message, []⟩

/-- The failure as the cause of another. -/
def within (f : Failure) (message : Text) : Failure := ⟨message, f.message :: f.causes⟩

/-- All reasons on one line. -/
def inline (f : Failure) : Text := Text.joinWith ": " (f.message :: f.causes)

/-- Lines after the first are indented by four. -/
private def indented (t : Text) : Text := Text.replace "\n" "\n    " t

/-- A cause with its number in front. -/
private def numbered (n : Nat) (t : Text) : Text :=
  let lead := Text.decimal n
  List.replicate (5 - lead.length) ' ' ++ lead ++ ": " ++ Text.replace "\n" "\n       " t

/-- The causes, each on its own line and numbered if there are several. -/
private def causeLines (causes : List Text) : List Text :=
  match causes with
  | [t] => ["    " ++ indented t]
  | ts => (List.range ts.length).zip ts |>.map fun (n, t) ↦ numbered n t

/-- The report on several lines. -/
def report (f : Failure) : Text :=
  if f.causes = [] then f.message
  else f.message ++ "\n\nCaused by:\n" ++ Text.joinWith "\n" (causeLines f.causes)

end Failure
end PacketFilter
