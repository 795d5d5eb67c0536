import PacketFilter.Error
import PacketFilter.Text.Blank

/-!
# Directions of traffic

A rule is about incoming or about outgoing connections. The direction decides the chain it goes
to, whether its address is a source or a destination, and the ending of its template's name.
-/

namespace PacketFilter

/-- The direction of the connections a rule is about. -/
inductive Direction where
  | incoming
  | outgoing
  deriving DecidableEq, Repr

namespace Direction

/-- Both directions, in the order in which their rules are written. -/
def all : List Direction := [incoming, outgoing]

def name : Direction → Text
  | incoming => "incoming"
  | outgoing => "outgoing"

/-- The built-in chain for the direction. -/
def chain : Direction → Text
  | incoming => "INPUT"
  | outgoing => "OUTPUT"

/-- The direction a word names, in letters of either case and with blanks around it. -/
def parse (word : Text) : Except Error Direction :=
  let w := Text.lower (Text.trim word)
  if w = "incoming" then .ok incoming
  else if w = "outgoing" then .ok outgoing
  else .error (.badDirection word)

/-- The file name of a template for the direction. -/
def templateName (d : Direction) (name : Text) : Text := name ++ "." ++ d.name

end Direction
end PacketFilter
