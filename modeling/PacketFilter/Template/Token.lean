import PacketFilter.Text.Basic

/-!
# Tokens and segments

A line of a template is literal text with tokens in it, each written `$NAME`. The name is the
longest run of upper-case letters, digits and underscores after the dollar sign; unless it is one
of the eight names, the dollar sign and what follows are literal, such as a variable of the shell
that will run the command.

Dollar signs cut a line into parts that can be looked at one by one, because no name contains a
dollar sign: each part after one starts with a token or it does not. `segments` puts the parts
together again with no empty and no adjacent literal segments, so that a line has one reading.
-/

namespace PacketFilter.Template

/-- What a template leaves open. -/
inductive Token where
  /-- The packet filter command of the address family. -/
  | iptables
  | chain
  /-- The option for the network interface. -/
  | dev
  /-- The address as a source. -/
  | src
  /-- The address as a destination. -/
  | dest
  /-- The address as the direction demands: the source of incoming traffic, the destination of
  outgoing. -/
  | address
  | port
  | proto
  deriving DecidableEq, Repr

namespace Token

def all : List Token := [iptables, chain, dev, src, dest, address, port, proto]

/-- The name after the dollar sign. -/
def name : Token → Text
  | iptables => "IPTABLES"
  | chain => "CHAIN"
  | dev => "DEV"
  | src => "SRC"
  | dest => "DEST"
  | address => "ADDRESS"
  | port => "PORT"
  | proto => "PROTO"

def ofName? (t : Text) : Option Token := all.find? fun k ↦ k.name = t

/-- The token as templates write it. -/
def print (k : Token) : Text := '$' :: k.name

/-- Whether the token stands for a part of a port. -/
def isPort : Token → Bool
  | port | proto => true
  | _ => false

def isNameChar (c : Char) : Bool := Text.isUpper c || Text.isDigit c || c == '_'

end Token

/-- A stretch of a template line. -/
inductive Segment where
  | text (t : Text)
  | token (k : Token)
  deriving DecidableEq, Repr

namespace Segment

/-- The segment as templates write it. -/
def print : Segment → Text
  | text t => t
  | token k => k.print

/-- What a part after a dollar sign is. -/
def ofPart (part : Text) : List Segment :=
  let name := part.takeWhile Token.isNameChar
  match Token.ofName? name with
  | some k => [token k, text (part.drop name.length)]
  | none => [text ('$' :: part)]

/-- A segment in front of others, without leaving empty or adjacent literal ones. -/
def push : Segment → List Segment → List Segment
  | text [], rest => rest
  | text t, text u :: rest => text (t ++ u) :: rest
  | s, rest => s :: rest

end Segment

def segments (line : Text) : List Segment :=
  match Text.splitBy (· = '$') line with
  | [] => []
  | first :: parts => (.text first :: parts.flatMap Segment.ofPart).foldr Segment.push []

end PacketFilter.Template
