import PacketFilter.Text.Basic

/-!
# JSON values

Reports for other programs are JSON, laid out with one member a line. The order of members is that
in which they are given.
-/

namespace PacketFilter

inductive Json where
  | null
  | bool (b : Bool)
  /-- A number with `places` digits behind its point. -/
  | number (digits : Int) (places : Nat)
  | text (t : Text)
  | array (items : List Json)
  | object (members : List (Text × Json))
  deriving Inhabited

namespace Json

def int (n : Int) : Json := number n 0

/-- A whole number from zero on. -/
def nat (n : Nat) : Json := int n

def texts (ts : List Text) : Json := array (ts.map text)

/-- The value, or null. -/
def optional {α : Type} (f : α → Json) : Option α → Json
  | some a => f a
  | none => null

/-! ## Printing -/

/-- A character inside quotes. -/
def escape (c : Char) : Text :=
  if c = '"' then "\\\""
  else if c = '\\' then "\\\\"
  else if c = '\x08' then "\\b"
  else if c = '\x0C' then "\\f"
  else if c = '\n' then "\\n"
  else if c = '\r' then "\\r"
  else if c = '\t' then "\\t"
  else if c.toNat < 0x20 then "\\u" ++ Text.padZero 4 (Text.hex c.toNat)
  else [c]

def quote (t : Text) : Text := '"' :: t.flatMap escape ++ ['"']

def printInt : Int → Text
  | .ofNat n => Text.decimal n
  | .negSucc n => '-' :: Text.decimal (n + 1)

/-- A number with `places` digits behind its point. -/
def printNumber (n : Int) (places : Nat) : Text :=
  if places = 0 then printInt n
  else
    let digits := Text.padZero (places + 1) (Text.decimal n.natAbs)
    let whole := digits.take (digits.length - places)
    (if n < 0 then ['-'] else []) ++ whole ++ "." ++ digits.drop whole.length

/-- The start of a line at a given depth. -/
def line (depth : Nat) : Text := '\n' :: List.replicate (2 * depth) ' '

mutual

/-- A value whose lines are inside `depth` others. -/
def print (depth : Nat) : Json → Text
  | null => "null"
  | bool true => "true"
  | bool false => "false"
  | number n places => printNumber n places
  | text t => quote t
  | array [] => "[]"
  | array (v :: vs) => '[' :: printItems depth (v :: vs) ++ line depth ++ [']']
  | object [] => "\x7b\x7d"
  | object (m :: ms) => '\x7b' :: printMembers depth (m :: ms) ++ line depth ++ ['\x7d']

/-- The items of an array, each on its own line. -/
def printItems (depth : Nat) : List Json → Text
  | [] => []
  | [v] => line (depth + 1) ++ print (depth + 1) v
  | v :: vs => line (depth + 1) ++ print (depth + 1) v ++ "," ++ printItems depth vs

/-- The members of an object, each on its own line. -/
def printMembers (depth : Nat) : List (Text × Json) → Text
  | [] => []
  | [(k, v)] => line (depth + 1) ++ quote k ++ ": " ++ print (depth + 1) v
  | (k, v) :: ms =>
    line (depth + 1) ++ quote k ++ ": " ++ print (depth + 1) v ++ "," ++ printMembers depth ms

end

/-! ## Access -/

def member? (name : Text) : List (Text × Json) → Option Json
  | [] => none
  | (k, v) :: ms => if k = name then some v else member? name ms

end Json
end PacketFilter
