import PacketFilter.Text.Basic

/-!
# Positions in a YAML text

What a character means in YAML depends on the column it stands in and on what is around it. A
`Cursor` is what is left to read together with the line and column of its first character.

A line ends at a line feed, a carriage return, both together, or one of the three further breaks
that Unicode has. When a break is part of a scalar the first four are read as a line feed, and the
other two as themselves.
-/

namespace PacketFilter.Yaml

/-! ## Characters -/

/-- Space and tab. -/
def isSpacing (c : Char) : Bool := c == ' ' || c == '\t'

/-- The characters that end a line. -/
def isBreak (c : Char) : Bool :=
  c == '\r' || c == '\n' || c == '\u0085' || c == '\u2028' || c == '\u2029'

/-- Whether a character, or the end of the text, ends a word. -/
def endsWord : Option Char → Bool
  | none => true
  | some c => isSpacing c || isBreak c

/-- Whether a character, or the end of the text, ends a line. -/
def endsLine : Option Char → Bool
  | none => true
  | some c => isBreak c

/-- The characters of names: ASCII letters, digits, `_` and `-`. -/
def isNameChar (c : Char) : Bool := Text.isAlphanumeric c || c == '_' || c == '-'

/-- The characters that a YAML text may contain. -/
def isAllowed (c : Char) : Bool :=
  let n := c.toNat
  n == 9 || n == 10 || n == 13 || (0x20 ≤ n && n ≤ 0x7E) || n == 0x85 ||
    (0xA0 ≤ n && n ≤ 0xFFFD) || 0x10000 ≤ n

/-! ## Positions -/

/-- What is left of a text, and where it starts. -/
structure Cursor where
  ahead : Text
  /-- The number of characters before. -/
  index : Nat := 0
  line : Nat := 0
  column : Nat := 0
  deriving DecidableEq, Repr

namespace Cursor

def head? (c : Cursor) : Option Char := c.ahead.head?

def second? (c : Cursor) : Option Char := c.ahead.tail.head?

/-- The position `n` characters further on the same line. -/
def advance (c : Cursor) (n : Nat) : Cursor :=
  { c with ahead := c.ahead.drop n, index := c.index + n, column := c.column + n }

/-- The start of the next line, behind a break of `n` characters. -/
def nextLine (c : Cursor) (n : Nat) : Cursor :=
  { ahead := c.ahead.drop n, index := c.index + n, line := c.line + 1, column := 0 }

/-- A line break as part of a scalar, and the position behind it. -/
def readBreak (c : Cursor) : Text × Cursor :=
  match c.ahead with
  | '\r' :: '\n' :: _ => ("\n", c.nextLine 2)
  | '\u2028' :: _ => (['\u2028'], c.nextLine 1)
  | '\u2029' :: _ => (['\u2029'], c.nextLine 1)
  | a :: _ => if isBreak a then ("\n", c.nextLine 1) else ([], c)
  | [] => ([], c)

/-- The characters up to the first that `p` does not accept, and the position behind them. They
have to be on one line. -/
def span (p : Char → Bool) (c : Cursor) : Text × Cursor :=
  let run := c.ahead.takeWhile p
  (run, c.advance run.length)

/-- The position behind the characters that `p` accepts. -/
def skipWhile (p : Char → Bool) (c : Cursor) : Cursor := (c.span p).2

def toLineEnd (c : Cursor) : Cursor := c.skipWhile fun a ↦ !isBreak a

/-- Whether a mark of three characters that bounds a document stands here. -/
def isAtMark (mark : Char) (c : Cursor) : Bool :=
  c.column == 0 &&
    match c.ahead with
    | x :: y :: z :: rest => x == mark && y == mark && z == mark && endsWord rest.head?
    | _ => false

/-- Whether a document starts or ends here. -/
def isAtBoundary (c : Cursor) : Bool := c.isAtMark '-' || c.isAtMark '.'

end Cursor
end PacketFilter.Yaml
