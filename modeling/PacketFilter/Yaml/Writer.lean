import PacketFilter.Yaml.Scalar
import PacketFilter.Yaml.Resolve

/-!
# Writing scalars

A text is written in the plainest style that can be read back. A text with line feeds is laid out
as a literal block and any other stands on its line without quotes, unless

* it would be taken for something else, by its first character, by a colon or number sign inside
  it, or because it looks like a number: then it is put in single quotes;
* it has characters that cannot stand for themselves, or spaces where a reader would drop them:
  then it is put in double quotes, with escapes.
-/

namespace PacketFilter.Yaml

/-! ## What is in a text -/

/-- The characters that can stand for themselves. -/
def isVisible (c : Char) : Bool :=
  let n := c.toNat
  n == 0x0A || (0x20 ≤ n && n ≤ 0x7E) || (0xA0 ≤ n && n ≤ 0xFFFD && n != 0xFEFF) || 0x10000 ≤ n

/-- Whether `p` accepts some character of a text and `q` the one after it. -/
def hasPair (p q : Char → Bool) : Text → Bool
  | a :: b :: t => (p a && q b) || hasPair p q (b :: t)
  | _ => false

/-- Whether a space follows a break. -/
def hasBreakSpace (t : Text) : Bool := hasPair isBreak (· == ' ') t

/-- Whether a break follows a space. -/
def hasSpaceBreak (t : Text) : Bool := hasPair (· == ' ') isBreak t

/-- Whether a text starts with something that means more than itself. -/
def startsWithSign : Text → Bool
  | [] => false
  | c :: t =>
    c ∈ "#,[]\x7b\x7d&*!|>'\"%@\x60".toList ||
      ((c == '-' || c == '?' || c == ':') && endsWord t.head?)

/-- Whether a colon that ends a word, or a number sign that starts one, is inside a text. -/
def hasInnerSign (t : Text) : Bool :=
  let endsColon := t.tail.getLast? == some ':'
  let colon := hasPair (· == ':') (fun c ↦ endsWord (some c)) t.tail
  let number := hasPair (fun c ↦ endsWord (some c)) (· == '#') t
  endsColon || colon || number

/-- Whether a text starts like the mark of a document. -/
def startsWithMark (t : Text) : Bool := Text.startsWith t "---" || Text.startsWith t "..."

/-- Whether a text may be put in single quotes. -/
def allowsQuotes (t : Text) : Bool := t.all isVisible && !hasSpaceBreak t && !hasBreakSpace t

/-- Whether a text may be laid out as a block. -/
def allowsBlock (t : Text) : Bool :=
  t ≠ [] && t.all isVisible && !hasSpaceBreak t && t.getLast? != some ' '

/-- Whether a text may stand for itself. -/
def allowsPlain (t : Text) : Bool :=
  allowsQuotes t && !t.any isBreak && t.head? != some ' ' && t.getLast? != some ' ' &&
    !startsWithMark t && !startsWithSign t && !hasInnerSign t

def styleOf (t : Text) : Style :=
  if '\n' ∈ t then if allowsBlock t then .literal else .doubleQuoted
  else if !isAmbiguous t && allowsPlain t then .plain
  else if allowsQuotes t then .singleQuoted
  else .doubleQuoted

/-! ## Styles -/

def indentation (indent : Nat) : Text := List.replicate indent ' '

/-- The lines of a text with every character that follows a break indented. `fresh` says whether a
break comes before. -/
def indentLines (indent : Nat) (write : Char → Text) : (fresh : Bool) → Text → Text
  | _, [] => []
  | fresh, c :: t =>
    if isBreak c then c :: indentLines indent write true t
    else (if fresh then indentation indent else []) ++ write c ++ indentLines indent write false t

/-- A text in single quotes. A quote inside it is doubled. -/
def singleQuoted (indent : Nat) (t : Text) : Text :=
  let body := indentLines indent (fun c ↦ if c = '\'' then ['\'', '\''] else [c]) false t
  let closing := if t.getLast?.any isBreak then indentation indent else []
  '\'' :: body ++ closing ++ ['\'']

/-- An upper-case hexadecimal numeral of a given number of digits. -/
def hexDigits (width n : Nat) : Text := Text.padZero width ((Text.hex n).map Char.toUpper)

def escape (c : Char) : Text :=
  if c = '\x00' then "\\0"
  else if c = '\x07' then "\\a"
  else if c = '\x08' then "\\b"
  else if c = '\t' then "\\t"
  else if c = '\n' then "\\n"
  else if c = '\x0B' then "\\v"
  else if c = '\x0C' then "\\f"
  else if c = '\r' then "\\r"
  else if c = '\x1B' then "\\e"
  else if c = '"' then "\\\""
  else if c = '\\' then "\\\\"
  else if c = '\u0085' then "\\N"
  else if c = '\u00A0' then "\\_"
  else if c = '\u2028' then "\\L"
  else if c = '\u2029' then "\\P"
  else if c.toNat ≤ 0xFF then "\\x" ++ hexDigits 2 c.toNat
  else if c.toNat ≤ 0xFFFF then "\\u" ++ hexDigits 4 c.toNat
  else "\\U" ++ hexDigits 8 c.toNat

/-- A text in double quotes. -/
def doubleQuoted (t : Text) : Text :=
  let body := t.flatMap fun c ↦
    if !isVisible c || isBreak c || c == '"' || c == '\\' then escape c else [c]
  '"' :: body ++ ['"']

/-- What a reader has to know of a block before its first line: its indentation if the text starts
with a space or a break, and what becomes of the breaks at its end. -/
def blockHints (t : Text) : Text :=
  let indent : Text := if t.head?.any fun c ↦ c == ' ' || isBreak c then ['2'] else []
  let chomping : Text :=
    match t.reverse with
    | [] => ['-']
    | [c] => if isBreak c then ['+'] else ['-']
    | c :: d :: _ => if !isBreak c then ['-'] else if isBreak d then ['+'] else []
  indent ++ chomping

/-- A text laid out as a literal block. -/
def literal (indent : Nat) (t : Text) : Text :=
  '|' :: blockHints t ++ '\n' :: indentLines indent ([·]) true t

/-- A text in its style, with lines inside it indented, up to the end of its last line. -/
def writeScalar (indent : Nat) (t : Text) : Text :=
  match styleOf t with
  | .plain => t ++ ['\n']
  | .singleQuoted => singleQuoted indent t ++ ['\n']
  | .literal | .folded =>
    if t.getLast?.any isBreak then literal indent t else literal indent t ++ ['\n']
  | .doubleQuoted => doubleQuoted t ++ ['\n']

/-! ## Mappings and sequences -/

/-- What stands under a key. -/
inductive Value where
  | null
  | number (n : Nat)
  | text (t : Text)
  | texts (ts : List Text)
  deriving DecidableEq, Repr

/-- An entry of a mapping that is indented. Items of a sequence stand at the column of the key. -/
def writeEntry (indent : Nat) (key : Text) (v : Value) : Text :=
  let start : Text := indentation indent ++ key ++ ":"
  match v with
  | .null => start ++ " null\n"
  | .number n => start ++ " " ++ Text.decimal n ++ "\n"
  | .text t => start ++ " " ++ writeScalar (indent + 2) t
  | .texts [] => start ++ " []\n"
  | .texts ts =>
    start ++ "\n" ++ ts.flatMap fun t ↦
      (indentation indent ++ ("- " : Text)) ++ writeScalar (indent + 2) t

def writeMapping (indent : Nat) (entries : List (Text × Value)) : Text :=
  entries.flatMap fun (key, v) ↦ writeEntry indent key v

end PacketFilter.Yaml
