import PacketFilter.Text.Utf8
import PacketFilter.Yaml.Scalar

/-!
# Tokens

A token is a sign, a scalar, or one of the marks that the layout stands for: where a collection
starts and ends that is written by indentation alone. This module has the tokens and the readers
for those that are longer than a sign and no scalars: anchors, tags and directives.
-/

namespace PacketFilter.Yaml

inductive Token where
  /-- The version of the language that a text is written in. -/
  | version (major minor : Nat)
  /-- What a handle of tags stands for. -/
  | handle (name expansion : Text)
  | documentStart
  | documentEnd
  | blockSequence
  | blockMapping
  | blockEnd
  | flowSequence
  | flowSequenceEnd
  | flowMapping
  | flowMappingEnd
  /-- The hyphen before an item. -/
  | item
  /-- The comma between entries. -/
  | comma
  /-- The place of a key, with or without a question mark. -/
  | key
  /-- The colon before a value. -/
  | value
  | anchor (name : Text)
  | alias (name : Text)
  | tag (handle suffix : Text)
  | scalar (text : Text) (style : Style)
  | streamEnd
  deriving DecidableEq, Repr

/-! ## Anchors and aliases -/

/-- Whether a character, or the end of the text, may follow a name. -/
def endsName (c : Option Char) : Bool :=
  endsWord c || c.any (· ∈ ['?', ':', ',', ']', '\x7d', '%', '@', '\x60'])

/-- The name behind the sign of an anchor or an alias. -/
def readName? (c : Cursor) : Option (Text × Cursor) :=
  let (name, c) := c.span isNameChar
  if name = [] ∨ !endsName c.head? then none else some (name, c)

/-! ## Tags -/

def isTagChar (verbatim : Bool) (c : Char) : Bool :=
  isNameChar c || c ∈ ";/?:@&=+$.%!~*'()".toList || (verbatim && c ∈ [',', '[', ']'])

/-- The byte of two hexadecimal digits. -/
def byteOf? (hi lo : Char) : Option UInt8 := do
  some (.ofNat ((← Text.digitValue? 16 hi) * 16 + (← Text.digitValue? 16 lo)))

/-- The bytes given by percent signs and digits that a text starts with, at most `most` of them. -/
def readBytes? : (most : Nat) → Text → Option Bytes
  | most + 1, '%' :: hi :: lo :: rest => do return (← byteOf? hi lo) :: (← readBytes? most rest)
  | 0, _ => some []
  | _ + 1, _ => none

/-- The number of bytes of the character that a byte starts. -/
def widthOf? (b : UInt8) : Option Nat :=
  if b < 0x80 then some 1
  else if 0xC0 ≤ b && b < 0xE0 then some 2
  else if 0xE0 ≤ b && b < 0xF0 then some 3
  else if 0xF0 ≤ b && b < 0xF8 then some 4
  else none

/-- A character given by its bytes, and how many there are. -/
def readEscapedBytes? (t : Text) : Option (Text × Nat) := do
  let first ← (← readBytes? 1 t).head?
  let width ← widthOf? first
  let text ← Utf8.decode? (← readBytes? width t)
  some (text, width)

/-- The characters of a tag, with those that are given by their bytes. -/
def readTagText? (verbatim : Bool) : (fuel : Nat) → Text → Cursor → Option (Text × Cursor)
  | 0, t, c => some (t, c)
  | fuel + 1, t, c =>
    match c.head? with
    | none => some (t, c)
    | some a =>
      if a = '%' then do
        let (text, width) ← readEscapedBytes? c.ahead
        readTagText? verbatim fuel (t ++ text) (c.advance (3 * width))
      else if isTagChar verbatim a then readTagText? verbatim fuel (t ++ [a]) (c.advance 1)
      else some (t, c)

/-- The text of a tag behind what has been read of it already. The whole must not be empty. -/
def readTagBody? (verbatim : Bool) (start : Text) (c : Cursor) : Option (Text × Cursor) := do
  let (t, rest) ← readTagText? verbatim c.ahead.length start.tail c
  if start = [] ∧ rest.index = c.index then none else some (t, rest)

/-- A handle: an exclamation mark, or a name between two. -/
def readHandle? (c : Cursor) : Option (Text × Cursor) :=
  if c.head? = some '!' then
    let (name, rest) := (c.advance 1).span isNameChar
    if rest.head? = some '!' then some ('!' :: name ++ ['!'], rest.advance 1)
    else some ('!' :: name, rest)
  else none

/-- The handle and the rest of a tag. -/
def readTag? (c : Cursor) : Option (Text × Text × Cursor) :=
  if c.second? = some '<' then do
    let (suffix, c) ← readTagBody? true [] (c.advance 2)
    if c.head? = some '>' then some ([], suffix, c.advance 1) else none
  else do
    let (handle, c) ← readHandle? c
    if 2 ≤ handle.length ∧ handle.getLast? = some '!' then
      let (suffix, c) ← readTagBody? false [] c
      some (handle, suffix, c)
    else
      let (suffix, c) ← readTagBody? false handle c
      if suffix = [] then some ([], ['!'], c) else some (['!'], suffix, c)

/-! ## Directives -/

/-- A number of at most nine digits. -/
def readVersionNumber? (c : Cursor) : Option (Nat × Cursor) :=
  let (digits, c) := c.span Text.isDigit
  if digits = [] ∨ 9 < digits.length then none else some (Text.digitsValue 10 digits, c)

def readVersion? (c : Cursor) : Option (Token × Cursor) := do
  let (major, c) ← readVersionNumber? (c.skipWhile isSpacing)
  if c.head? = some '.' then
    let (minor, c) ← readVersionNumber? (c.advance 1)
    some (.version major minor, c)
  else none

/-- The handle that a directive gives a meaning. -/
def readHandleDirective? (c : Cursor) : Option (Token × Cursor) := do
  let (name, c) ← readHandle? (c.skipWhile isSpacing)
  if name ≠ ['!'] ∧ name.getLast? ≠ some '!' then none
  else if !c.head?.any isSpacing then none
  else
    let (expansion, c) ← readTagBody? true [] (c.skipWhile isSpacing)
    if endsWord c.head? then some (.handle name expansion, c) else none

/-- The directive behind a percent sign, up to the end of its line. -/
def readDirective? (c : Cursor) : Option (Token × Cursor) := do
  let (name, c) := c.span isNameChar
  if !endsWord c.head? then none
  else
    let (token, c) ←
      if name = "YAML".toList then readVersion? c
      else if name = "TAG".toList then readHandleDirective? c
      else none
    let c := c.skipWhile isSpacing
    let c := if c.head? = some '#' then c.toLineEnd else c
    if endsLine c.head? then some (token, c.readBreak.2) else none

end PacketFilter.Yaml
