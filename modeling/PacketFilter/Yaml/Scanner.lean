import PacketFilter.Yaml.Token

/-!
# From texts to tokens

Layout is made explicit here. Two things about a position decide what may follow. The first is
indentation: `margin` is the column from which the contents of the innermost open block stand, and
a token that stands before it ends the block. The second is whether a key may start: a scalar, an
alias or a collection on one line becomes a key once a colon follows it, so the place of a possible
key is kept, and the tokens that announce it are put there afterwards.

A possible key is given up at the end of its line or after 1024 characters. One that has to be a
key, since nothing else may stand at the column of the keys before it, makes the text fail then.
-/

namespace PacketFilter.Yaml

/-- The place of a token that may turn out to be a key. -/
structure KeyPlace where
  /-- Nothing but a key may stand there. -/
  required : Bool
  /-- The number of tokens before it. -/
  number : Nat
  index : Nat
  line : Nat
  column : Nat
  deriving DecidableEq, Repr

/-- What is known at a position of a text. -/
structure Scanner where
  cursor : Cursor
  /-- The tokens so far, the latest first. -/
  tokens : List Token := []
  /-- A key may start here. -/
  keyAllowed : Bool := true
  /-- The possible key in the innermost collection. -/
  place : Option KeyPlace := none
  /-- The possible keys in the collections on one line around it, the innermost first. -/
  outerPlaces : List (Option KeyPlace) := []
  /-- The column from which the contents of the innermost block stand. -/
  margin : Nat := 0
  /-- The margins of the blocks around it. -/
  outerMargins : List Nat := []
  deriving DecidableEq, Repr

namespace Scanner

/-- Whether the position is inside a collection on one line. -/
def inFlow (s : Scanner) : Bool := !s.outerPlaces.isEmpty

def push (s : Scanner) (k : Token) : Scanner := { s with tokens := k :: s.tokens }

/-- The scanner with a token added and `n` characters read. -/
def take (s : Scanner) (k : Token) (n : Nat) : Scanner :=
  { s.push k with cursor := s.cursor.advance n }

/-- The scanner with a token put behind the first `number` ones. -/
def insert (s : Scanner) (number : Nat) (k : Token) : Scanner :=
  let later := s.tokens.length - number
  { s with tokens := s.tokens.take later ++ k :: s.tokens.drop later }

/-! ## Space -/

/-- The start of the next token and whether a key may start there: space, comments and breaks are
skipped, and a break outside collections on one line allows a key. -/
def skipSpace (inFlow : Bool) : (fuel : Nat) → (keyAllowed : Bool) → Cursor → Bool × Cursor
  | 0, keyAllowed, c => (keyAllowed, c)
  | fuel + 1, keyAllowed, c =>
    let c := if c.index = 0 ∧ c.head? = some '\uFEFF' then c.advance 1 else c
    let c := c.skipWhile fun a ↦ a == ' ' || ((inFlow || !keyAllowed) && a == '\t')
    let c := if c.head? = some '#' then c.toLineEnd else c
    if c.head?.any isBreak then skipSpace inFlow fuel (keyAllowed || !inFlow) c.readBreak.2
    else (keyAllowed, c)

def toNext (s : Scanner) : Scanner :=
  let (keyAllowed, c) := skipSpace s.inFlow (s.cursor.ahead.length + 1) s.keyAllowed s.cursor
  { s with keyAllowed := keyAllowed, cursor := c }

/-! ## Possible keys -/

/-- The number of characters after which a possible key is given up. -/
def longestKey : Nat := 1024

/-- A possible key as seen from a later position: itself, nothing, or a failure. -/
def refreshPlace (c : Cursor) : Option KeyPlace → Option (Option KeyPlace)
  | none => some none
  | some p =>
    if p.line < c.line ∨ p.index + longestKey < c.index then
      if p.required then none else some none
    else some (some p)

/-- The scanner without possible keys that are out of reach. -/
def refresh? (s : Scanner) : Option Scanner := do
  let place ← refreshPlace s.cursor s.place
  let outer ← s.outerPlaces.mapM (refreshPlace s.cursor)
  some { s with place := place, outerPlaces := outer }

/-- The scanner without a possible key here, unless there had to be one. -/
def dropPlace? (s : Scanner) : Option Scanner :=
  if s.place.any KeyPlace.required then none else some { s with place := none }

/-- The scanner with the next token as a possible key, if a key may start here. -/
def savePlace? (s : Scanner) : Option Scanner :=
  if s.keyAllowed then
    let place : KeyPlace :=
      { required := !s.inFlow && s.margin == s.cursor.column + 1
        number := s.tokens.length
        index := s.cursor.index
        line := s.cursor.line
        column := s.cursor.column }
    s.dropPlace?.map fun s ↦ { s with place := some place }
  else some s

/-! ## Indentation -/

/-- The blocks closed that end before a column. -/
def closeBlocks (column : Nat) : (margin : Nat) → (outer : List Nat) → Nat × Nat × List Nat
  | margin, [] => (0, margin, [])
  | margin, m :: outer =>
    if column + 1 < margin then
      let (n, margin, outer) := closeBlocks column m outer
      (n + 1, margin, outer)
    else (0, margin, m :: outer)

/-- The scanner with the blocks closed that end before a column. -/
def unroll (s : Scanner) (column : Nat) : Scanner :=
  if s.inFlow then s
  else
    let (n, margin, outer) := closeBlocks column s.margin s.outerMargins
    { s with
      tokens := List.replicate n .blockEnd ++ s.tokens
      margin := margin
      outerMargins := outer }

def unrollAll (s : Scanner) : Scanner :=
  if s.inFlow then s
  else
    { s with
      tokens := List.replicate s.outerMargins.length .blockEnd ++ s.tokens
      margin := 0
      outerMargins := [] }

/-- The scanner with a block opened at a column, unless one is open there already. The token for it
goes behind the first `number` ones. -/
def roll (s : Scanner) (column number : Nat) (k : Token) : Scanner :=
  if !s.inFlow ∧ s.margin ≤ column then
    { s.insert number k with margin := column + 1, outerMargins := s.margin :: s.outerMargins }
  else s

def rollHere (s : Scanner) (k : Token) : Scanner := s.roll s.cursor.column s.tokens.length k

/-! ## Single tokens -/

/-- A directive or a mark of a document, which closes every block. -/
def atMargin? (s : Scanner) : Option Scanner :=
  s.unrollAll.dropPlace?.map fun s ↦ { s with keyAllowed := false }

/-- The start of a collection on one line. -/
def openFlow? (s : Scanner) (k : Token) : Option Scanner := do
  let s ← s.savePlace?
  some { s.take k 1 with
    keyAllowed := true, place := none, outerPlaces := s.place :: s.outerPlaces }

/-- The end of a collection on one line. -/
def closeFlow? (s : Scanner) (k : Token) : Option Scanner := do
  let s ← s.dropPlace?
  let s := { s.take k 1 with keyAllowed := false }
  match s.outerPlaces with
  | [] => some s
  | place :: outer => some { s with place := place, outerPlaces := outer }

/-- A hyphen before an item. -/
def item? (s : Scanner) : Option Scanner :=
  if !s.inFlow ∧ !s.keyAllowed then none
  else do
    let s ← (s.rollHere .blockSequence).dropPlace?
    some { s.take .item 1 with keyAllowed := true }

/-- A question mark before a key. -/
def key? (s : Scanner) : Option Scanner :=
  if !s.inFlow ∧ !s.keyAllowed then none
  else do
    let s ← (s.rollHere .blockMapping).dropPlace?
    some { s.take .key 1 with keyAllowed := !s.inFlow }

/-- A colon before a value. The possible key before it is one. -/
def value? (s : Scanner) : Option Scanner :=
  match s.place with
  | some p =>
    let s := (s.insert p.number .key).roll p.column p.number .blockMapping
    some { s.take .value 1 with place := none, keyAllowed := false }
  | none =>
    if !s.inFlow ∧ !s.keyAllowed then none
    else
      let s := s.rollHere .blockMapping
      some { s.take .value 1 with keyAllowed := !s.inFlow }

/-- A token that may be a key, and the position behind it. -/
def content? (s : Scanner) (read : Cursor → Option (Token × Cursor)) : Option Scanner := do
  let s ← s.savePlace?
  let (k, c) ← read s.cursor
  some { s.push k with cursor := c, keyAllowed := false }

/-- A scalar that is laid out as a block. -/
def block? (s : Scanner) (style : Style) : Option Scanner := do
  let s ← s.dropPlace?
  let (t, c) ← readBlock? (style == .folded) s.margin (s.cursor.advance 1)
  some { s.push (.scalar t style) with cursor := c, keyAllowed := true }

/-- A plain scalar. A break behind it allows a key again. -/
def plain? (s : Scanner) : Option Scanner := do
  let s ← s.savePlace?
  let (t, broken, c) ← readPlain? s.inFlow s.margin (s.cursor.ahead.length + 1) [] {} s.cursor
  some { s.push (.scalar t .plain) with cursor := c, keyAllowed := broken }

def quoted? (s : Scanner) (single : Bool) : Option Scanner :=
  s.content? fun c ↦ do
    let (t, c) ← readQuoted? single (c.ahead.length + 1) [] (c.advance 1)
    some (.scalar t (if single then .singleQuoted else .doubleQuoted), c)

/-- A tag, which has to end a word. -/
def tag? (s : Scanner) : Option Scanner :=
  s.content? fun c ↦ do
    let (handle, suffix, c) ← readTag? c
    if endsWord c.head? ∨ (s.inFlow ∧ c.head? = some ',') then some (.tag handle suffix, c)
    else none

/-- Whether a plain scalar may start with a character. -/
def startsPlain (inFlow : Bool) (a : Char) (next : Option Char) : Bool :=
  !(isSpacing a || a ∈ "-?:,[]\x7b\x7d#&*!|>'\"%@\x60".toList) ||
    (a == '-' && !next.any isSpacing) ||
    (!inFlow && (a == '?' || a == ':') && !endsWord next)

/-- One token behind space. -/
def token? (s : Scanner) (a : Char) : Option Scanner :=
  let c := s.cursor
  let next := c.second?
  if c.column = 0 ∧ a = '%' then do
    let s ← s.atMargin?
    let (k, c) ← readDirective? (c.advance 1)
    some { s.push k with cursor := c }
  else if c.isAtMark '-' then s.atMargin?.map (·.take .documentStart 3)
  else if c.isAtMark '.' then s.atMargin?.map (·.take .documentEnd 3)
  else if a = '[' then s.openFlow? .flowSequence
  else if a = '\x7b' then s.openFlow? .flowMapping
  else if a = ']' then s.closeFlow? .flowSequenceEnd
  else if a = '\x7d' then s.closeFlow? .flowMappingEnd
  else if a = ',' then s.dropPlace?.map fun s ↦ { s.take .comma 1 with keyAllowed := true }
  else if a = '-' ∧ endsWord next then s.item?
  else if a = '?' ∧ (s.inFlow ∨ endsWord next) then s.key?
  else if a = ':' ∧ (s.inFlow ∨ endsWord next) then s.value?
  else if a = '*' then
    s.content? fun c ↦ (readName? (c.advance 1)).map fun (name, c) ↦ (.alias name, c)
  else if a = '&' then
    s.content? fun c ↦ (readName? (c.advance 1)).map fun (name, c) ↦ (.anchor name, c)
  else if a = '!' then s.tag?
  else if a = '|' ∧ !s.inFlow then s.block? .literal
  else if a = '>' ∧ !s.inFlow then s.block? .folded
  else if a = '\'' then s.quoted? true
  else if a = '"' then s.quoted? false
  else if startsPlain s.inFlow a next then s.plain?
  else none

/-- All tokens from a position on. Each takes one character at least, so `fuel` is enough if it is
above their number. -/
def run? : (fuel : Nat) → Scanner → Option (List Token)
  | 0, _ => none
  | fuel + 1, s => do
    let s ← s.toNext.refresh?
    let s := s.unroll s.cursor.column
    match s.cursor.head? with
    | none =>
      let s ← s.unrollAll.dropPlace?
      some (s.push .streamEnd).tokens.reverse
    | some a => run? fuel (← s.token? a)

end Scanner

def tokens? (t : Text) : Option (List Token) :=
  if t.all isAllowed then Scanner.run? (t.length + 1) { cursor := { ahead := t } } else none

end PacketFilter.Yaml
