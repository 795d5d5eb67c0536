import PacketFilter.Yaml.Cursor

/-!
# Reading scalars

A scalar is a text in one of five styles. Breaks within it are folded, so that a text may be laid
out over several lines: a single break becomes a space, and of several the first is dropped. Only
in literal scalars every break is kept.

The readers start behind the character that opens the scalar, or at the first character of a plain
one, and stop behind its last.
-/

namespace PacketFilter.Yaml

inductive Style where
  | plain
  | singleQuoted
  | doubleQuoted
  | literal
  | folded
  deriving DecidableEq, Repr

/-! ## Gaps

A gap is the space between two runs of characters of a scalar. -/

/-- The space read so far. -/
structure Gap where
  /-- Spaces and tabs before the first break. -/
  spaces : Text := []
  /-- The first break. -/
  first : Option Text := none
  /-- The breaks after the first. -/
  more : Text := []
  deriving DecidableEq, Repr

namespace Gap

/-- The gap with a break behind it. Spaces before the first break are dropped. -/
def addBreak (g : Gap) (b : Text) : Gap :=
  match g.first with
  | none => { first := some b }
  | some _ => { g with more := g.more ++ b }

/-- What the gap contributes to the text. -/
def text (g : Gap) : Text :=
  match g.first with
  | none => g.spaces
  | some b => if b = ['\n'] then if g.more = [] then [' '] else g.more else b ++ g.more

/-- The rest of a gap, and the position behind it. Behind a break there must be no tab before
column `margin`. -/
def read? (margin : Nat) : (fuel : Nat) → Gap → Cursor → Option (Gap × Cursor)
  | 0, g, c => some (g, c)
  | fuel + 1, g, c =>
    match c.head? with
    | none => some (g, c)
    | some a =>
      if isSpacing a then
        if g.first.isNone then read? margin fuel { g with spaces := g.spaces ++ [a] } (c.advance 1)
        else if a = '\t' ∧ c.column < margin then none
        else read? margin fuel g (c.advance 1)
      else if isBreak a then
        let (b, c) := c.readBreak
        read? margin fuel (g.addBreak b) c
      else some (g, c)

end Gap

/-! ## Plain scalars -/

/-- The characters that open, close and separate collections within a line. -/
def isFlowSign (c : Char) : Bool := c == ',' || c == '[' || c == ']' || c == '{' || c == '}'

/-- The run of characters of a plain scalar that a text starts with. Within a collection on one
line, a colon may not stand right before one of its signs. -/
def plainRun? (inFlow : Bool) : Text → Option Text
  | [] => some []
  | c :: cs =>
    if isSpacing c || isBreak c then some []
    else if inFlow && c == ':' && cs.head?.any (fun d ↦ isFlowSign d || d == '?') then none
    else if (c == ':' && endsWord cs.head?) || (inFlow && isFlowSign c) then some []
    else (plainRun? inFlow cs).map (c :: ·)

/-- The rest of a plain scalar, whether a break follows it, and the position behind it and the
space after it. Outside collections on one line, a line that starts before column `margin` ends
the scalar. -/
def readPlain? (inFlow : Bool) (margin : Nat) :
    (fuel : Nat) → Text → Gap → Cursor → Option (Text × Bool × Cursor)
  | 0, t, g, c => some (t, g.first.isSome, c)
  | fuel + 1, t, g, c =>
    if c.isAtBoundary ∨ c.head? = some '#' then some (t, g.first.isSome, c)
    else do
      let run ← plainRun? inFlow c.ahead
      let c := c.advance run.length
      let t := if run = [] then t else t ++ g.text ++ run
      let g := if run = [] then g else {}
      if c.head?.all fun a ↦ !(isSpacing a || isBreak a) then some (t, g.first.isSome, c)
      else do
        let (g, c) ← Gap.read? margin c.ahead.length g c
        if !inFlow ∧ c.column < margin then some (t, g.first.isSome, c)
        else readPlain? inFlow margin fuel t g c

/-! ## Quoted scalars -/

/-- What a letter behind a backslash stands for. -/
def escape? : Char → Option Char
  | '0' => some '\x00'
  | 'a' => some '\x07'
  | 'b' => some '\x08'
  | 't' => some '\t'
  | '\t' => some '\t'
  | 'n' => some '\n'
  | 'v' => some '\x0B'
  | 'f' => some '\x0C'
  | 'r' => some '\r'
  | 'e' => some '\x1B'
  | ' ' => some ' '
  | '"' => some '"'
  | '/' => some '/'
  | '\\' => some '\\'
  | 'N' => some '\u0085'
  | '_' => some '\u00A0'
  | 'L' => some '\u2028'
  | 'P' => some '\u2029'
  | _ => none

/-- How many hexadecimal digits follow a letter behind a backslash. -/
def escapeDigits? : Char → Option Nat
  | 'x' => some 2
  | 'u' => some 4
  | 'U' => some 8
  | _ => none

/-- The character of a code point, if there is one. -/
def charOf? (n : Nat) : Option Char := if n.isValidChar then some (Char.ofNat n) else none

/-- The character that an escape stands for, and the number of characters of the escape behind its
backslash. -/
def readEscape? : Text → Option (Char × Nat)
  | [] => none
  | c :: cs =>
    match escape? c, escapeDigits? c with
    | some d, _ => some (d, 1)
    | none, some count => do
      let d ← (Text.number? 16 (cs.take count)).bind charOf?
      if (cs.take count).length = count then some (d, count + 1) else none
    | none, none => none

/-- A run of characters of a quoted scalar up to a space, a break or the closing quote, whether it
ends with an escaped break, and the position behind it. -/
def readQuotedRun? (single : Bool) : (fuel : Nat) → Text → Cursor → Option (Text × Bool × Cursor)
  | 0, _, _ => none
  | fuel + 1, t, c =>
    match c.ahead with
    | [] => some (t, false, c)
    | a :: rest =>
      if isSpacing a || isBreak a then some (t, false, c)
      else if single then
        if a = '\'' then
          if rest.head? = some '\'' then readQuotedRun? single fuel (t ++ ['\'']) (c.advance 2)
          else some (t, false, c)
        else readQuotedRun? single fuel (t ++ [a]) (c.advance 1)
      else if a = '"' then some (t, false, c)
      else if a = '\\' then
        if rest.head?.any isBreak then some (t, true, (c.advance 1).readBreak.2)
        else do
          let (d, used) ← readEscape? rest
          readQuotedRun? single fuel (t ++ [d]) (c.advance (used + 1))
      else readQuotedRun? single fuel (t ++ [a]) (c.advance 1)

/-- The quote that closes a quoted scalar. -/
def quoteOf (single : Bool) : Char := if single then '\'' else '"'

/-- The rest of a quoted scalar, and the position behind its closing quote. An escaped break and
the space after it contribute nothing. -/
def readQuoted? (single : Bool) : (fuel : Nat) → Text → Cursor → Option (Text × Cursor)
  | 0, _, _ => none
  | fuel + 1, t, c =>
    if c.isAtBoundary ∨ c.ahead = [] then none
    else do
      let (t, joined, c) ← readQuotedRun? single (c.ahead.length + 1) t c
      if c.head? = some (quoteOf single) then some (t, c.advance 1)
      else do
        let gap : Gap := if joined then { first := some [] } else {}
        let (g, c) ← Gap.read? 0 c.ahead.length gap c
        readQuoted? single fuel (t ++ g.text) c

/-! ## Block scalars -/

/-- What becomes of the breaks at the end of a block scalar. -/
inductive Chomping where
  | strip
  | clip
  | keep
  deriving DecidableEq, Repr

/-- The sign of a way of chomping. -/
def chomping? : Option Char → Option Chomping
  | some '-' => some .strip
  | some '+' => some .keep
  | _ => none

/-- A digit that gives the indentation of a block scalar, `none` if there is no digit. -/
def readIndent? (c : Cursor) : Option (Option Nat × Cursor) :=
  match c.head? with
  | some a =>
    if a = '0' then none
    else if Text.isDigit a then some (some (a.toNat - 48), c.advance 1)
    else some (none, c)
  | none => some (none, c)

/-- The signs behind the one that opens a block scalar, in either order. -/
def readHeader? (c : Cursor) : Option (Chomping × Option Nat × Cursor) :=
  match chomping? c.head? with
  | some ch => do
    let (indent, c) ← readIndent? (c.advance 1)
    some (ch, indent, c)
  | none => do
    let (indent, c) ← readIndent? c
    match indent, chomping? c.head? with
    | some n, some ch => some (ch, some n, c.advance 1)
    | _, _ => some (.clip, indent, c)

/-- Breaks and indentation up to the next line that says something: the deepest column reached, the
breaks, and the position. Columns are counted up to `indent`, or as far as they go if it is not
known yet, and a tab must not stand before it. -/
def readIndentation? (indent : Option Nat) :
    (fuel : Nat) → (deepest : Nat) → Text → Cursor → Option (Nat × Text × Cursor)
  | 0, deepest, breaks, c => some (deepest, breaks, c)
  | fuel + 1, deepest, breaks, c =>
    let spaces := (c.ahead.takeWhile (· == ' ')).length
    let c := c.advance (match indent with
      | some n => min spaces (n - c.column)
      | none => spaces)
    let deepest := max deepest c.column
    if c.head? = some '\t' ∧ indent.all (c.column < ·) then none
    else if c.head?.any isBreak then
      let (b, c) := c.readBreak
      readIndentation? indent fuel deepest (breaks ++ b) c
    else some (deepest, breaks, c)

/-- Whether a text starts with a space or a tab. -/
def startsBlank (c : Cursor) : Bool := c.head?.any isSpacing

/-- The lines of a block scalar from a line of content on: `t` is the text so far, `last` the break
that ended the previous line of content, `more` the breaks after it. -/
def readBlockLines? (folding : Bool) (indent : Nat) :
    (fuel : Nat) → (t last more : Text) → (blank : Bool) → Cursor →
      Option (Text × Text × Text × Cursor)
  | 0, t, last, more, _, c => some (t, last, more, c)
  | fuel + 1, t, last, more, blank, c =>
    if c.column ≠ indent ∨ c.ahead = [] then some (t, last, more, c)
    else do
      let joint : Text :=
        if folding && last.head? == some '\n' && !blank && !startsBlank c then
          if more = [] then [' '] else []
        else last
      let (run, rest) := c.span fun a ↦ !isBreak a
      let (b, rest) := rest.readBreak
      let (_, breaks, rest) ← readIndentation? (some indent) (rest.ahead.length + 1) 0 [] rest
      readBlockLines? folding indent fuel (t ++ joint ++ more ++ run) b breaks (startsBlank c) rest

/-- The rest of a block scalar inside a collection whose contents start at column `margin`. -/
def readBlock? (folding : Bool) (margin : Nat) (c : Cursor) : Option (Text × Cursor) := do
  let (chomping, given, c) ← readHeader? c
  let c := c.skipWhile isSpacing
  let c := if c.head? = some '#' then c.toLineEnd else c
  if !endsLine c.head? then none
  else do
    let c := c.readBreak.2
    let known := given.map fun n ↦ margin - 1 + n
    let (deepest, breaks, c) ← readIndentation? known (c.ahead.length + 1) 0 [] c
    let indent := known.getD (max deepest (max margin 1))
    let (t, last, more, c) ←
      readBlockLines? folding indent (c.ahead.length + 1) [] [] breaks false c
    match chomping with
    | .strip => some (t, c)
    | .clip => some (t ++ last, c)
    | .keep => some (t ++ last ++ more, c)

end PacketFilter.Yaml
