import PacketFilter.Regex.Notation

/-!
# Reading patterns

A pattern's text is read sign by sign. `Reader` holds what is open: the items of the branch being
read, the branches before it, and the same for every group around. A literal character only adds
an item, so that the reading of a text can be followed sign by sign in a proof.

A pattern can be refused for two reasons other than its notation: it is nested too deeply, or it
is too large once its repetitions are written out.
-/

namespace PacketFilter.Regex

/-- A part of a branch. -/
structure Item where
  pattern : Pattern
  /-- How deep groups, repetitions and classes are nested in it. -/
  depth : Nat := 0
  /-- Flags stand in a branch like an item but cannot be repeated. -/
  repeatable : Bool := true

/-- The items of a branch, given last first, as one. -/
def Item.concat : List Item → Item
  | [] => { pattern := .empty }
  | [i] => i
  | items =>
    { pattern := .concat (items.reverse.map Item.pattern)
      depth := (items.map Item.depth).foldl max 0 + 1 }

/-- The branches of a group, given last first, as one item. -/
def Item.choice : List Item → Item
  | [] => { pattern := .empty }
  | [i] => i
  | items =>
    { pattern := .choice (items.reverse.map Item.pattern)
      depth := (items.map Item.depth).foldl max 0 + 1 }

/-- A group that is open: what was read around it so far, and what to do when it is closed. -/
structure Level where
  /-- The number and name, if the group captures. -/
  capture : Option (Nat × Option Text)
  /-- The flags in force around the group. -/
  flags : Flags
  branches : List Item
  items : List Item

/-- What is open while a pattern is read. -/
structure Reader where
  flags : Flags := {}
  /-- The branches before the current one, the last first. -/
  branches : List Item := []
  /-- The items of the current branch, the last first. -/
  items : List Item := []
  /-- The groups around, the innermost first. -/
  outer : List Level := []
  /-- The names of the groups opened so far. -/
  names : List (Option Text) := []

namespace Reader

def push (r : Reader) (p : Pattern) : Reader := { r with items := { pattern := p } :: r.items }

/-- The branches of the current group as one item. -/
def branch (r : Reader) : Item := .choice (.concat r.items :: r.branches)

/-- The pattern of a literal character. Without Unicode only ASCII characters have variants. -/
def literal (f : Flags) (c : Char) : Pattern :=
  if f.ignoreCase ∧ (f.unicode ∨ c.toNat < 128) then
    let variants := (Text.caseVariants c).filter fun d ↦ f.unicode || d.toNat < 128
    .one (variants.foldl (fun s d ↦ .union s (.one d)) (.one c))
  else .char c

def pieceOf (f : Flags) : Piece → Pattern
  | .char c => literal f c
  | .set s => .one s
  | .look l => .look l

def dot? (f : Flags) : Option Pattern :=
  if !f.unicode then none
  else if f.dotAll then some (.one .any)
  else if f.crlf then some (.one (.compl (.spans [(10, 10), (13, 13)])))
  else some (.one (.compl (.one '\n')))

/-- The condition that `^` stands for. -/
def startLook (f : Flags) : Look :=
  if !f.multiLine then .textStart else if f.crlf then .anyLineStart else .lineStart

/-- The condition that `$` stands for. -/
def endLook (f : Flags) : Look :=
  if !f.multiLine then .textEnd else if f.crlf then .anyLineEnd else .lineEnd

/-! ## Repetitions -/

/-- The last item repeated. -/
def repeat? (r : Reader) (least : Nat) (most : Option Nat) (greedy : Bool) : Option Reader :=
  match r.items with
  | i :: items =>
    if i.repeatable then
      some { r with
        items :=
          { pattern := .repeated i.pattern least most (greedy != r.flags.swapGreed)
            depth := i.depth + 1 } :: items }
    else none
  | [] => none

/-- A question mark behind a repetition makes it prefer the shorter reading. -/
def readGreed : Text → Bool × Text
  | '?' :: cs => (false, cs)
  | t => (true, t)

/-- The least and the most rounds of a counted repetition, behind its opening brace. -/
def readBounds? (f : Flags) (t : Text) : Option (Nat × Option Nat × Text) := do
  match f.skip t with
  | [] => none
  | t =>
    let (least, rest) ← readCount? f t
    match rest with
    | ',' :: rest =>
      match f.skip rest with
      | '\x7d' :: rest => some (least, none, rest)
      | rest =>
        let (most, rest) ← readCount? f rest
        match rest with
        | '\x7d' :: rest => if least ≤ most then some (least, some most, rest) else none
        | _ => none
    | '\x7d' :: rest => some (least, some least, rest)
    | _ => none

/-! ## Groups -/

/-- The reader inside a new group. -/
def enter (r : Reader) (capture : Option (Nat × Option Text)) (inside : Flags) : Reader :=
  { r with
    flags := inside
    branches := []
    items := []
    outer := ⟨capture, r.flags, r.branches, r.items⟩ :: r.outer }

/-- The reader inside a new group that captures. -/
def enterCapture (r : Reader) (name : Option Text) : Reader :=
  { r with names := name :: r.names }.enter (some (r.names.length + 1, name)) r.flags

/-- The reader behind the current group. -/
def leave? (r : Reader) : Option Reader :=
  match r.outer with
  | [] => none
  | level :: outer =>
    let body := r.branch
    let p :=
      match level.capture with
      | some (i, name) => .group i name body.pattern
      | none => body.pattern
    some
      { r with
        flags := level.flags
        branches := level.branches
        items := { pattern := p, depth := body.depth + 1 } :: level.items
        outer := outer }

def isNameChar (first : Bool) (c : Char) : Bool :=
  c == '_' || Text.isAlphabetic c ||
    (!first && (c == '.' || c == '[' || c == ']' || Text.isNumeric c))

/-- A group's name up to the closing angle bracket. -/
def readName? (t : Text) : Option (Text × Text) :=
  match t.takeWhile (· ≠ '>'), t.dropWhile (· ≠ '>') with
  | c :: cs, _ :: rest =>
    if isNameChar true c ∧ cs.all (isNameChar false) then some (c :: cs, rest) else none
  | _, _ => none

/-- A group of a name that is new. -/
def readNamedGroup? (r : Reader) (t : Text) : Option (Reader × Text) := do
  let (name, rest) ← readName? t
  if some name ∈ r.names then none else some (r.enterCapture (some name), rest)

/-- What stands behind an opening parenthesis. -/
def readGroup? (r : Reader) (t : Text) : Option (Reader × Text) :=
  match r.flags.skip t with
  | '?' :: 'P' :: '<' :: rest => r.readNamedGroup? rest
  | '?' :: '<' :: rest =>
    if rest.head? = some '=' ∨ rest.head? = some '!' then none else r.readNamedGroup? rest
  | '?' :: rest => do
    let (inside, any, closing, rest) ← r.flags.read? [] false false rest
    if closing = ':' then some (r.enter none inside, rest)
    else if any then
      let marker : Item := { pattern := .empty, repeatable := false }
      some ({ r with flags := inside, items := marker :: r.items }, rest)
    else none
  | t => some (r.enterCapture none, t)

/-! ## The pattern as a whole -/

/-- One sign of a pattern, with the text behind its first character. -/
def step? (r : Reader) (c : Char) (cs : Text) : Option (Reader × Text) :=
  match c with
  | '(' => r.readGroup? cs
  | ')' => r.leave?.map (·, cs)
  | '|' => some ({ r with branches := .concat r.items :: r.branches, items := [] }, cs)
  | '[' =>
    (readClass? r.flags cs).map fun (s, depth, rest) ↦
      ({ r with items := { pattern := .one s, depth := depth } :: r.items }, rest)
  | '?' => let (greedy, rest) := readGreed cs; (r.repeat? 0 (some 1) greedy).map (·, rest)
  | '*' => let (greedy, rest) := readGreed cs; (r.repeat? 0 none greedy).map (·, rest)
  | '+' => let (greedy, rest) := readGreed cs; (r.repeat? 1 none greedy).map (·, rest)
  | '\x7b' => do
    let (least, most, rest) ← readBounds? r.flags cs
    let (greedy, rest) := readGreed (r.flags.skip rest)
    (r.repeat? least most greedy).map (·, rest)
  | '\\' => (readEscape? r.flags cs).map fun (piece, rest) ↦ (r.push (pieceOf r.flags piece), rest)
  | '.' => (dot? r.flags).map fun p ↦ (r.push p, cs)
  | '^' => some (r.push (.look (startLook r.flags)), cs)
  | '$' => some (r.push (.look (endLook r.flags)), cs)
  | c => some (r.push (literal r.flags c), cs)

/-- All signs of a text. Each takes one character at least, so `fuel` is enough from the text's
length on. -/
def readAll? : (fuel : Nat) → Reader → Text → Option Reader
  | fuel, r, t =>
    match r.flags.skip t with
    | [] => some r
    | c :: cs =>
      match fuel with
      | 0 => none
      | fuel + 1 => do
        let (r, rest) ← r.step? c cs
        readAll? fuel r rest

end Reader

/-- The deepest nesting of groups, repetitions and classes. -/
def deepest : Nat := 250

/-- The largest weight of a pattern. There is room for 10 MiB of states, which take 32 bytes each,
and the search around a pattern needs six of them. -/
def heaviest : Nat := 10 * 1024 * 1024 / 32 - 6

def Pattern.parse? (t : Text) : Option Pattern := do
  let r ← Reader.readAll? t.length {} t
  if r.outer ≠ [] then none
  else
    let i := r.branch
    if i.depth ≤ deepest ∧ i.pattern.weight ≤ heaviest then some i.pattern else none

end PacketFilter.Regex
