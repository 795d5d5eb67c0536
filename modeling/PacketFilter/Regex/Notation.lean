import PacketFilter.Bits
import PacketFilter.Regex.Basic

/-!
# Pieces of the notation

What a pattern's text is made of below the level of groups and repetitions: flags, escapes,
numerals and bracketed classes. Each reader returns what it read and what follows, or nothing if
the text is not in the notation; why it is not is not told.

In verbose mode blanks and comments may stand between any two signs. `skip` passes over them, and
every reader calls it where the notation allows them.
-/

namespace PacketFilter.Regex

/-- What flags decide. -/
structure Flags where
  ignoreCase : Bool := false
  multiLine : Bool := false
  dotAll : Bool := false
  swapGreed : Bool := false
  /-- Classes and boundaries go by Unicode. Without it, a class may not leave ASCII. -/
  unicode : Bool := true
  /-- Lines end at carriage returns as well. -/
  crlf : Bool := false
  verbose : Bool := false
  deriving DecidableEq, Repr

namespace Flags

/-- The flags with one of them set or cleared, by its letter. -/
def set? (f : Flags) (letter : Char) (on : Bool) : Option Flags :=
  match letter with
  | 'i' => some { f with ignoreCase := on }
  | 'm' => some { f with multiLine := on }
  | 's' => some { f with dotAll := on }
  | 'U' => some { f with swapGreed := on }
  | 'u' => some { f with unicode := on }
  | 'R' => some { f with crlf := on }
  | 'x' => some { f with verbose := on }
  | _ => none

/-- Flag letters up to a colon or a closing parenthesis, which is returned. A minus sign clears
the flags behind it. It may stand once and not at the end, and no letter may stand twice. The
Boolean result says whether there was anything at all. -/
def read? (f : Flags) (seen : List Char) (minus dangling : Bool) :
    Text → Option (Flags × Bool × Char × Text)
  | [] => none
  | c :: cs =>
    if c = ':' ∨ c = ')' then
      if dangling then none else some (f, minus || seen ≠ [], c, cs)
    else if c = '-' then if minus then none else f.read? seen true true cs
    else if c ∈ seen then none
    else do (← f.set? c !minus).read? (c :: seen) minus false cs

/-- Passes over blanks and comments. -/
def skipBlanks : (inComment : Bool) → Text → Text
  | _, [] => []
  | true, c :: cs => skipBlanks (c ≠ '\n') cs
  | false, c :: cs =>
    if c = '#' then skipBlanks true cs
    else if Text.isBlank c then skipBlanks false cs
    else c :: cs

/-- Passes over what verbose mode ignores. -/
def skip (f : Flags) (t : Text) : Text := if f.verbose then skipBlanks false t else t

/-- The run of characters `p` accepts, with ignored ones between them. -/
def readRun (f : Flags) (p : Char → Bool) : (fuel : Nat) → Text → Text × Text
  | 0, t => ([], t)
  | _, [] => ([], [])
  | fuel + 1, c :: cs =>
    if p c then
      let (run, rest) := f.readRun p fuel (f.skip cs)
      (c :: run, rest)
    else ([], c :: cs)

/-- The run of characters `p` accepts. -/
def run (f : Flags) (p : Char → Bool) (t : Text) : Text × Text := f.readRun p t.length t

end Flags

/-! ## Numerals -/

/-- A decimal numeral of 32 bits with blanks around it. -/
def readCount? (f : Flags) (t : Text) : Option (Nat × Text) := do
  let (run, rest) := f.run Text.isDigit (t.dropWhile Text.isBlank)
  let n ← Text.number? 10 run
  if n < Bits.values 32 then some (n, (f.run Text.isBlank rest).2) else none

/-- The character of a hexadecimal numeral. -/
def charOf? (t : Text) : Option Char := do
  let n ← Text.number? 16 t
  if n < 0xD800 ∨ (0xDFFF < n ∧ n ≤ 0x10FFFF) then some (Char.ofNat n) else none

def isHexDigit (c : Char) : Bool := (Text.digitValue? 16 c).isSome

/-- Exactly `count` hexadecimal digits. -/
def readHexDigits? (f : Flags) : (count : Nat) → Text → Option (Text × Text)
  | 0, t => some ([], t)
  | _, [] => none
  | count + 1, c :: cs => do
    if !isHexDigit c then none
    let (digits, rest) ← readHexDigits? f count (f.skip cs)
    some (c :: digits, rest)

/-- The numeral of an escaped character: digits in braces, or a fixed number of them. -/
def readHex? (f : Flags) (count : Nat) (t : Text) : Option (Char × Text) := do
  match f.skip t with
  | '\x7b' :: rest =>
    match f.run (· ≠ '\x7d') (f.skip rest) with
    | (digits, _ :: rest) => some (← charOf? digits, f.skip rest)
    | (_, []) => none
  | t =>
    let (digits, rest) ← readHexDigits? f count t
    let c ← charOf? digits
    if count = 2 ∧ !f.unicode ∧ 0x7F < c.toNat then none else some (c, rest)

/-! ## Escapes -/

/-- What a pattern's text can stand for below the level of groups. -/
inductive Piece where
  | char (c : Char)
  | set (s : CharSet)
  | look (l : Look)

def Flags.wordSet (f : Flags) : CharSet := if f.unicode then .word else .asciiWord

/-- The classes that a letter escapes to; a capital selects the complement. -/
def readLetterClass? (f : Flags) (c : Char) : Option CharSet :=
  let pick (unicode ascii : CharSet) (negated : Bool) : Option CharSet :=
    if f.unicode then some (unicode.negateIf negated)
    else if negated then none
    else some ascii
  match c with
  | 'd' => pick .digit .asciiDigit false
  | 'D' => pick .digit .asciiDigit true
  | 's' => pick .blank .asciiBlank false
  | 'S' => pick .blank .asciiBlank true
  | 'w' => pick .word .asciiWord false
  | 'W' => pick .word .asciiWord true
  | _ => none

/-- The class of a property's name, which may give a value behind `!=`, `:` or `=`, and whether the
complement of the class is meant. -/
def propertySet? (name : Text) : Option (CharSet × Bool) :=
  match splitAtSign name with
  | some (property, value) =>
    if property.getLast? = some '!' ∧ (Text.cut? ':' name).isNone then
      (CharSet.ofValue? property.dropLast value).map (·, true)
    else (CharSet.ofValue? property value).map (·, false)
  | none => (CharSet.ofName? name).map (·, false)
where
  splitAtSign (t : Text) : Option (Text × Text) := (Text.cut? ':' t).or (Text.cut? '=' t)

/-- A property, by a single letter or a name in braces. Complements are taken last, so that they
do not hold the other case of what they leave out. -/
def readProperty? (f : Flags) (negated : Bool) (t : Text) : Option (CharSet × Text) := do
  let ((s, opposite), rest) ←
    match f.skip t with
    | '\x7b' :: rest =>
      match f.run (· ≠ '\x7d') (f.skip rest) with
      | (name, _ :: rest) => do some (← propertySet? name, rest)
      | (_, []) => none
    | '\\' :: _ => none
    | c :: rest => do some ((← CharSet.ofCategory? (CharSet.plainName [c]), false), f.skip rest)
    | [] => none
  if f.unicode then
    some ((s.foldIf f.ignoreCase).negateIf (negated != opposite), rest)
  else none

/-- A word boundary, which may be of a special kind named in braces. Braces that start otherwise
are left for a repetition. -/
def readBoundary? (f : Flags) (t : Text) : Option (Look × Text) :=
  match t with
  | '\x7b' :: cs =>
    match f.skip cs with
    | [] => none
    | c :: rest =>
      if !isNameChar c then some (.wordBoundary f.wordSet, t)
      else match f.run isNameChar (c :: rest) with
        | (name, '\x7d' :: rest) =>
          if name = "start" then some (.wordStart f.wordSet, rest)
          else if name = "end" then some (.wordEnd f.wordSet, rest)
          else if name = "start-half" then some (.wordStartHalf f.wordSet, rest)
          else if name = "end-half" then some (.wordEndHalf f.wordSet, rest)
          else none
        | _ => none
  | _ => some (.wordBoundary f.wordSet, t)
where
  isNameChar (c : Char) : Bool := Text.isLetter c || c == '-'

/-- What follows a backslash. Signs and ASCII characters that are no letters or digits stand for
themselves. -/
def readEscape? (f : Flags) : Text → Option (Piece × Text)
  | [] => none
  | c :: cs =>
    match c with
    | 'x' => (readHex? f 2 cs).map fun (c, rest) ↦ (.char c, rest)
    | 'u' => (readHex? f 4 cs).map fun (c, rest) ↦ (.char c, rest)
    | 'U' => (readHex? f 8 cs).map fun (c, rest) ↦ (.char c, rest)
    | 'p' => (readProperty? f false cs).map fun (s, rest) ↦ (.set s, rest)
    | 'P' => (readProperty? f true cs).map fun (s, rest) ↦ (.set s, rest)
    | 'b' => (readBoundary? f cs).map fun (l, rest) ↦ (.look l, rest)
    | 'a' => some (.char '\x07', cs)
    | 'f' => some (.char '\x0C', cs)
    | 't' => some (.char '\t', cs)
    | 'n' => some (.char '\n', cs)
    | 'r' => some (.char '\r', cs)
    | 'v' => some (.char '\x0B', cs)
    | 'A' => some (.look .textStart, cs)
    | 'z' => some (.look .textEnd, cs)
    | 'B' => some (.look (.noWordBoundary f.wordSet), cs)
    | '<' => some (.look (.wordStart f.wordSet), cs)
    | '>' => some (.look (.wordEnd f.wordSet), cs)
    | _ =>
      if Text.isAlphanumeric c then (readLetterClass? f c).map fun s ↦ (.set s, cs)
      else if c.toNat < 128 then some (.char c, cs)
      else none

/-! ## Bracketed classes -/

/-- The operations between two parts of a class. -/
inductive ClassOp where
  | inter
  | diff
  | symmDiff

/-- A class that is being read. -/
structure ClassLevel where
  negated : Bool
  /-- The union of the items since the last operation. -/
  set : CharSet := .empty
  /-- The number of those items. -/
  count : Nat := 0
  /-- How deep classes are nested in them. -/
  depth : Nat := 0
  /-- The last operation and what stands on its left. -/
  pending : Option (ClassOp × CharSet × Nat) := none

namespace ClassLevel

/-- The class with one more item, in which classes are nested. -/
def pushNested (l : ClassLevel) (s : CharSet) (depth : Nat) : ClassLevel :=
  { l with
    set := if l.count = 0 then s else .union l.set s
    count := l.count + 1
    depth := max l.depth depth }

def push (l : ClassLevel) (s : CharSet) : ClassLevel := l.pushNested s 0

/-- The closure under case that flags demand. -/
def fold (f : Flags) (s : CharSet) : CharSet :=
  if !f.ignoreCase then s
  else if f.unicode then .folded s
  else .inter (.folded s) (.spans [(0, 127)])

/-- The set read so far and its depth. -/
def value (l : ClassLevel) (f : Flags) : CharSet × Nat :=
  let depth := if 1 < l.count then l.depth + 1 else l.depth
  match l.pending with
  | none => (l.set, depth)
  | some (op, left, leftDepth) =>
    let a := fold f left
    let b := fold f l.set
    let s :=
      match op with
      | .inter => CharSet.inter a b
      | .diff => .diff a b
      | .symmDiff => .symmDiff a b
    (s, max leftDepth depth + 1)

/-- The class with an operation behind what was read so far. -/
def operate (l : ClassLevel) (f : Flags) (op : ClassOp) : ClassLevel :=
  let (s, depth) := l.value f
  { negated := l.negated, pending := some (op, s, depth) }

def close? (l : ClassLevel) (f : Flags) : Option (CharSet × Nat) :=
  let (s, depth) := l.value f
  if l.negated ∧ !f.unicode then none
  else some ((fold f s).negateIf l.negated, depth + 1)

end ClassLevel

/-- Hyphens at the start of a class stand for themselves. -/
def readHyphens (f : Flags) : (fuel : Nat) → ClassLevel → Text → ClassLevel × Text
  | fuel + 1, l, '-' :: cs => readHyphens f fuel (l.push (.one '-')) (f.skip cs)
  | _, l, t => (l, t)

/-- The start of a class behind its bracket. A closing bracket that comes first stands for
itself. -/
def readClassStart? (f : Flags) (t : Text) : Option (ClassLevel × Text) :=
  let (negated, t) :=
    match f.skip t with
    | '^' :: rest => (true, f.skip rest)
    | t => (false, t)
  match readHyphens f t.length { negated := negated } t with
  | (_, []) => none
  | (l, ']' :: rest) =>
    if l.count ≠ 0 then some (l, ']' :: rest)
    else match f.skip rest with
      | [] => none
      | rest => some (l.push (.one ']'), rest)
  | (l, t) => some (l, t)

/-- A class that is named between `[:` and `:]`. -/
def readNamedClass? (f : Flags) (t : Text) : Option (CharSet × Text) := do
  let t ← Text.after? "[:" t
  let (negated, t) := match t with
    | '^' :: rest => (true, rest)
    | t => (false, t)
  let name := t.takeWhile (· ≠ ':')
  let rest ← Text.after? ":]" (t.drop name.length)
  some ((ClassLevel.fold f (← CharSet.ofAsciiName? name)).negateIf negated, rest)

/-- Whether a piece may be an item of a class. -/
def Flags.allows (f : Flags) : Piece → Bool
  | .char c => f.unicode || c.toNat < 128
  | _ => true

/-- A character or class, escaped or not. -/
def readClassItem? (f : Flags) : Text → Option (Piece × Text)
  | [] => none
  | '\\' :: cs => (readEscape? f cs).filter fun (p, _) ↦ f.allows p
  | c :: cs => if f.allows (.char c) then some (.char c, cs) else none

/-- One item of a class or a span of characters. -/
def readClassRange? (f : Flags) (t : Text) : Option (CharSet × Text) := do
  let (first, rest) ← readClassItem? f t
  let single : Option CharSet :=
    match first with
    | .char c => some (.one c)
    | .set s => some s
    | .look _ => none
  match f.skip rest with
  | [] => none
  | '-' :: cs =>
    match f.skip cs with
    | [] => none
    | next :: more =>
      if next = ']' ∨ next = '-' then some (← single, '-' :: cs)
      else do
        let (second, rest) ← readClassItem? f (next :: more)
        match first, second with
        | .char a, .char b => if a.toNat ≤ b.toNat then some (.span a b, rest) else none
        | _, _ => none
  | rest => some (← single, rest)

/-- The rest of a class, inside the classes it is nested in. -/
def readClassBody? (f : Flags) :
    (fuel : Nat) → ClassLevel → (outer : List ClassLevel) → Text → Option (CharSet × Nat × Text)
  | 0, _, _, _ => none
  | fuel + 1, l, outer, t =>
    match f.skip t with
    | [] => none
    | '[' :: cs =>
      match readNamedClass? f ('[' :: cs) with
      | some (s, rest) =>
        if f.unicode ∨ (Text.after? ":^" cs).isNone then
          readClassBody? f fuel (l.push s) outer rest
        else none
      | none => do
        let (inner, rest) ← readClassStart? f cs
        readClassBody? f fuel inner (l :: outer) rest
    | ']' :: cs => do
      let (s, depth) ← l.close? f
      match outer with
      | [] => some (s, depth, cs)
      | parent :: outer => readClassBody? f fuel (parent.pushNested s depth) outer cs
    | '&' :: '&' :: cs => readClassBody? f fuel (l.operate f .inter) outer cs
    | '-' :: '-' :: cs => readClassBody? f fuel (l.operate f .diff) outer cs
    | '~' :: '~' :: cs => readClassBody? f fuel (l.operate f .symmDiff) outer cs
    | t => do
      let (s, rest) ← readClassRange? f t
      readClassBody? f fuel (l.push s) outer rest

/-- A class behind its opening bracket, and how deep classes are nested in it. -/
def readClass? (f : Flags) (t : Text) : Option (CharSet × Nat × Text) := do
  let (l, rest) ← readClassStart? f t
  readClassBody? f (t.length + 1) l [] rest

end PacketFilter.Regex
