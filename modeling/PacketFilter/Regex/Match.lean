import PacketFilter.Regex.Basic

/-!
# Matching

`Pattern.ends` lists the positions up to which a pattern can read from a given one, in order of
preference and each once: whatever follows only depends on the position, so a later way to the
same position can never lead to another match. The first position at which the whole pattern can
end is the match, and `search` takes the leftmost start that has one.

A repetition without a bound goes on as long as its rounds read something. A round that reads
nothing ends it, and only the first round may be such.
-/

namespace PacketFilter.Regex

/-- A position in a line, with what the groups have read so far. -/
structure Cursor where
  /-- The character before the position. -/
  before : Option Char
  /-- What follows the position. -/
  ahead : Text
  /-- The number of characters before the position. -/
  offset : Nat
  /-- What groups have read, the latest first. -/
  captures : List (Nat × Text)
  deriving DecidableEq, Repr

namespace Cursor

def start (line : Text) : Cursor := ⟨none, line, 0, []⟩

def next? (c : Cursor) : Option Cursor :=
  match c.ahead with
  | [] => none
  | a :: rest => some { c with before := some a, ahead := rest, offset := c.offset + 1 }

def between (c d : Cursor) : Text := c.ahead.take (d.offset - c.offset)

end Cursor

/-- Positions found so far, the latest first. -/
structure Found where
  cursors : List Cursor := []
  /-- Which rounds have been explored from which offsets. -/
  explored : List (Nat × Nat) := []

namespace Found

/-- The positions in the order in which they were found. -/
def toList (f : Found) : List Cursor := f.cursors.reverse

/-- A position added, unless it was found before. -/
def add (f : Found) (c : Cursor) : Found :=
  if f.cursors.any (·.offset == c.offset) then f else { f with cursors := c :: f.cursors }

/-- Further rounds of `body` from a position, at most `rounds`, the shorter reading last if
`greedy`. Rounds with the same `mark` and offset are explored once. -/
def explore (body : Cursor → List Cursor) (greedy : Bool) (mark : Nat → Nat) :
    (rounds : Nat) → Found → Cursor → Found
  | 0, f, c => f.add c
  | rounds + 1, f, c =>
    let here := (mark rounds, c.offset)
    if here ∈ f.explored then f
    else
      let f := { f with explored := here :: f.explored }
      if greedy then ((body c).foldl (explore body greedy mark rounds) f).add c
      else (body c).foldl (explore body greedy mark rounds) (f.add c)

end Found

/-- The positions of several lists, each once. -/
def gather (cs : List Cursor) (f : Cursor → List Cursor) : List Cursor :=
  (cs.foldl (fun found c ↦ (f c).foldl Found.add found) ({} : Found)).toList

def exactly (body : Cursor → List Cursor) : (count : Nat) → List Cursor → List Cursor
  | 0, cs => cs
  | _, [] => []
  | count + 1, c :: cs => exactly body count (gather (c :: cs) body)

def oneOrMore (body : Cursor → List Cursor) (greedy : Bool) (cs : List Cursor) : List Cursor :=
  let further (c : Cursor) := (body c).filter fun d ↦ c.offset < d.offset
  (cs.foldl
    (fun found c ↦ (body c).foldl
      (fun found d ↦
        if d.offset = c.offset then found.add d
        else found.explore further greedy (fun _ ↦ 0) (d.ahead.length + 1) d)
      found)
    ({} : Found)).toList

def atMost (body : Cursor → List Cursor) (greedy : Bool) (most : Nat) (cs : List Cursor) :
    List Cursor :=
  (cs.foldl (Found.explore body greedy id most) {}).toList

def anyNumber (body : Cursor → List Cursor) (greedy : Bool) (c : Cursor) : List Cursor :=
  let more := oneOrMore body greedy [c]
  gather (if greedy then more ++ [c] else c :: more) ([·])

namespace Pattern

/-- The positions up to which a pattern reads, the preferred first. -/
def ends : Pattern → Cursor → List Cursor
  | empty, c => [c]
  | one s, c =>
    match c.next? with
    | some d => if d.before.any s.contains then [d] else []
    | none => []
  | look l, c => if l.holds c.before c.ahead.head? then [c] else []
  | seq p q, c => gather (p.ends c) q.ends
  | alt p q, c => gather (p.ends c ++ q.ends c) ([·])
  | group i _ p, c =>
    (p.ends c).map fun d ↦ { d with captures := (i, c.between d) :: d.captures }
  | times p least extra greedy, c =>
    match extra with
    | some most => atMost p.ends greedy most (exactly p.ends least [c])
    | none =>
      if least = 0 then anyNumber p.ends greedy c
      else oneOrMore p.ends greedy (exactly p.ends (least - 1) [c])

end Pattern

/-- A match: the text it reads and what its groups have read. -/
structure Match where
  /-- The number of characters before the match. -/
  offset : Nat
  text : Text
  /-- What follows the match. -/
  rest : Text
  captures : List (Nat × Text)
  deriving DecidableEq, Repr

/-- What a group has read, if it took part in the match. -/
def Match.group? (m : Match) (i : Nat) : Option Text :=
  (m.captures.find? fun (j, _) ↦ j = i).map Prod.snd

/-- The preferred match that starts at a position. -/
def Pattern.matchAt? (p : Pattern) (c : Cursor) : Option Match :=
  (p.ends c).head?.map fun d ↦ ⟨c.offset, c.between d, d.ahead, d.captures⟩

/-- The leftmost match from a position on, which is found within `steps` positions. -/
def Pattern.searchFrom? (p : Pattern) : (steps : Nat) → Cursor → Option Match
  | 0, c => p.matchAt? c
  | steps + 1, c =>
    match p.matchAt? c with
    | some m => some m
    | none => c.next?.bind (p.searchFrom? steps)

/-- The leftmost match in a line. -/
def Pattern.search? (p : Pattern) (line : Text) : Option Match :=
  p.searchFrom? line.length (.start line)

end PacketFilter.Regex
