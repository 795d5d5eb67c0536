import PacketFilter.Regex.CharSet

/-!
# Patterns

A pattern describes ways to read a stretch of a line, in an order of preference: of an
alternative the left branch goes first, of a greedy repetition the longer. Groups are numbered and
note the text they read.

Everything that flags decide is decided when a pattern is read: letter case is in the classes, and
what `^`, `$` and `.` mean is in the constructors.
-/

namespace PacketFilter.Regex

/-- A condition on a position, read from the characters on both sides of it. -/
inductive Look where
  | textStart
  | textEnd
  | lineStart
  | lineEnd
  /-- As `lineStart`, with `\r\n` and a lone `\r` ending lines as well. -/
  | anyLineStart
  | anyLineEnd
  | wordBoundary (w : CharSet)
  | noWordBoundary (w : CharSet)
  | wordStart (w : CharSet)
  | wordEnd (w : CharSet)
  | wordStartHalf (w : CharSet)
  | wordEndHalf (w : CharSet)
  deriving DecidableEq, Repr

/-- Whether a condition holds between two characters, `none` being the end of the line. -/
def Look.holds : Look → (before after : Option Char) → Bool
  | textStart, b, _ => b.isNone
  | textEnd, _, a => a.isNone
  | lineStart, b, _ => b.all (· == '\n')
  | lineEnd, _, a => a.all (· == '\n')
  | anyLineStart, b, a => b.all fun c ↦ c == '\n' || (c == '\r' && a != some '\n')
  | anyLineEnd, b, a => a.all fun c ↦ c == '\r' || (c == '\n' && b != some '\r')
  | wordBoundary w, b, a => b.any w.contains != a.any w.contains
  | noWordBoundary w, b, a => b.any w.contains == a.any w.contains
  | wordStart w, b, a => !b.any w.contains && a.any w.contains
  | wordEnd w, b, a => b.any w.contains && !a.any w.contains
  | wordStartHalf w, b, _ => !b.any w.contains
  | wordEndHalf w, _, a => !a.any w.contains

inductive Pattern where
  | empty
  | one (s : CharSet)
  | look (l : Look)
  | seq (p q : Pattern)
  | alt (p q : Pattern)
  | group (index : Nat) (name : Option Text) (p : Pattern)
  /-- At least `least` times, and at most `extra` times more. -/
  | times (p : Pattern) (least : Nat) (extra : Option Nat) (greedy : Bool)
  deriving DecidableEq, Repr

namespace Pattern

def char (c : Char) : Pattern := one (.one c)

/-- Whether the pattern can only read the empty text. -/
def readsNothing : Pattern → Bool
  | empty => true
  | one _ => false
  | look _ => true
  | seq p q => p.readsNothing && q.readsNothing
  | alt p q => p.readsNothing && q.readsNothing
  | group _ _ p => p.readsNothing
  | times p _ _ _ => p.readsNothing

/-- A repetition. Repeating what reads nothing more than once adds nothing, and zero times drops
the pattern together with its groups. -/
def repeated (p : Pattern) (least : Nat) (most : Option Nat) (greedy : Bool) : Pattern :=
  let least := if p.readsNothing then min least 1 else least
  let most := if p.readsNothing then some (min (most.getD 1) 1) else most
  if most = some 0 then empty
  else if least = 1 ∧ most = some 1 then p
  else times p least (most.map (· - least)) greedy

/-- The patterns one after the other. -/
def concat : List Pattern → Pattern
  | [] => empty
  | p :: ps => ps.foldl seq p

/-- The first of the patterns that leads to a match. -/
def choice : List Pattern → Pattern
  | [] => empty
  | [p] => p
  | p :: ps => alt p (choice ps)

/-- The groups, by number and name, in order. -/
def groups : Pattern → List (Nat × Option Text)
  | empty | one _ | look _ => []
  | seq p q => p.groups ++ q.groups
  | alt p q => p.groups ++ q.groups
  | group i name p => (i, name) :: p.groups
  | times p _ _ _ => p.groups

/-- The number of the last group. -/
def groupCount (p : Pattern) : Nat := p.groups.foldl (fun n (i, _) ↦ max n i) 0

def groupNamed? (p : Pattern) (name : Text) : Option Nat :=
  (p.groups.find? fun (_, n) ↦ n = some name).map Prod.fst

/-- How many states a matcher needs, with all repetitions written out. Apart from the estimates in
the classes this is a bound: what joins branches and rounds is counted in full for each. -/
def weight : Pattern → Nat
  | empty => 1
  | one s => s.weight
  | look _ => 1
  | seq p q => p.weight + q.weight
  | alt p q => p.weight + q.weight + 3
  | group _ _ p => p.weight + 2
  | times p least extra _ => (p.weight + 2) * max 1 (least + extra.getD 0) + 4

end Pattern
end PacketFilter.Regex
