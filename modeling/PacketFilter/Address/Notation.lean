import PacketFilter.Address.Basic

/-!
# Reading and writing addresses

IPv4 addresses are four decimal octets between dots. IPv6 addresses are eight hexadecimal groups
between colons; `::` stands once for a run of zero groups, and the last two groups may be written
as an IPv4 address.

An address on its own and the address of `address/length` are read by grammars that differ in two
points, given by `Grammar`: whether an octet may be padded with zeros, and how many groups `::`
has to stand for. The written form is one: lower case, without padding, with the longest run of
two or more zero groups shortened, the first of several; a mapped address shows its octets.
-/

namespace PacketFilter.Address

/-- The points in which notations of addresses differ. -/
structure Grammar where
  /-- An octet may have leading zeros, up to three digits. -/
  paddedOctets : Bool
  /-- The fewest groups that `::` stands for. -/
  shortestRun : Nat

/-- The notation of an address on its own. -/
def Grammar.bare : Grammar := ⟨false, 1⟩

/-- The notation of the address of a range with a length. -/
def Grammar.ranged : Grammar := ⟨true, 0⟩

/-! ## Reading -/

/-- The run of digits a text starts with, at most `most` of them, and what follows. -/
def readDigits? (base most : Nat) (t : Text) : Option (Text × Text) :=
  let run := t.takeWhile fun c ↦ (Text.digitValue? base c).isSome
  if 1 ≤ run.length ∧ run.length ≤ most then some (run, t.drop run.length) else none

/-- A decimal number below 256. -/
def readOctet? (g : Grammar) (t : Text) : Option (Nat × Text) := do
  let (run, rest) ← readDigits? 10 3 t
  let n := Text.digitsValue 10 run
  if n < 256 ∧ (g.paddedOctets ∨ run.length = 1 ∨ run.head? ≠ some '0') then some (n, rest)
  else none

/-- Four octets between dots. -/
def readOctets? (g : Grammar) (t : Text) : Option (List Nat × Text) := do
  let (a, t) ← readOctet? g t
  let (b, t) ← readOctet? g (← Text.after? "." t)
  let (c, t) ← readOctet? g (← Text.after? "." t)
  let (d, t) ← readOctet? g (← Text.after? "." t)
  some ([a, b, c, d], t)

/-- Up to four hexadecimal digits. -/
def readGroup? (t : Text) : Option (Nat × Text) := do
  let (run, rest) ← readDigits? 16 4 t
  some (Text.digitsValue 16 run, rest)

/-- As many groups between colons as there are, at most `most`. An IPv4 address in the place of
two groups ends them; the flag says whether one was read. -/
def readGroups (g : Grammar) : (first : Bool) → (most : Nat) → Text → List Nat × Bool × Text
  | _, 0, t => ([], false, t)
  | first, most + 1, t =>
    let start := if first then some t else Text.after? ":" t
    match (if 1 ≤ most then start.bind (readOctets? g) else none) with
    | some ([a, b, c, d], rest) => ([a * 256 + b, c * 256 + d], true, rest)
    | _ =>
      match start.bind readGroup? with
      | some (n, rest) =>
        let (ns, dotted, rest) := readGroups g false most rest
        (n :: ns, dotted, rest)
      | none => ([], false, t)

/-- The eight groups of an IPv6 address. -/
def readAllGroups? (g : Grammar) (t : Text) : Option (List Nat × Text) :=
  let (head, dotted, rest) := readGroups g true 8 t
  if head.length = 8 then some (head, rest)
  else if dotted then none
  else do
    let rest ← Text.after? "::" rest
    let (tail, _, rest) := readGroups g true (8 - head.length - g.shortestRun) rest
    some (head ++ List.replicate (8 - head.length - tail.length) 0 ++ tail, rest)

/-- What was read, if nothing is left. -/
private def complete? {α : Type} : Option (α × Text) → Option α
  | some (a, []) => some a
  | _ => none

/-- The address a whole text denotes. -/
def read? (g : Grammar) (t : Text) : Option Address :=
  match complete? (readOctets? g t) with
  | some octets => some (ofOctets octets)
  | none => (complete? (readAllGroups? g t)).map ofGroups

/-- The address that an address on its own denotes. -/
def parse? (t : Text) : Option Address := read? .bare t

/-! ## Writing -/

/-- The length of the run of zeros a list starts with. -/
def zeroRun (ns : List Nat) : Nat := (ns.takeWhile (· == 0)).length

/-- Where the longest run of zeros starts and how long it is. The first of several wins; a list
without zeros has an empty run. -/
def longestRun : List Nat → Nat × Nat
  | [] => (0, 0)
  | n :: ns =>
    let here := zeroRun (n :: ns)
    let (start, length) := longestRun ns
    if length ≤ here then (0, here) else (start + 1, length)

/-- Four decimal octets between dots. -/
def dotted (a : Address) : Text := Text.joinWith "." (a.octets.map Text.decimal)

/-- Hexadecimal groups between colons. -/
def colons (groups : List Nat) : Text := Text.joinWith ":" (groups.map Text.hex)

/-- The written form of eight groups. -/
def printGroups (groups : List Nat) : Text :=
  let (start, length) := longestRun groups
  if length ≤ 1 then colons groups
  else colons (groups.take start) ++ "::" ++ colons (groups.drop (start + length))

def print (a : Address) : Text :=
  match a.family with
  | .v4 => dotted a
  | .v6 => if a.isMapped then "::ffff:" ++ dotted a else printGroups a.groups

end PacketFilter.Address
