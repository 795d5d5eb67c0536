import PacketFilter.Text.Basic

/-!
# Sets of characters as spans

A property of characters is given by the spans of code points that have it. The tables of this
library list them as Unicode publishes them, in hexadecimal and in ascending order, such as
`41-5A 61-7A AA`; `Spans.ofTable` reads that notation.

Ascending order lets a search stop at the first span that starts beyond the character, so that an
ASCII character never walks a whole table.
-/

namespace PacketFilter

/-- Inclusive spans of code points. -/
abbrev Spans := List (Nat × Nat)

namespace Spans

/-- Whether a code point lies in one of the spans, which ascend. -/
def mem (n : Nat) : Spans → Bool
  | [] => false
  | (lo, hi) :: rest => if n < lo then false else n ≤ hi || mem n rest

/-- Whether a character lies in one of the spans, which ascend. -/
def contains (s : Spans) (c : Char) : Bool := mem c.toNat s

/-- A span is one code point or the first and last of several. -/
def spanOf (t : Text) : Nat × Nat :=
  match Text.cut? '-' t with
  | some (lo, hi) => (Text.digitsValue 16 lo, Text.digitsValue 16 hi)
  | none => (Text.digitsValue 16 t, Text.digitsValue 16 t)

/-- The spans a table lists, with spaces or line breaks between them. -/
def ofTable (table : Text) : Spans :=
  ((Text.splitBy (fun c ↦ c = ' ' || c = '\n') table).filter (· ≠ [])).map spanOf

end Spans
end PacketFilter
