import PacketFilter.Text.Basic

/-!
# Lines

A line ends at a line feed, and a carriage return right before it belongs to the ending. A text
that ends with a line feed has no further, empty line after it; a last line without one is a line
as well, and a carriage return at its end is then part of it.
-/

namespace PacketFilter.Text

/-- The pieces between line feeds, each with a flag that says whether a line feed ended it. -/
def lineRuns : Text → List (Text × Bool)
  | [] => []
  | c :: cs =>
    if c = '\n' then ([], true) :: lineRuns cs
    else match lineRuns cs with
      | [] => [([c], false)]
      | (t, ended) :: rest => (c :: t, ended) :: rest

/-- A piece without the carriage return that belongs to its ending. -/
def dropReturn (t : Text) : Text := (beforeEnd? "\r" t).getD t

def lines (t : Text) : List Text :=
  (lineRuns t).map fun (run, ended) ↦ if ended then dropReturn run else run

/-- Line breaks at the end of a single line are no part of it. -/
def chomp (t : Text) : Text := (t.reverse.dropWhile fun c ↦ c = '\n' || c = '\r').reverse

end PacketFilter.Text
