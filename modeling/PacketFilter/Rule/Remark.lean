import PacketFilter.Rule.Direction

/-!
# Remarks

Besides commands a script holds comments: a banner over each of its sections, and for every rule
that could not be rendered a line that says so. Each starts with `#`. Titles, names and reasons are
repeated as they stand.
-/

namespace PacketFilter.Remark

def width : Nat := 72

/-- The lines over a section. -/
def banner (title : Text) : List Text :=
  let rule := List.replicate width '#'
  [rule, "#", "# " ++ title, "#", rule]

/-- The line in place of a rule that is left out. -/
def ignoring (d : Direction) (name : Text) (target : Option Text) (reason : Text) : Text :=
  let whom : Text :=
    match target with
    | some address => "to " ++ address ++ " "
    | none => []
  "# Ignoring " ++ d.name ++ " rule " ++ name ++ " " ++ whom ++ "because " ++ reason

end PacketFilter.Remark
