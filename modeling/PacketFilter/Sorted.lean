/-!
# Sorted lists of entries

Services, hit counts and blocks are looked up by key and listed in key order. Each is a list of
entries kept in that order, by insertion at the place the order gives; the order is a function, so
that one set of operations serves texts and ranges.
-/

namespace PacketFilter.Sorted

variable {α β : Type}

def find? (order : α → α → Ordering) (k : α) : List (α × β) → Option β
  | [] => none
  | (a, v) :: rest => if order k a = .eq then some v else find? order k rest

/-- The entries with `f` applied to what stands under `k`, or to `none` if nothing does. -/
def update (order : α → α → Ordering) (k : α) (f : Option β → β) : List (α × β) → List (α × β)
  | [] => [(k, f none)]
  | (a, v) :: rest =>
    match order k a with
    | .lt => (k, f none) :: (a, v) :: rest
    | .eq => (a, f (some v)) :: rest
    | .gt => (a, v) :: update order k f rest

/-- The entries with `v` under `k`, in place of what stood there. -/
def insert (order : α → α → Ordering) (k : α) (v : β) : List (α × β) → List (α × β) :=
  update order k fun _ ↦ v

/-- The entries without the one under `k`. -/
def erase (order : α → α → Ordering) (k : α) : List (α × β) → List (α × β)
  | [] => []
  | (a, v) :: rest => if order k a = .eq then rest else (a, v) :: erase order k rest

/-- Neighbours that are equal are kept once. In a sorted list nothing is left twice. -/
def dedup [DecidableEq α] : List α → List α
  | [] => []
  | [a] => [a]
  | a :: b :: rest => if a = b then dedup (b :: rest) else a :: dedup (b :: rest)

end PacketFilter.Sorted
