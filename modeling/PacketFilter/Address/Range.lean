import PacketFilter.Address.Notation
import PacketFilter.Error
import PacketFilter.Sorted
import PacketFilter.Text.Blank

/-!
# Address ranges

A range is the set of addresses that agree in their first `length` bits. It is kept as its lowest
address, whose remaining bits are zero, so that `1.2.3.4/24` and `1.2.3.0/24` are one value and
are written in one way. That the bits are zero is part of the type, as a divisibility: a range is
built through `Range.cut`, which rounds an address down, or comes from another range.

The order of ranges is by lowest address and then by length. A network therefore stands before
everything inside it, which is the order in which rules are written.
-/

namespace PacketFilter

/-- The addresses of one family that agree in their first `length` bits. -/
structure Range where
  /-- The lowest address of the range. -/
  address : Address
  length : Nat
  length_le : length ≤ address.family.width
  aligned : Bits.values (address.family.width - length) ∣ address.value
  deriving DecidableEq

namespace Range

def family (r : Range) : Family := r.address.family

def size (r : Range) : Nat := Bits.values (r.family.width - r.length)

/-- The range of a given length that an address lies in. -/
def cut (a : Address) (length : Nat) (h : length ≤ a.family.width) : Range where
  address :=
    { family := a.family
      value :=
        a.value / Bits.values (a.family.width - length) * Bits.values (a.family.width - length)
      value_lt := Nat.lt_of_le_of_lt (Nat.div_mul_le_self _ _) a.value_lt }
  length := length
  length_le := h
  aligned := Nat.dvd_mul_left _ _

/-- The range that holds one address only. -/
def host (a : Address) : Range where
  address := a
  length := a.family.width
  length_le := Nat.le_refl _
  aligned := by simp [Bits.values]

/-- The range of an address and a length, unless the family has fewer bits. -/
def new (a : Address) (length : Nat) : Except Error Range :=
  if h : length ≤ a.family.width then .ok (cut a length h)
  else .error (.malformedAddress (a.print ++ "/" ++ Text.decimal length))

/-! ## Notation -/

/-- A length of up to three digits. -/
def readLength? (t : Text) : Option Nat := if t.length ≤ 3 then Text.number? 10 t else none

/-- The range of a text without blanks around it. Without a length it is a single address. -/
def read? (t : Text) : Option Range :=
  match Text.cut? '/' t with
  | none => (Address.parse? t).map host
  | some (address, length) => do
    let a ← Address.read? .ranged address
    let n ← readLength? length
    if h : n ≤ a.family.width then some (cut a n h) else none

/-- The range of `address` or `address/length`, with or without blanks around it. -/
def parse (text : Text) : Except Error Range :=
  let t := Text.trim text
  match read? t with
  | some r => .ok r
  | none => .error (.malformedAddress t)

/-- The written form: the lowest address and the length. -/
def print (r : Range) : Text := r.address.print ++ "/" ++ Text.decimal r.length

/-! ## Containment -/

/-- The value of the highest address. -/
def last (r : Range) : Nat := r.address.value + (r.size - 1)

/-- An address lies in a range if it is of its family and no lower than its lowest and no higher
than its highest address. -/
def Mem (r : Range) (a : Address) : Prop :=
  a.family = r.family ∧ r.address.value ≤ a.value ∧ a.value ≤ r.last

instance : Membership Address Range := ⟨Mem⟩

/-- Whether all of `s` lies in `r`. -/
def contains (r s : Range) : Bool :=
  r.family = s.family && r.address.value ≤ s.address.value && s.last ≤ r.last

/-- The range of `length` bits around `r`. A range that is no longer already is left alone. -/
def supernet (r : Range) (length : Nat) : Range :=
  if h : length < r.length then cut r.address length (Nat.le_trans (Nat.le_of_lt h) r.length_le)
  else r

/-! ## Order -/

/-- Order by lowest address, then by length. -/
def compare (r s : Range) : Ordering :=
  (r.address.compare s.address).then (Ord.compare r.length s.length)

/-- Whether the first range does not come after the second. -/
def le (r s : Range) : Bool := (compare r s).isLE

def distinct (rs : List Range) : List Range := Sorted.dedup (rs.mergeSort le)

end Range
end PacketFilter
