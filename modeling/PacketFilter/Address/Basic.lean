import PacketFilter.Bits
import PacketFilter.Text.Basic

/-!
# Internet addresses

An address is a number of 32 or of 128 bits. One type holds both families, since a range
is cut, widened and compared in the same way in either; the dotted and the colon notation only
matter where addresses are read and written.

The two families never mix: an IPv4 address and the IPv6 address that embeds it are different
addresses. `unmapped` is the one place where the second is taken for the first.
-/

namespace PacketFilter

inductive Family where
  | v4
  | v6
  deriving DecidableEq, Repr

namespace Family

/-- The number of bits of an address. -/
def width : Family → Nat
  | v4 => 32
  | v6 => 128

def name : Family → Text
  | v4 => "v4"
  | v6 => "v6"

end Family

/-- An address of either family, as the number its bits make. -/
structure Address where
  family : Family
  value : Nat
  value_lt : value < Bits.values family.width
  deriving DecidableEq, Repr

namespace Address

/-- The number that digits of base `base` make, most significant first. -/
def assemble (base : Nat) (digits : List Nat) : Nat :=
  digits.foldl (fun n d ↦ n * base + d) 0

/-- The `count` lowest digits of a number in base `base`, most significant first. -/
def digits (base : Nat) : (count : Nat) → Nat → List Nat
  | 0, _ => []
  | count + 1, n => digits base count (n / base) ++ [n % base]

/-- The IPv4 address of a number, taken modulo the number of addresses. -/
def ofV4 (n : Nat) : Address := ⟨.v4, n % Bits.values 32, Nat.mod_lt _ (Bits.values_pos _)⟩

/-- The IPv6 address of a number, taken modulo the number of addresses. -/
def ofV6 (n : Nat) : Address := ⟨.v6, n % Bits.values 128, Nat.mod_lt _ (Bits.values_pos _)⟩

/-- The IPv4 address of its four octets. -/
def ofOctets (octets : List Nat) : Address := ofV4 (assemble 256 octets)

/-- The IPv6 address of its eight groups. -/
def ofGroups (groups : List Nat) : Address := ofV6 (assemble 65536 groups)

/-- The octets of the lowest 32 bits. -/
def octets (a : Address) : List Nat := digits 256 4 a.value

/-- The groups of sixteen bits, eight for an IPv6 address. -/
def groups (a : Address) : List Nat := digits 65536 8 a.value

/-- IPv6 addresses below `::ffff:0:0/96` embed an IPv4 address. -/
def isMapped (a : Address) : Bool := a.family = .v6 && a.value / Bits.values 32 == 0xFFFF

/-- The embedded IPv4 address, if there is one. -/
def unmapped (a : Address) : Address := if a.isMapped then ofV4 a.value else a

/-- Order by family, IPv4 first, and then by value. -/
def compare (a b : Address) : Ordering :=
  match a.family, b.family with
  | .v4, .v6 => .lt
  | .v6, .v4 => .gt
  | _, _ => Ord.compare a.value b.value

end Address
end PacketFilter
