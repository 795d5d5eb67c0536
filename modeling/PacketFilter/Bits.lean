/-!
# Bits

Addresses, lengths and counts are numbers with a fixed number of bits, and the bits of an address
that a range leaves open make as many addresses as they have values.
-/

namespace PacketFilter.Bits

/-- The number of values that a number of bits can have. -/
def values (count : Nat) : Nat := Nat.pow 2 count

theorem values_pos (count : Nat) : 0 < values count := Nat.two_pow_pos count

end PacketFilter.Bits
