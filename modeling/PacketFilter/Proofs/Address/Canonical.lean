import PacketFilter.Proofs.Address.Reading

/-!
# One written form for each range

A range is written as its lowest address and its length, and reading that text gives the range back.
So a range has one written form, and two ranges are one if they are written alike.

Most ranges are made by `Range.cut`, whose effect on an address is seen bit by bit: the bits that
the length counts are kept and the others are cleared. A range of the right length that is cut again
stays as it is, which is why nothing is lost when its text is read.
-/

namespace PacketFilter.Range

open Text

/-! ## Bits -/

/-- The number of bits that a range leaves open. -/
def openBits (r : Range) : Nat := r.family.width - r.length

/-- Cutting keeps the bits that the length counts and clears the others. -/
theorem testBit_cut (a : Address) (length : Nat) (h : length ≤ a.family.width) (i : Nat) :
    (cut a length h).address.value.testBit i =
      (decide (a.family.width - length ≤ i) && a.value.testBit i) := by
  show (a.value / 2 ^ (a.family.width - length) * 2 ^ (a.family.width - length)).testBit i = _
  rw [Nat.testBit_mul_two_pow, Nat.testBit_div_two_pow]
  by_cases hi : a.family.width - length ≤ i
  · rw [Nat.sub_add_cancel hi]
  · simp [hi]

theorem testBit_of_lt_openBits (r : Range) {i : Nat} (h : i < r.openBits) :
    r.address.value.testBit i = false := by
  obtain ⟨k, hk⟩ : 2 ^ r.openBits ∣ r.address.value := r.aligned
  rw [hk, Nat.mul_comm, Nat.testBit_mul_two_pow]
  simp [h]

/-- A range is what its own lowest address is cut to. -/
@[simp] theorem cut_address (r : Range) : cut r.address r.length r.length_le = r := by
  have hvalue : (cut r.address r.length r.length_le).address.value = r.address.value :=
    Nat.div_mul_cancel r.aligned
  exact eq_of_address_of_length (Address.eq_of_family_of_value rfl hvalue) rfl

/-! ## Reading a range back -/

theorem readLength?_decimal {n : Nat} (h : n < 1000) : readLength? (decimal n) = some n := by
  have hlength : (decimal n).length ≤ 3 := Nat.toDigits_length 10 n 3 (by decide) (by omega)
  rw [readLength?, if_pos hlength, number?_decimal]

@[simp] theorem read?_print (r : Range) : read? r.print = some r := by
  have hcut : cut? '/' r.print = some (r.address.print, decimal r.length) := by
    rw [print, List.append_assoc]
    exact cut?_append_cons r.address.slash_not_mem_print (decimal r.length)
  have hlength : r.length < 1000 := by
    have hwidth : r.address.family.width ≤ 128 := by cases r.address.family <;> decide
    have := r.length_le
    omega
  have haddress : Address.read? .ranged r.address.print = some r.address :=
    Address.read?_print (by decide) r.address
  rw [read?, hcut]
  simp only [Option.bind_eq_bind, haddress, Option.bind_some, readLength?_decimal hlength,
    dif_pos r.length_le, cut_address]

@[simp] theorem parse_print (r : Range) : parse r.print = .ok r := by
  rw [parse, trim_of_solid r.solid_print]
  simp only [read?_print]

@[simp] theorem print_inj {r s : Range} : r.print = s.print ↔ r = s := by
  refine ⟨fun h ↦ ?_, congrArg print⟩
  have hr : parse s.print = .ok r := by rw [← h, parse_print]
  rw [parse_print, Except.ok.injEq] at hr
  exact hr.symm

/-! ## The written form -/

/-- The written form of a range is canonical. Cutting, by which a range is made of an address and a
length, keeps the bits that the length counts and clears the rest. Of every range, however it was
made, the bits that it leaves open are zero, and its written form is read as the range itself. So
two ranges are written alike only if they are equal. -/
theorem print_canonical :
    (∀ (a : Address) (length : Nat) (h : length ≤ a.family.width) (i : Nat),
      (cut a length h).address.value.testBit i =
        (decide (a.family.width - length ≤ i) && a.value.testBit i)) ∧
    (∀ r : Range, (∀ i < r.openBits, r.address.value.testBit i = false) ∧
      parse r.print = .ok r) ∧
    ∀ r s : Range, r.print = s.print ↔ r = s :=
  ⟨testBit_cut, fun r ↦ ⟨fun _ h ↦ r.testBit_of_lt_openBits h, r.parse_print⟩,
    fun _ _ ↦ print_inj⟩

/-- A range with two runs of zeros of one length, of which the first is shortened. -/
private def tied : Range := cut (Address.ofGroups [1, 0, 0, 2, 0, 0, 3, 4]) 112 (by decide)

theorem print_canonical_tied :
    parse "1:0:0:2:0:0:3:4/112" = .ok tied ∧ tied.print = "1::2:0:0:3:0/112" ∧
    (2 < tied.openBits ∧ tied.address.value.testBit 2 = false) ∧ parse tied.print = .ok tied := by
  have htied := print_canonical.2.1 tied
  exact ⟨by decide +kernel, by decide +kernel, ⟨by decide, htied.1 2 (by decide)⟩, htied.2⟩

end PacketFilter.Range
