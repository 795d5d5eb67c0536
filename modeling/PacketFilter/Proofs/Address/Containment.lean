import PacketFilter.Proofs.Address.Order

/-!
# Ranges inside ranges

Whether a range lies in another is asked of their lowest and highest addresses. The answer can also
be had by widening: the inner range, widened to the length of the outer one, is the outer one. Both
rest on one fact about numbers: an aligned block of a power of two addresses lies inside a larger
aligned block or outside of it, never across its border.
-/

namespace PacketFilter.Range

/-! ## Widening -/

variable {r s : Range}

theorem size_pos (r : Range) : 0 < r.size := Bits.values_pos _

/-- The longer of two ranges of one family has no more addresses, and they divide the other's. -/
theorem size_dvd_size (hfamily : r.family = s.family) (hlength : r.length ≤ s.length) :
    s.size ∣ r.size := by
  rw [size, size, hfamily]
  exact Nat.pow_dvd_pow 2 (Nat.sub_le_sub_left hlength _)

theorem length_le_of_size_le (hfamily : r.family = s.family) (hsize : s.size ≤ r.size) :
    r.length ≤ s.length := by
  rw [size, size, hfamily] at hsize
  have hopen : s.family.width - s.length ≤ s.family.width - r.length :=
    (Nat.pow_le_pow_iff_right (by decide)).mp hsize
  have hr : r.length ≤ s.family.width := hfamily ▸ r.length_le
  have hs : s.length ≤ s.family.width := s.length_le
  omega

theorem eq_of_value_of_length (hfamily : r.family = s.family)
    (hvalue : r.address.value = s.address.value) (hlength : r.length = s.length) : r = s :=
  eq_of_address_of_length (Address.eq_of_family_of_value hfamily hvalue) hlength

theorem supernet_of_le {length : Nat} (h : r.length ≤ length) : r.supernet length = r :=
  dif_neg (Nat.not_lt.mpr h)

theorem supernet_of_lt {length : Nat} (h : length < r.length) :
    r.supernet length = cut r.address length (Nat.le_trans (Nat.le_of_lt h) r.length_le) :=
  dif_pos h

@[simp]
theorem family_supernet (r : Range) (length : Nat) : (r.supernet length).family = r.family := by
  rcases Nat.lt_or_ge length r.length with h | h
  · rw [supernet_of_lt h]
    rfl
  · rw [supernet_of_le h]

@[simp] theorem length_supernet (r : Range) (length : Nat) :
    (r.supernet length).length = min length r.length := by
  rcases Nat.lt_or_ge length r.length with h | h
  · rw [supernet_of_lt h, Nat.min_eq_left (Nat.le_of_lt h)]
    rfl
  · rw [supernet_of_le h, Nat.min_eq_right h]

theorem value_supernet (r : Range) (length : Nat) :
    (r.supernet length).address.value =
      r.address.value / (r.supernet length).size * (r.supernet length).size := by
  rcases Nat.lt_or_ge length r.length with h | h
  · rw [supernet_of_lt h]
    rfl
  · rw [supernet_of_le h]
    exact (Nat.div_mul_cancel r.aligned).symm

/-! ## Containment -/

theorem contains_iff :
    r.contains s = true ↔
      r.family = s.family ∧ r.address.value ≤ s.address.value ∧ s.last ≤ r.last := by
  rw [contains, Bool.and_eq_true, Bool.and_eq_true, decide_eq_true_eq, decide_eq_true_eq,
    decide_eq_true_eq, and_assoc]

/-- A block that starts in a larger block ends in it as well. -/
private theorem add_le_add_of_dvd {a b m n : Nat} (hmn : m ∣ n) (ha : m ∣ a) (hb : n ∣ b)
    (hlt : a < b + n) : a + m ≤ b + n := by
  obtain ⟨k, hk⟩ := ha
  obtain ⟨q, hq⟩ : m ∣ b + n := Nat.dvd_add (Nat.dvd_trans hmn hb) hmn
  rw [hk, hq] at hlt ⊢
  have hkq : k < q := Nat.lt_of_mul_lt_mul_left hlt
  calc m * k + m = m * (k + 1) := (Nat.mul_succ m k).symm
    _ ≤ m * q := Nat.mul_le_mul_left m hkq

theorem last_lt (r : Range) : r.last < Bits.values r.family.width := by
  have hend : r.address.value + r.size ≤ 0 + Bits.values r.family.width := by
    refine add_le_add_of_dvd ?_ r.aligned (Nat.dvd_zero _) ?_
    · exact Nat.pow_dvd_pow 2 (Nat.sub_le _ _)
    · rw [Nat.zero_add]
      exact r.address.value_lt
  have hpos := r.size_pos
  rw [last]
  omega

/-- A range lies in another exactly if it is no shorter and widening it to the other's length gives
the other. -/
theorem contains_iff_supernet_eq :
    r.contains s = true ↔
      r.family = s.family ∧ r.length ≤ s.length ∧ s.supernet r.length = r := by
  have hr := r.size_pos
  have hs := s.size_pos
  rw [contains_iff, last, last]
  constructor
  · rintro ⟨hfamily, hlow, hhigh⟩
    have hlength : r.length ≤ s.length := length_le_of_size_le hfamily (by omega)
    refine ⟨hfamily, hlength, ?_⟩
    have hfamily' : (s.supernet r.length).family = r.family := by rw [family_supernet, hfamily]
    have hlength' : (s.supernet r.length).length = r.length := by
      rw [length_supernet, Nat.min_eq_left hlength]
    have hsize : (s.supernet r.length).size = r.size := by rw [size, size, hfamily', hlength']
    obtain ⟨k, hk⟩ : r.size ∣ r.address.value := r.aligned
    -- The inner range starts in the block of the outer one, so both are rounded down to it.
    have hblock : s.address.value / r.size = k := by
      refine Nat.div_eq_of_lt_le ?_ ?_
      · rw [Nat.mul_comm, ← hk]
        exact hlow
      · rw [Nat.succ_mul, Nat.mul_comm, ← hk]
        omega
    refine eq_of_value_of_length hfamily' ?_ hlength'
    rw [value_supernet, hsize, hblock, hk, Nat.mul_comm]
  · rintro ⟨hfamily, hlength, hwide⟩
    have hvalue := value_supernet s r.length
    rw [hwide] at hvalue
    have hlow : r.address.value ≤ s.address.value := hvalue ▸ Nat.div_mul_le_self _ _
    have hlt : s.address.value < r.address.value + r.size := by
      rw [hvalue]
      exact Nat.lt_div_mul_add hr
    have hend := add_le_add_of_dvd (size_dvd_size hfamily hlength) s.aligned r.aligned hlt
    exact ⟨hfamily, hlow, by omega⟩

end PacketFilter.Range
