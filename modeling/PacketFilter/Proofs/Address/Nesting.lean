import PacketFilter.Proofs.Address.Containment
import Mathlib.Order.Defs.Unbundled

/-!
# How ranges nest

A range is the set of its addresses. Two such sets are never half inside each other: ranges with an
address in common lie one in the other, so containment orders them as a forest, and widening climbs
it. Everything follows from how widening composes. An address lies in a range exactly if the range
of that one address, widened to the range's length, is the range (`mem_iff_supernet_host`), and to
widen twice is to widen once to the shorter length (`supernet_supernet`); so two ranges around one
address are both widenings of it, and the longer one widens to the shorter.

The order in which ranges are listed agrees with containment. In a sorted list a network therefore
stands before all of its subnets.
-/

namespace PacketFilter.Range

variable {r s u : Range} {a : Address}

/-! ## The addresses of a range -/

theorem mem_def :
    a ∈ r ↔ a.family = r.family ∧ r.address.value ≤ a.value ∧ a.value ≤ r.last := Iff.rfl

@[simp] theorem last_host (a : Address) : (host a).last = a.value := by
  rw [last, size, family]
  simp [host, Bits.values]

/-- An address is in a range as the range of that address alone. -/
@[simp] theorem contains_host_iff : r.contains (host a) = true ↔ a ∈ r := by
  rw [contains_iff, mem_def, last_host, eq_comm]
  rfl

theorem mem_iff_supernet_host :
    a ∈ r ↔ a.family = r.family ∧ (host a).supernet r.length = r := by
  rw [← contains_host_iff, contains_iff_supernet_eq, eq_comm]
  refine and_congr_right fun hfamily ↦ and_iff_right_of_imp fun _ ↦ ?_
  have hwidth : r.family.width = (host a).length := congrArg Family.width hfamily.symm
  exact hwidth ▸ r.length_le

theorem address_mem (r : Range) : r.address ∈ r :=
  mem_def.mpr ⟨rfl, Nat.le_refl _, Nat.le_add_right _ _⟩

/-- The highest address of a range. -/
def highest (r : Range) : Address where
  family := r.family
  value := r.last
  value_lt := r.last_lt

theorem highest_mem (r : Range) : r.highest ∈ r :=
  mem_def.mpr ⟨rfl, Nat.le_add_right _ _, Nat.le_refl _⟩

theorem contains_iff_forall_mem : r.contains s = true ↔ ∀ a ∈ s, a ∈ r := by
  rw [contains_iff]
  constructor
  · rintro ⟨hfamily, hlow, hhigh⟩ a ha
    obtain ⟨hf, hl, hh⟩ := mem_def.mp ha
    exact mem_def.mpr ⟨hf.trans hfamily.symm, Nat.le_trans hlow hl, Nat.le_trans hh hhigh⟩
  · intro h
    obtain ⟨hfamily, hlow, -⟩ := mem_def.mp (h _ s.address_mem)
    exact ⟨hfamily.symm, hlow, (mem_def.mp (h _ s.highest_mem)).2.2⟩

/-! ## Widening -/

@[simp] theorem supernet_supernet (r : Range) (p q : Nat) :
    (r.supernet p).supernet q = r.supernet (min p q) := by
  have hfamily : ((r.supernet p).supernet q).family = (r.supernet (min p q)).family := by
    simp only [family_supernet]
  have hlength : ((r.supernet p).supernet q).length = (r.supernet (min p q)).length := by
    simp only [length_supernet]
    omega
  have hsize : ((r.supernet p).supernet q).size = (r.supernet (min p q)).size := by
    rw [size, size, hfamily, hlength]
  -- Rounding down to a block and then to a larger one is rounding down to the larger one.
  obtain ⟨k, hk⟩ : (r.supernet p).size ∣ ((r.supernet p).supernet q).size := by
    refine size_dvd_size (family_supernet _ _) ?_
    rw [length_supernet]
    exact Nat.min_le_right _ _
  refine eq_of_value_of_length hfamily ?_ hlength
  rw [value_supernet, value_supernet, value_supernet, ← hsize, hk, ← Nat.div_div_eq_div_mul,
    Nat.mul_div_cancel _ (size_pos _), Nat.div_div_eq_div_mul]

@[simp]
theorem supernet_contains (r : Range) (length : Nat) : (r.supernet length).contains r = true := by
  refine contains_iff_supernet_eq.mpr ⟨family_supernet r length, ?_, ?_⟩
  · rw [length_supernet]
    exact Nat.min_le_right _ _
  · rw [length_supernet]
    rcases Nat.le_total length r.length with h | h
    · rw [Nat.min_eq_left h]
    · rw [Nat.min_eq_right h, supernet_of_le h, supernet_of_le (Nat.le_refl _)]

/-! ## Nesting -/

theorem contains_of_mem_of_le (hr : a ∈ r) (hs : a ∈ s) (hlength : r.length ≤ s.length) :
    r.contains s = true := by
  obtain ⟨hfamily, hwide⟩ := mem_iff_supernet_host.mp hr
  obtain ⟨hfamily', hwide'⟩ := mem_iff_supernet_host.mp hs
  refine contains_iff_supernet_eq.mpr ⟨hfamily.symm.trans hfamily', hlength, ?_⟩
  rw [← hwide', supernet_supernet, Nat.min_eq_right hlength, hwide]

theorem contains_or_contains (hr : a ∈ r) (hs : a ∈ s) :
    r.contains s = true ∨ s.contains r = true :=
  (Nat.le_total r.length s.length).imp (contains_of_mem_of_le hr hs) (contains_of_mem_of_le hs hr)

@[simp] theorem contains_refl (r : Range) : r.contains r = true :=
  contains_iff_forall_mem.mpr fun _ h ↦ h

theorem contains_trans (hrs : r.contains s = true) (hsu : s.contains u = true) :
    r.contains u = true := by
  rw [contains_iff_forall_mem] at *
  exact fun a ha ↦ hrs a (hsu a ha)

theorem contains_antisymm (hrs : r.contains s = true) (hsr : s.contains r = true) : r = s := by
  obtain ⟨hfamily, hlength, -⟩ := contains_iff_supernet_eq.mp hrs
  obtain ⟨-, hlength', hwide⟩ := contains_iff_supernet_eq.mp hsr
  rwa [supernet_of_le hlength] at hwide

instance : IsPartialOrder Range fun r s ↦ r.contains s = true where
  refl := contains_refl
  trans _ _ _ := contains_trans
  antisymm _ _ := contains_antisymm

/-! ## Sorted lists -/

/-- A network does not come after its subnets. -/
theorem le_of_contains (h : r.contains s = true) : r.le s = true := by
  obtain ⟨hfamily, hlength, -⟩ := contains_iff_supernet_eq.mp h
  obtain ⟨-, hlow, -⟩ := contains_iff.mp h
  have haddress : r.address.compare s.address = Ord.compare r.address.value s.address.value := by
    have hf : r.address.family = s.address.family := hfamily
    rw [Address.compare, hf]
    cases s.address.family <;> rfl
  rw [le, compare, haddress]
  rcases Nat.lt_or_eq_of_le hlow with hlt | heq
  · rw [Nat.compare_eq_lt.mpr hlt]
    rfl
  · rw [Nat.compare_eq_eq.mpr heq]
    exact Nat.isLE_compare.mpr hlength

/-- In a sorted list nothing stands behind a range that it contains, other than the range itself. -/
theorem eq_of_pairwise_le {rs : List Range} (hsorted : rs.Pairwise fun r s ↦ r.le s = true) :
    rs.Pairwise fun r s ↦ s.contains r = true → s = r := by
  refine hsorted.imp fun {r s} hle hcontains ↦ ?_
  have heq : compare s r = .eq :=
    Std.OrientedCmp.isLE_antisymm (le_of_contains hcontains) hle
  exact Std.LawfulEqCmp.eq_of_compare heq

end PacketFilter.Range
