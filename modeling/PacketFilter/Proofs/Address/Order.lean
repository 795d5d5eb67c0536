import PacketFilter.Address.Range
import PacketFilter.Proofs.Sorted

/-!
# Addresses and ranges in order

Ranges are compared by what they are made of, one thing after the other: by family, by the value of
the lowest address and by length. Each of the three is compared by a number, so the laws of the
order are those of numbers, and ranges that compare as equal agree in all three. With these laws
ranges can be the keys of sorted entries, and a list of distinct ranges in order is known from its
members.
-/

namespace PacketFilter

/-! ## Addresses -/

namespace Address

theorem eq_of_family_of_value {a b : Address} (hfamily : a.family = b.family)
    (hvalue : a.value = b.value) : a = b := by
  cases a
  cases b
  simp_all

/-- The place of a family in the order. -/
private def rank : Family → Nat
  | .v4 => 0
  | .v6 => 1

private theorem compare_eq_compareLex :
    compare = compareLex (compareOn fun a ↦ rank a.family) (compareOn value) := by
  funext a b
  cases ha : a.family <;> cases hb : b.family <;>
    simp [compare, compareLex, compareOn, ha, hb, rank] <;> rfl

instance : Std.TransCmp compare := by
  rw [compare_eq_compareLex]
  infer_instance

instance : Std.LawfulEqCmp compare where
  eq_of_compare {a b} h := by
    rw [compare_eq_compareLex, compareLex_eq_eq] at h
    have hrank : rank a.family = rank b.family := Std.LawfulEqCmp.eq_of_compare h.1
    have hfamily : a.family = b.family := by
      cases ha : a.family <;> cases hb : b.family <;> simp_all [rank]
    exact eq_of_family_of_value hfamily (Std.LawfulEqCmp.eq_of_compare h.2)

end Address

/-! ## Ranges -/

namespace Range

theorem eq_of_address_of_length {r s : Range} (haddress : r.address = s.address)
    (hlength : r.length = s.length) : r = s := by
  cases r
  cases s
  cases haddress
  cases hlength
  rfl

private def compareAddresses (r s : Range) : Ordering := r.address.compare s.address

private instance : Std.TransCmp compareAddresses where
  eq_swap {r s} := by
    show r.address.compare s.address = (s.address.compare r.address).swap
    exact Std.OrientedCmp.eq_swap
  isLE_trans {r s t} hrs hst := by
    show (r.address.compare t.address).isLE = true
    exact Std.TransCmp.isLE_trans hrs hst

private theorem compare_eq_compareLex :
    compare = compareLex compareAddresses (compareOn length) := rfl

instance : Std.TransCmp compare := by
  rw [compare_eq_compareLex]
  infer_instance

instance : Std.LawfulEqCmp compare where
  eq_of_compare {r s} h := by
    rw [compare_eq_compareLex, compareLex_eq_eq] at h
    exact eq_of_address_of_length (Std.LawfulEqCmp.eq_of_compare h.1)
      (Std.LawfulEqCmp.eq_of_compare h.2)

@[simp] theorem pairwise_mergeSort (rs : List Range) :
    (rs.mergeSort le).Pairwise fun r s ↦ r.le s = true := by
  refine List.pairwise_mergeSort (fun r s t hrs hst ↦ ?_) (fun r s ↦ ?_) rs
  · exact Std.TransCmp.isLE_trans hrs hst
  · have hswap : compare s r = (compare r s).swap := Std.OrientedCmp.eq_swap
    rw [le, le, hswap]
    cases compare r s <;> rfl

/-! ### Distinct ranges -/

variable {rs ss : List Range} {r : Range}

@[simp] theorem mem_distinct : r ∈ distinct rs ↔ r ∈ rs := by
  rw [distinct, Sorted.mem_dedup, List.mem_mergeSort]

@[simp] theorem pairwise_distinct (rs : List Range) :
    (distinct rs).Pairwise fun r s ↦ r.compare s = .lt :=
  Sorted.pairwise_dedup (pairwise_mergeSort rs)

/-- Neither the order nor the number of times in which ranges are given matters. -/
theorem distinct_congr (h : ∀ r, r ∈ rs ↔ r ∈ ss) : distinct rs = distinct ss := by
  refine Sorted.eq_of_mem_iff id (pairwise_distinct rs) (pairwise_distinct ss) fun r ↦ ?_
  rw [mem_distinct, mem_distinct, h]

end Range
end PacketFilter
