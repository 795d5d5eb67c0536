import PacketFilter.Blocking.Count
import PacketFilter.Proofs.Address.Nesting

/-!
# Pools of addresses

Hits of an address are counted under its pool: the IPv6 range of the pool's length around it, and
an IPv4 address by itself. Ranges are told apart by their pools as far as they do not lie in one
IPv6 range of that length.

The laws that pooling and the order of written rules rest on are those of nested ranges, and they
are put together here (`nested_and_pooled`): containment is a partial order that says of two ranges
what their addresses say, it agrees with the order in which ranges are listed, and a pool is a
widened range, so that to pool a second time changes nothing.
-/

namespace PacketFilter.Range

variable {r s : Range}

/-! ## Pooling -/

/-- Both ranges are one, or both lie in an IPv6 range of the pool's length. -/
def SharesPool (r s : Range) : Prop :=
  r = s ∨ ∃ n : Range, n.family = .v6 ∧ n.length = poolLength ∧
    n.contains r = true ∧ n.contains s = true

theorem pooled_of_v4 (h : r.family = .v4) : r.pooled = r := by rw [pooled, h]

theorem pooled_of_v6 (h : r.family = .v6) : r.pooled = r.supernet poolLength := by rw [pooled, h]

@[simp] theorem family_pooled (r : Range) : r.pooled.family = r.family := by
  cases h : r.family with
  | v4 => rw [pooled_of_v4 h, h]
  | v6 => rw [pooled_of_v6 h, family_supernet, h]

/-- Nothing but an IPv4 range itself is pooled under it. -/
theorem pooled_eq_v4_iff (h : s.family = .v4) : r.pooled = s ↔ r = s := by
  constructor
  · rintro rfl
    rw [pooled_of_v4 (family_pooled r ▸ h)]
  · rintro rfl
    exact pooled_of_v4 h

theorem pooled_eq_of_contains {n : Range} (hfamily : n.family = .v6)
    (hlength : n.length = poolLength) (h : n.contains r = true) : r.pooled = n := by
  obtain ⟨heq, -, hwide⟩ := contains_iff_supernet_eq.mp h
  rw [pooled_of_v6 (heq ▸ hfamily), ← hlength, hwide]

@[simp] theorem pooled_pooled (r : Range) : r.pooled.pooled = r.pooled := by
  cases h : r.family with
  | v4 => rw [pooled_of_v4 h, pooled_of_v4 h]
  | v6 =>
    have hfamily : (r.supernet poolLength).family = .v6 := (family_supernet r _).trans h
    rw [pooled_of_v6 h, pooled_of_v6 hfamily, supernet_supernet, Nat.min_self]

/-- An IPv6 range with all its addresses in one pool lies in the range it is pooled under. -/
private theorem contains_of_le (hfamily : r.family = .v6) (hlength : poolLength ≤ r.length) :
    r.pooled.length = poolLength ∧ r.pooled.contains r = true := by
  rw [pooled_of_v6 hfamily, length_supernet, Nat.min_eq_left hlength]
  exact ⟨rfl, supernet_contains r poolLength⟩

/-- Hits are counted under one range exactly if the ranges share a pool. -/
theorem pooled_eq_iff : r.pooled = s.pooled ↔ r.SharesPool s := by
  constructor
  · intro h
    have hfamily : r.family = s.family := by rw [← family_pooled r, h, family_pooled]
    cases hr : r.family with
    | v4 =>
      rw [pooled_of_v4 hr, pooled_of_v4 (hfamily ▸ hr)] at h
      exact Or.inl h
    | v6 =>
      have hs : s.family = .v6 := hfamily ▸ hr
      by_cases hlong : poolLength ≤ r.length ∧ poolLength ≤ s.length
      · obtain ⟨hlength, hcontains⟩ := contains_of_le hr hlong.1
        exact Or.inr ⟨r.pooled, (family_pooled r).trans hr, hlength, hcontains,
          h ▸ (contains_of_le hs hlong.2).2⟩
      -- A range that is larger than a pool stays as it is, and then so does the other.
      · rw [pooled_of_v6 hr, pooled_of_v6 hs] at h
        have hmin := congrArg length h
        rw [length_supernet, length_supernet] at hmin
        rw [supernet_of_le (by omega), supernet_of_le (by omega)] at h
        exact Or.inl h
  · rintro (rfl | ⟨n, hfamily, hlength, hr, hs⟩)
    · rfl
    · rw [pooled_eq_of_contains hfamily hlength hr, pooled_eq_of_contains hfamily hlength hs]

/-! ## The laws of ranges -/

/-- **The laws of ranges.** A range lies in another exactly if it is of the same family, no shorter,
and widened to the other's length the other itself; which is the case exactly if all of its
addresses are the other's. Ranges with a common address are nested, and containment is a partial
order. Widening gives a range around the one that is widened, and to widen twice is to widen to the
shorter length. A network is listed before its subnets, so that in a sorted list no range stands
behind one that it contains. Pooling a second time changes nothing, and every range in an IPv6 range
of length 64 is pooled under that. -/
theorem nested_and_pooled :
    (∀ r s : Range,
      (r.contains s = true ↔
        r.family = s.family ∧ r.length ≤ s.length ∧ s.supernet r.length = r) ∧
      (r.contains s = true ↔ ∀ a ∈ s, a ∈ r)) ∧
    (∀ (r s : Range) (a : Address), a ∈ r → a ∈ s →
      r.contains s = true ∨ s.contains r = true) ∧
    IsPartialOrder Range (fun r s ↦ r.contains s = true) ∧
    (∀ (r : Range) (p q : Nat),
      (r.supernet p).contains r = true ∧ (r.supernet p).supernet q = r.supernet (min p q)) ∧
    (∀ r s : Range, r.contains s = true → r.le s = true) ∧
    (∀ rs : List Range, rs.Pairwise (fun r s ↦ r.le s = true) →
      rs.Pairwise fun r s ↦ s.contains r = true → s = r) ∧
    (∀ r : Range, r.pooled.pooled = r.pooled) ∧
    ∀ n r : Range, n.family = .v6 → n.length = 64 → n.contains r = true → r.pooled = n :=
  ⟨fun _ _ ↦ ⟨contains_iff_supernet_eq, contains_iff_forall_mem⟩,
    fun _ _ _ ↦ contains_or_contains, inferInstance,
    fun r p q ↦ ⟨supernet_contains r p, supernet_supernet r p q⟩, fun _ _ ↦ le_of_contains,
    fun _ ↦ eq_of_pairwise_le, pooled_pooled, fun _ _ ↦ pooled_eq_of_contains⟩

/-- The range of a length around `10.1.2.3`. -/
private def ten (length : Nat) (h : length ≤ 32) : Range := cut (.ofOctets [10, 1, 2, 3]) length h

/-- The range of a length around `2001:db8:1:2:3:4:5:6`. -/
private def documentation (length : Nat) (h : length ≤ 128) : Range :=
  cut (.ofGroups [0x2001, 0xdb8, 1, 2, 3, 4, 5, 6]) length h

theorem nested_and_pooled_hosts :
    (ten 8 (by decide)).contains (ten 16 (by decide)) = true ∧
    (ten 8 (by decide)).le (ten 16 (by decide)) = true ∧
    ([ten 8 (by decide), ten 16 (by decide)].Pairwise (fun r s ↦ r.le s = true) ∧
      [ten 8 (by decide), ten 16 (by decide)].Pairwise fun r s ↦ s.contains r = true → s = r) ∧
    ((Address.ofOctets [10, 1, 2, 3] ∈ ten 8 (by decide) ∧
        Address.ofOctets [10, 1, 2, 3] ∈ ten 16 (by decide)) ∧
      ((ten 8 (by decide)).contains (ten 16 (by decide)) = true ∨
        (ten 16 (by decide)).contains (ten 8 (by decide)) = true)) ∧
    (documentation 64 (by decide)).family = .v6 ∧ (documentation 64 (by decide)).length = 64 ∧
    (documentation 64 (by decide)).contains (documentation 128 (by decide)) = true ∧
    (documentation 128 (by decide)).pooled = documentation 64 (by decide) := by
  have hcontains : (ten 8 (by decide)).contains (ten 16 (by decide)) = true := by decide +kernel
  have hpool : (documentation 64 (by decide)).contains (documentation 128 (by decide)) = true := by
    decide +kernel
  have hsorted : [ten 8 (by decide), ten 16 (by decide)].Pairwise fun r s ↦ r.le s = true := by
    decide +kernel
  have hwide : Address.ofOctets [10, 1, 2, 3] ∈ ten 8 (by decide) :=
    mem_def.mpr (by decide +kernel)
  have hnarrow : Address.ofOctets [10, 1, 2, 3] ∈ ten 16 (by decide) :=
    mem_def.mpr (by decide +kernel)
  obtain ⟨-, hnested, -, -, hle, hlist, -, hpooled⟩ := nested_and_pooled
  exact ⟨hcontains, hle _ _ hcontains, ⟨hsorted, hlist _ hsorted⟩,
    ⟨⟨hwide, hnarrow⟩, hnested _ _ _ hwide hnarrow⟩, rfl, rfl, hpool, hpooled _ _ rfl rfl hpool⟩

end PacketFilter.Range
