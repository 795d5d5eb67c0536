import PacketFilter.Blocking.Decision
import PacketFilter.Proofs.Blocking.Recording

/-!
# What is blocked

Each range is decided on its own, by the hits that are counted under it. So a decision can be looked
up by its range, and it says exactly which numbers exceed which threshold.

## More hits

Decisions are ordered by what they block: nothing, single ports, every port. More hits or lower
thresholds never lead down in this order. Both are instances of one comparison of the numbers
of a range, since the hits on a port and the hits on all ports only grow when hits are recorded.
-/

namespace PacketFilter

open Sorted

/-! ## Counts of ports -/

namespace PortCounts

variable {cs : PortCounts}

@[simp]
theorem total_cons (c : Text × Nat) (cs : PortCounts) : total (c :: cs) = c.2 + cs.total := by
  have hsum : ∀ cs : PortCounts, cs.total = (cs.map Prod.snd).sum := by
    intro cs
    rw [List.sum_eq_foldl, List.foldl_map]
    rfl
  rw [hsum, hsum, List.map_cons, List.sum_cons]

theorem total_add (hits : Nat) (cs : PortCounts) (port : Text) :
    (add hits cs port).total = cs.total + hits := by
  induction cs with
  | nil => rw [add, update, total_cons, Option.getD_none, Nat.add_comm, Nat.zero_add]
  | cons c cs ih =>
    obtain ⟨p, n⟩ := c
    rw [add] at ih ⊢
    cases horder : Text.compare port p with
    | lt =>
      rw [update_cons_of_lt horder, total_cons, Option.getD_none, Nat.zero_add, Nat.add_comm]
    | eq =>
      rw [update_cons_of_eq horder, total_cons, total_cons, Option.getD_some]
      omega
    | gt =>
      rw [update_cons_of_gt horder, total_cons, total_cons, ih]
      omega

/-- Hits for several ports count in total as often as ports are listed. -/
theorem total_foldl_add (hits : Nat) (ports : List Text) (cs : PortCounts) :
    (ports.foldl (add hits) cs).total = cs.total + hits * ports.length := by
  induction ports generalizing cs with
  | nil => rfl
  | cons port ports ih =>
    rw [List.foldl_cons, ih, total_add, List.length_cons, Nat.mul_succ]
    omega

/-- The ports whose hits exceed a number. -/
def exceeding (limit : Nat) (cs : PortCounts) : List Text :=
  (cs.filter fun (_, hits) ↦ limit < hits).map Prod.fst

theorem mem_exceeding (hcs : Ascending Text.compare cs) {limit : Nat} {p : Text} :
    p ∈ cs.exceeding limit ↔ limit < cs.of p := by
  have hmem : p ∈ cs.exceeding limit ↔ ∃ n, (p, n) ∈ cs ∧ limit < n := by simp [exceeding]
  simp only [hmem, of, ← find?_eq_some_iff hcs]
  cases find? Text.compare p cs with
  | none => simp
  | some n => simp

theorem pairwise_exceeding (hcs : Ascending Text.compare cs) (limit : Nat) :
    (cs.exceeding limit).Pairwise (Text.compare · · = .lt) :=
  List.pairwise_map.mpr (hcs.sublist List.filter_sublist)

/-- The ports that exceed a limit are known by their order and the hits of each. -/
theorem eq_exceeding_iff (hcs : Ascending Text.compare cs) {limit : Nat} {names : List Text} :
    names = cs.exceeding limit ↔
      names.Pairwise (Text.compare · · = .lt) ∧ ∀ p, p ∈ names ↔ limit < cs.of p := by
  constructor
  · rintro rfl
    exact ⟨pairwise_exceeding hcs limit, fun p ↦ mem_exceeding hcs⟩
  · rintro ⟨horder, hmem⟩
    refine eq_of_mem_iff id horder (pairwise_exceeding hcs limit) fun p ↦ ?_
    rw [hmem, mem_exceeding hcs]

theorem exceeding_eq_nil_iff (hcs : Ascending Text.compare cs) {limit : Nat} :
    cs.exceeding limit = [] ↔ ∀ p, cs.of p ≤ limit := by
  simp only [List.eq_nil_iff_forall_not_mem, mem_exceeding hcs, Nat.not_lt]

end PortCounts

/-! ## Decisions in order -/

/-- What is blocked at one time, and at least that at another: perhaps more ports, or all. -/
inductive Block.Within : Option Block → Option Block → Prop where
  | none (x : Option Block) : Within none x
  | all (x : Option Block) : Within x (some .all)
  | ports {names more : List Text} (h : names ⊆ more) :
    Within (some (.ports names)) (some (.ports more))

namespace BlockPolicy

variable {b : BlockPolicy} {cs ds : PortCounts}

/-! ## One range -/

/-- The hits on all ports together exceed their threshold, or those that count against every port
exceed that of one port. -/
def BlocksAll (b : BlockPolicy) (cs : PortCounts) : Prop :=
  b.blockAllAfter < cs.total ∨ b.blockAfter < cs.of SignatureFile.allPorts

theorem decideRange_of_blocksAll (h : b.BlocksAll cs) : b.decideRange cs = some .all := if_pos h

theorem decideRange_of_not_blocksAll (h : ¬b.BlocksAll cs) :
    b.decideRange cs =
      if cs.exceeding b.blockAfter = [] then none
      else some (.ports (cs.exceeding b.blockAfter)) := by
  unfold BlocksAll at h
  rw [decideRange, if_neg h]
  split
  · rename_i hnone
    exact (if_pos hnone).symm
  · rename_i hsome
    exact (if_neg hsome).symm

theorem decideRange_eq_all_iff : b.decideRange cs = some .all ↔ b.BlocksAll cs := by
  refine ⟨fun h ↦ ?_, decideRange_of_blocksAll⟩
  by_contra hall
  rw [decideRange_of_not_blocksAll hall] at h
  split_ifs at h
  cases h

theorem decideRange_eq_ports_iff {names : List Text} :
    b.decideRange cs = some (.ports names) ↔
      ¬b.BlocksAll cs ∧ names ≠ [] ∧ names = cs.exceeding b.blockAfter := by
  by_cases hall : b.BlocksAll cs
  · simp [decideRange_of_blocksAll hall, hall]
  · rw [decideRange_of_not_blocksAll hall]
    by_cases hnone : cs.exceeding b.blockAfter = []
    · simp [hnone]
    · simp only [if_neg hnone, Option.some_inj, Block.ports.injEq, hall, not_false_eq_true,
        true_and]
      constructor
      · rintro rfl
        exact ⟨hnone, rfl⟩
      · rintro ⟨-, rfl⟩
        rfl

theorem decideRange_eq_none_iff :
    b.decideRange cs = none ↔ ¬b.BlocksAll cs ∧ cs.exceeding b.blockAfter = [] := by
  by_cases hall : b.BlocksAll cs
  · simp [decideRange_of_blocksAll hall, hall]
  · simp [decideRange_of_not_blocksAll hall, hall]

/-- Greater numbers and lower thresholds block at least as much. -/
theorem decideRange_within {b' : BlockPolicy} (hcs : Ascending Text.compare cs)
    (hds : Ascending Text.compare ds) (htotal : cs.total ≤ ds.total)
    (hof : ∀ p, cs.of p ≤ ds.of p) (hafter : b.blockAfter ≤ b'.blockAfter)
    (hallAfter : b.blockAllAfter ≤ b'.blockAllAfter) :
    Block.Within (b'.decideRange cs) (b.decideRange ds) := by
  by_cases hall : b.BlocksAll ds
  · rw [decideRange_of_blocksAll hall]
    exact .all _
  have hall' : ¬b'.BlocksAll cs := by
    rintro (h | h)
    · exact hall (Or.inl (by omega))
    · have hle := hof SignatureFile.allPorts
      exact hall (Or.inr (by omega))
  -- Neither blocks every port from here on, so it comes down to which ports are named.
  have hsub : cs.exceeding b'.blockAfter ⊆ ds.exceeding b.blockAfter := by
    intro p hp
    rw [PortCounts.mem_exceeding hcs] at hp
    rw [PortCounts.mem_exceeding hds]
    have hle := hof p
    omega
  rw [decideRange_of_not_blocksAll hall, decideRange_of_not_blocksAll hall']
  by_cases hnone : cs.exceeding b'.blockAfter = []
  · rw [if_pos hnone]
    exact .none _
  · have hsome : ds.exceeding b.blockAfter ≠ [] := fun hnil ↦
      hnone (List.subset_nil.mp (hnil ▸ hsub))
    rw [if_neg hnone, if_neg hsome]
    exact .ports hsub

end BlockPolicy

/-! ## More hits -/

namespace HitCount

variable {c d : HitCount}

/-- No number of hits is greater in one count than in the other, neither on a port nor on all ports
together. -/
structure Below (c d : HitCount) : Prop where
  total : ∀ r, (c.portsAt r).total ≤ (d.portsAt r).total
  hits : ∀ r port, c.hits r port ≤ d.hits r port

theorem Below.refl (c : HitCount) : c.Below c := ⟨fun _ ↦ Nat.le_refl _, fun _ _ ↦ Nat.le_refl _⟩

theorem Below.trans {e : HitCount} (hcd : c.Below d) (hde : d.Below e) : c.Below e where
  total r := Nat.le_trans (hcd.total r) (hde.total r)
  hits r port := Nat.le_trans (hcd.hits r port) (hde.hits r port)

theorem below_record (hc : c.Ordered) (x : Recording) :
    c.Below (c.record x.address x.ports x.hits) where
  total r := by
    rw [portsAt_record hc]
    split_ifs
    · rw [PortCounts.total_foldl_add]
      exact Nat.le_add_right _ _
    · exact Nat.le_refl _
  hits r port := by
    rw [hits_record hc]
    exact Nat.le_add_right _ _

theorem below_recordAll (hc : c.Ordered) (xs : List Recording) : c.Below (c.recordAll xs) := by
  induction xs generalizing c with
  | nil => exact .refl c
  | cons x xs ih => exact (below_record hc x).trans (ih (hc.record x.address x.ports x.hits))

end HitCount

/-! ## All ranges -/

namespace BlockPolicy

variable {b : BlockPolicy} {c : HitCount}

/-- What is decided for a range, if anything. -/
def decision (b : BlockPolicy) (c : HitCount) (r : Range) : Option Block :=
  Sorted.find? Range.compare r (b.decide c)

theorem ascending_decide (hc : c.Ordered) : Ascending Range.compare (b.decide c) :=
  ascending_filterMap hc.ranges b.decideRange

/-- A range without hits is decided like any other. -/
theorem decision_eq (hc : c.Ordered) (r : Range) :
    b.decision c r = b.decideRange (c.portsAt r) := by
  have hempty : b.decideRange [] = none :=
    decideRange_eq_none_iff.mpr ⟨fun h ↦ h.elim (Nat.not_lt_zero _) (Nat.not_lt_zero _), rfl⟩
  rw [decision, decide, find?_filterMap hc.ranges, HitCount.portsAt]
  cases Sorted.find? Range.compare r c.entries with
  | none => exact hempty.symm
  | some cs => rfl

theorem decision_within {d : HitCount} {b' : BlockPolicy} (hc : c.Ordered) (hd : d.Ordered)
    (hbelow : c.Below d) (hafter : b.blockAfter ≤ b'.blockAfter)
    (hallAfter : b.blockAllAfter ≤ b'.blockAllAfter) (r : Range) :
    Block.Within (b'.decision c r) (b.decision d r) := by
  rw [decision_eq hc, decision_eq hd]
  exact decideRange_within (hc.ascending_portsAt r) (hd.ascending_portsAt r) (hbelow.total r)
    (hbelow.hits r) hafter hallAfter

/-- **What is decided.** Decisions stand in the order of their ranges. A range is blocked on every
port exactly if its hits on all ports together exceed one threshold, or those that count against
every port exceed the other. Otherwise it is blocked on the ports whose hits exceed the latter, in
order, if there are any; these are never those that stand for every port. Whatever else is recorded
blocks at least as much, and higher thresholds block at most as much. -/
theorem decision_spec (hc : c.Ordered) :
    Ascending Range.compare (b.decide c) ∧
    (∀ r,
      (b.decision c r = some .all ↔
        b.blockAllAfter < (c.portsAt r).total ∨
          b.blockAfter < c.hits r SignatureFile.allPorts) ∧
      (∀ names, b.decision c r = some (.ports names) ↔
        ¬(b.blockAllAfter < (c.portsAt r).total ∨
            b.blockAfter < c.hits r SignatureFile.allPorts) ∧
          names ≠ [] ∧ names.Pairwise (Text.compare · · = .lt) ∧
          ∀ p, p ∈ names ↔ b.blockAfter < c.hits r p) ∧
      (b.decision c r = none ↔
        (c.portsAt r).total ≤ b.blockAllAfter ∧ ∀ p, c.hits r p ≤ b.blockAfter) ∧
      ∀ names, b.decision c r = some (.ports names) → SignatureFile.allPorts ∉ names) ∧
    (∀ xs r, Block.Within (b.decision c r) (b.decision (c.recordAll xs) r)) ∧
    ∀ (b' : BlockPolicy) r, b.blockAfter ≤ b'.blockAfter → b.blockAllAfter ≤ b'.blockAllAfter →
      Block.Within (b'.decision c r) (b.decision c r) := by
  have hports : ∀ r names, b.decision c r = some (.ports names) ↔
      ¬b.BlocksAll (c.portsAt r) ∧ names ≠ [] ∧ names.Pairwise (Text.compare · · = .lt) ∧
        ∀ p, p ∈ names ↔ b.blockAfter < c.hits r p := by
    intro r names
    rw [decision_eq hc, decideRange_eq_ports_iff,
      PortCounts.eq_exceeding_iff (hc.ascending_portsAt r)]
    rfl
  refine ⟨ascending_decide hc, fun r ↦ ⟨?_, hports r, ?_, ?_⟩, fun xs r ↦ ?_, ?_⟩
  · rw [decision_eq hc]
    exact decideRange_eq_all_iff
  · rw [decision_eq hc, decideRange_eq_none_iff,
      PortCounts.exceeding_eq_nil_iff (hc.ascending_portsAt r), BlocksAll, not_or, Nat.not_lt,
      Nat.not_lt, and_assoc]
    exact and_congr_right fun _ ↦ and_iff_right_of_imp fun h ↦ h SignatureFile.allPorts
  -- Hits that count against every port would have blocked them all.
  · intro names hnames hmem
    obtain ⟨hall, -, -, hnamed⟩ := (hports r names).mp hnames
    exact hall (Or.inr ((hnamed _).mp hmem))
  · exact decision_within hc (HitCount.ordered_recordAll hc xs) (HitCount.below_recordAll hc xs)
      (Nat.le_refl _) (Nat.le_refl _) r
  · intro b' r hafter hallAfter
    exact decision_within hc hc (.refl c) hafter hallAfter r

/-! ## Knocks on three ports -/

private def knocker (n : Fin 256) : Range := .host (.ofOctets [10, 0, 0, n])

/-- More hits on one port than are allowed, and on three ports more than are allowed together. -/
private def knocks : HitCount :=
  .recordAll {} [⟨knocker 1, ["ssh"], 11⟩, ⟨knocker 2, ["ssh", "smtp", "imap"], 9⟩]

theorem decision_spec_knocks :
    knocks.Ordered ∧
    (decision {} knocks (knocker 1) = some (.ports ["ssh"]) ∧
      ∀ p, p ∈ ["ssh".toList] ↔ 10 < knocks.hits (knocker 1) p) ∧
    (25 < (knocks.portsAt (knocker 2)).total ∧ decision {} knocks (knocker 2) = some .all) ∧
    (decision {} knocks (knocker 3) = none ∧ ∀ p, knocks.hits (knocker 3) p ≤ 10) ∧
    Block.Within (decision {} knocks (knocker 1))
      (decision {} (knocks.recordAll [⟨knocker 1, ["smtp"], 15⟩]) (knocker 1)) ∧
    Block.Within (decision { blockAfter := 11 } knocks (knocker 1))
      (decision {} knocks (knocker 1)) := by
  have hordered : knocks.Ordered := HitCount.ordered_recordAll HitCount.ordered_empty _
  obtain ⟨-, hranges, hmore, hhigher⟩ := decision_spec (b := {}) hordered
  have hports : decision {} knocks (knocker 1) = some (.ports ["ssh"]) := by decide +kernel
  have hnone : decision {} knocks (knocker 3) = none := by decide +kernel
  have htotal : 25 < (knocks.portsAt (knocker 2)).total := by decide +kernel
  refine ⟨hordered, ⟨hports, ?_⟩, ⟨htotal, ?_⟩, ⟨hnone, ?_⟩, hmore _ _, hhigher _ _ ?_ ?_⟩
  · exact (((hranges (knocker 1)).2.1 ["ssh"]).mp hports).2.2.2
  · exact (hranges (knocker 2)).1.mpr (Or.inl htotal)
  · exact ((hranges (knocker 3)).2.2.1.mp hnone).2
  · decide
  · decide

end BlockPolicy
end PacketFilter
