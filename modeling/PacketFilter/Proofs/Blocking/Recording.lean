import PacketFilter.Proofs.Blocking.Count

/-!
# Sequences of recordings

A count is made by recording hits, for one address, against some ports and some number at a time.
What a recording does is seen under one range only, and there it adds numbers. So after a sequence
of recordings the hits under a range for a port are a sum over the sequence, and the sequence may as
well be a set with repetition.

The trials of a count in logs are such recordings, each of a single hit.
-/

namespace PacketFilter.HitCount

open Sorted

/-- Hits that are recorded at once. -/
structure Recording where
  address : Range
  ports : List Text
  hits : Nat

/-- What a recording counts under a range for a port: its hits, as often as it lists the port. -/
def Recording.hitsAt (x : Recording) (r : Range) (port : Text) : Nat :=
  if x.address.pooled = r then x.hits * x.ports.count port else 0

/-- The count with recordings added one after the other. -/
def recordAll (c : HitCount) (xs : List Recording) : HitCount :=
  xs.foldl (fun c x ↦ c.record x.address x.ports x.hits) c

variable {c : HitCount}

/-! ## One recording -/

theorem hits_record (hc : c.Ordered) (x : Recording) (r : Range) (port : Text) :
    (c.record x.address x.ports x.hits).hits r port = c.hits r port + x.hitsAt r port := by
  rw [hits, portsAt_record hc, Recording.hitsAt]
  by_cases h : x.address.pooled = r
  · rw [if_pos h.symm, if_pos h, PortCounts.of_foldl_add (hc.ascending_portsAt r)]
    rfl
  · rw [if_neg (Ne.symm h), if_neg h]
    rfl

theorem mem_ports_record (hc : c.Ordered) (x : Recording) (r : Range) (port : Text) :
    port ∈ ((c.record x.address x.ports x.hits).portsAt r).map Prod.fst ↔
      (x.address.pooled = r ∧ port ∈ x.ports) ∨ port ∈ (c.portsAt r).map Prod.fst := by
  rw [portsAt_record hc]
  by_cases h : x.address.pooled = r
  · rw [if_pos h.symm, PortCounts.mem_keys_foldl_add (hc.ascending_portsAt r), and_iff_right h]
  · rw [if_neg (Ne.symm h)]
    simp [h]

/-! ## All recordings -/

theorem ordered_recordAll (hc : c.Ordered) (xs : List Recording) : (c.recordAll xs).Ordered :=
  List.foldlRecOn (motive := Ordered) xs _ hc fun _ hc x _ ↦ hc.record x.address x.ports x.hits

theorem hits_recordAll (hc : c.Ordered) (xs : List Recording) (r : Range) (port : Text) :
    (c.recordAll xs).hits r port = c.hits r port + (xs.map (·.hitsAt r port)).sum := by
  induction xs generalizing c with
  | nil => rfl
  | cons x xs ih =>
    have hstep : c.recordAll (x :: xs) = (c.record x.address x.ports x.hits).recordAll xs := rfl
    rw [hstep, ih (hc.record _ _ _), hits_record hc, List.map_cons, List.sum_cons, Nat.add_assoc]

/-- The ranges of a count are those that something was recorded under, even if it was nothing. -/
theorem mem_ranges_recordAll (hc : c.Ordered) (xs : List Recording) (r : Range) :
    r ∈ (c.recordAll xs).entries.map Prod.fst ↔
      (∃ x ∈ xs, x.address.pooled = r) ∨ r ∈ c.entries.map Prod.fst := by
  induction xs generalizing c with
  | nil => simp [recordAll]
  | cons x xs ih =>
    have hstep : c.recordAll (x :: xs) = (c.record x.address x.ports x.hits).recordAll xs := rfl
    rw [hstep, ih (hc.record _ _ _), mem_keys_record hc, List.exists_mem_cons_iff, or_left_comm,
      or_assoc, eq_comm]

theorem mem_ports_recordAll (hc : c.Ordered) (xs : List Recording) (r : Range) (port : Text) :
    port ∈ ((c.recordAll xs).portsAt r).map Prod.fst ↔
      (∃ x ∈ xs, x.address.pooled = r ∧ port ∈ x.ports) ∨
        port ∈ (c.portsAt r).map Prod.fst := by
  induction xs generalizing c with
  | nil => simp [recordAll]
  | cons x xs ih =>
    have hstep : c.recordAll (x :: xs) = (c.record x.address x.ports x.hits).recordAll xs := rfl
    rw [hstep, ih (hc.record _ _ _), mem_ports_record hc, List.exists_mem_cons_iff, or_left_comm,
      or_assoc]

/-! ## Trials -/

/-- What a trial records, if it tells of an address. -/
def Trial.recording? (x : Trial) : Option Recording :=
  x.address?.map fun address ↦ ⟨address, x.file.ports, 1⟩

theorem tallyAll_eq_recordAll (c : HitCount) (xs : List Trial) :
    c.tallyAll xs = c.recordAll (xs.filterMap Trial.recording?) := by
  rw [tallyAll, recordAll, List.foldl_filterMap]
  congr 1
  funext c x
  rw [Trial.tally, Trial.recording?]
  cases x.address? <;> rfl

end PacketFilter.HitCount
