import PacketFilter.Proofs.Blocking.Pools
import PacketFilter.Proofs.Blocking.Recording
import Mathlib.Data.List.Flatten
import Mathlib.Data.List.Perm.Basic

/-!
# Counting in any order

Nothing that is counted depends on the order in which it is seen. Two recordings can be exchanged,
because each updates one entry of a sorted list by adding numbers: under different ranges the two
updates do not meet, and under the same range the sums are the same. The list itself is then the
same, not only what it says, and it does not even have to be sorted for that. A count in logs is a
sequence of recordings, so files, logs and lines can be permuted, and the count over two lists of
logs is the sum of the counts over each.

What a recording says of an address is the range it is pooled under. Ranges inside one IPv6 range of
the pool's length cannot be told apart, and all others can, IPv4 addresses in particular.
-/

namespace PacketFilter

open Sorted

/-! ## Two recordings -/

namespace PortCounts

variable {cs : PortCounts}

theorem add_comm (hits more : Nat) (port p : Text) (cs : PortCounts) :
    add hits (add more cs p) port = add more (add hits cs port) p :=
  update_comm (fun v ↦ Nat.add_right_comm (v.getD 0) more hits) cs

theorem foldl_add_add (hits more : Nat) (ports : List Text) (p : Text) (cs : PortCounts) :
    ports.foldl (add hits) (add more cs p) = add more (ports.foldl (add hits) cs) p :=
  List.foldl_hom (add more · p) fun cs port ↦ add_comm hits more port p cs

theorem foldl_add_comm (hits more : Nat) (ports others : List Text) (cs : PortCounts) :
    ports.foldl (add hits) (others.foldl (add more) cs) =
      others.foldl (add more) (ports.foldl (add hits) cs) := by
  induction others generalizing cs with
  | nil => rfl
  | cons p others ih => rw [List.foldl_cons, ih, foldl_add_add, List.foldl_cons]

theorem foldl_add_perm {ports others : List Text} (h : ports.Perm others) (hits : Nat)
    (cs : PortCounts) : ports.foldl (add hits) cs = others.foldl (add hits) cs :=
  h.foldl_eq' (fun port _ p _ cs ↦ add_comm hits hits p port cs) cs

end PortCounts

namespace HitCount

variable {c : HitCount} {xs ys : List Recording}

theorem record_comm (c : HitCount) (x y : Recording) :
    (c.record x.address x.ports x.hits).record y.address y.ports y.hits =
      (c.record y.address y.ports y.hits).record x.address x.ports x.hits := by
  rw [record, record, record, record]
  refine congrArg HitCount.mk (update_comm (fun found ↦ ?_) c.entries)
  exact PortCounts.foldl_add_comm y.hits x.hits y.ports x.ports (found.getD [])

theorem recordAll_perm (h : xs.Perm ys) (c : HitCount) : c.recordAll xs = c.recordAll ys :=
  h.foldl_eq' (fun x _ y _ c ↦ record_comm c x y) c

/-- Two recordings that differ in the order of the ports at most, and in the place of the address in
its pool. -/
structure Recording.Alike (x y : Recording) : Prop where
  address : x.address.SharesPool y.address
  ports : x.ports.Perm y.ports
  hits : x.hits = y.hits

theorem Recording.Alike.record_eq {x y : Recording} (h : x.Alike y) (c : HitCount) :
    c.record x.address x.ports x.hits = c.record y.address y.ports y.hits := by
  rw [record, record, Range.pooled_eq_iff.mpr h.address, h.hits]
  congr 2
  funext found
  exact PortCounts.foldl_add_perm h.ports y.hits (found.getD [])

theorem recordAll_of_forall₂ (h : List.Forall₂ Recording.Alike xs ys) (c : HitCount) :
    c.recordAll xs = c.recordAll ys := by
  induction h generalizing c with
  | nil => rfl
  | cons hxy _ ih =>
    rw [recordAll, recordAll, List.foldl_cons, List.foldl_cons, hxy.record_eq c]
    exact ih _

/-! ## Sums of counts -/

/-- The sum of two counts, range by range and port by port. -/
structure IsSum (c a b : HitCount) : Prop where
  ordered : c.Ordered
  ranges : ∀ r, r ∈ c.entries.map Prod.fst ↔
    r ∈ a.entries.map Prod.fst ∨ r ∈ b.entries.map Prod.fst
  ports : ∀ r port, port ∈ (c.portsAt r).map Prod.fst ↔
    port ∈ (a.portsAt r).map Prod.fst ∨ port ∈ (b.portsAt r).map Prod.fst
  hits : ∀ r port, c.hits r port = a.hits r port + b.hits r port

theorem Ordered.ext {d : HitCount} (hc : c.Ordered) (hd : d.Ordered)
    (hranges : ∀ r, r ∈ c.entries.map Prod.fst ↔ r ∈ d.entries.map Prod.fst)
    (hports : ∀ r port,
      port ∈ (c.portsAt r).map Prod.fst ↔ port ∈ (d.portsAt r).map Prod.fst)
    (hhits : ∀ r port, c.hits r port = d.hits r port) : c = d := by
  have hcounts : ∀ r, c.portsAt r = d.portsAt r := fun r ↦
    eq_of_getD_eq (hc.ascending_portsAt r) (hd.ascending_portsAt r) 0 (hports r) (hhits r)
  exact congrArg HitCount.mk (eq_of_getD_eq hc.ranges hd.ranges [] hranges hcounts)

theorem IsSum.unique {a b d : HitCount} (hc : c.IsSum a b) (hd : d.IsSum a b) : c = d :=
  hc.ordered.ext hd.ordered (fun r ↦ (hc.ranges r).trans (hd.ranges r).symm)
    (fun r port ↦ (hc.ports r port).trans (hd.ports r port).symm)
    fun r port ↦ (hc.hits r port).trans (hd.hits r port).symm

theorem isSum_recordAll_append (xs ys : List Recording) :
    (recordAll {} (xs ++ ys)).IsSum (recordAll {} xs) (recordAll {} ys) where
  ordered := ordered_recordAll ordered_empty _
  ranges r := by
    simp only [mem_ranges_recordAll ordered_empty, List.mem_append, or_and_right, exists_or,
      List.map_nil, List.not_mem_nil, or_false]
  ports r port := by
    have hempty : port ∉ (portsAt {} r).map Prod.fst := List.not_mem_nil
    simp only [mem_ports_recordAll ordered_empty, List.mem_append, or_and_right, exists_or, hempty,
      or_false]
  hits r port := by
    have hempty : hits {} r port = 0 := rfl
    simp only [hits_recordAll ordered_empty, hempty, Nat.zero_add, List.map_append, List.sum_append]

/-- The hits of an IPv4 address are those that were recorded for this very address. -/
theorem hits_of_v4 (xs : List Recording) {r : Range} (hr : r.family = .v4) (port : Text) :
    (recordAll {} xs).hits r port =
      ((xs.filter (·.address = r)).map fun x ↦ x.hits * x.ports.count port).sum := by
  have hempty : hits {} r port = 0 := rfl
  rw [hits_recordAll ordered_empty, hempty, Nat.zero_add]
  induction xs with
  | nil => rfl
  | cons x xs ih =>
    rw [List.map_cons, List.sum_cons, ih, Recording.hitsAt]
    by_cases h : x.address = r
    · rw [if_pos ((Range.pooled_eq_v4_iff hr).mpr h), List.filter_cons_of_pos (by simpa using h),
        List.map_cons, List.sum_cons]
    · rw [if_neg (mt (Range.pooled_eq_v4_iff hr).mp h),
        List.filter_cons_of_neg (by simpa using h), Nat.zero_add]

/-! ## Files, logs and lines -/

variable {t t' : Tree} {fs fs' : List SignatureFile} {logs logs' : List Path}

theorem sources_perm (h : logs.Perm logs') (f : SignatureFile) :
    (sources f logs).Perm (sources f logs') := by
  rw [sources, sources]
  by_cases hnil : logs = []
  · subst hnil
    rw [List.nil_perm.mp h]
  · have hnil' : logs' ≠ [] := by
      rintro rfl
      exact hnil (List.perm_nil.mp h)
    rw [if_neg hnil, if_neg hnil']
    exact h

theorem sources_of_ne_nil (h : logs ≠ []) (f : SignatureFile) : sources f logs = logs := if_neg h

theorem trials_perm (hfs : fs.Perm fs') (hlogs : logs.Perm logs')
    (hlines : ∀ f ∈ fs, ∀ p ∈ sources f logs, (linesOf t p).Perm (linesOf t' p)) :
    (trials t fs logs).Perm (trials t' fs' logs') := by
  rw [trials, trials]
  refine (List.Perm.flatMap_left fs fun f hf ↦ ?_).trans (hfs.flatMap_right _)
  refine (List.Perm.flatMap_left _ fun p hp ↦ ?_).trans ((sources_perm hlogs f).flatMap_right _)
  exact (hlines f hf p hp).flatMap_right _

theorem trials_append (fs : List SignatureFile) (hlogs : logs ≠ []) (hlogs' : logs' ≠ []) :
    (trials t fs (logs ++ logs')).Perm (trials t fs logs ++ trials t fs logs') := by
  have hboth : logs ++ logs' ≠ [] := List.append_ne_nil_of_left_ne_nil hlogs logs'
  simp only [trials, sources_of_ne_nil hlogs, sources_of_ne_nil hlogs', sources_of_ne_nil hboth,
    List.flatMap_append]
  exact (List.flatMap_append_perm fs _ _).symm

/-- What a count in logs records. -/
def recordings (t : Tree) (fs : List SignatureFile) (logs : List Path) : List Recording :=
  (trials t fs logs).filterMap Trial.recording?

theorem ofLogs_eq_recordAll (h : ∀ f ∈ fs, ∀ p ∈ sources f logs, Countable t p) :
    ofLogs t fs logs = .ok (recordAll {} (recordings t fs logs)) := by
  rw [ofLogs_of_countable h, tallyAll_eq_recordAll]
  rfl

/-- A log that a count gets through in both trees, with the same lines in some order. -/
def SameLines (t t' : Tree) (p : Path) : Prop :=
  Countable t p ∧ Countable t' p ∧ (linesOf t p).Perm (linesOf t' p)

private def early : Text := "from 10.0.0.1\nfrom 2001:db8::1\n"

private def earlyBackward : Text := "from 2001:db8::1\nfrom 10.0.0.1\n"

private def late : Text := "from 2001:db8::2\nfrom nobody\n"

private def lateBackward : Text := "from nobody\nfrom 2001:db8::2\n"

private def nights (first second : Text) : Tree where
  entries := [(["first"], .file (Utf8.encode first)), (["second"], .file (Utf8.encode second))]

private def bothNights : List Path := ["first", "second"]

private def watchOn (ports : Text) : SignatureFile :=
  (SignatureFile.parse "w.patterns" ("ports = " ++ ports ++ "\nfrom (.*)\n")).toOption.getD
    ⟨[], none, [], []⟩

private def watched : List SignatureFile := [watchOn "ssh", watchOn "smtp"]

private def staff : Range := .host (.ofOctets [10, 0, 0, 1])

private def guest (n : Nat) : Range := .host (.ofGroups [0x2001, 0xdb8, 0, 0, 0, 0, 0, n])

private def guests : Range := .cut (.ofGroups [0x2001, 0xdb8, 0, 0, 0, 0, 0, 0]) 64 (by decide)

private theorem sameLines_nights :
    ∀ p ∈ bothNights, SameLines (nights early late) (nights earlyBackward lateBackward) p := by
  intro p hp
  rcases List.mem_pair.mp hp with rfl | rfl
  · exact ⟨Or.inl ⟨early, by decide +kernel⟩, Or.inl ⟨earlyBackward, by decide +kernel⟩,
      by decide +kernel⟩
  · exact ⟨Or.inl ⟨late, by decide +kernel⟩, Or.inl ⟨lateBackward, by decide +kernel⟩,
      by decide +kernel⟩

/-- The recordings of one night, and the same with another guest and in another order. -/
private def visitors (n : Nat) : List Recording := [⟨guest n, ["ssh"], 3⟩, ⟨staff, ["ssh"], 1⟩]

private theorem alike_visitors :
    List.Forall₂ Recording.Alike (visitors 1).reverse (visitors 2).reverse := by
  have hpool : (guest 1).SharesPool (guest 2) :=
    Or.inr ⟨guests, rfl, rfl, by decide +kernel, by decide +kernel⟩
  exact .cons ⟨Or.inl rfl, .refl _, rfl⟩ (.cons ⟨hpool, .refl _, rfl⟩ .nil)

end HitCount
end PacketFilter
