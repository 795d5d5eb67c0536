import PacketFilter.Blocking.Count
import PacketFilter.Proofs.Address.Order
import PacketFilter.Proofs.Except
import PacketFilter.Proofs.Sorted
import Mathlib.Algebra.GroupWithZero.Nat
import Mathlib.Data.List.Count

/-!
# What a count of hits says

Hits are counted by loops inside loops: over the signature files, the logs of each, the lines of
each log and the signatures of the file, and at last over the file's ports. A *trial* is one
signature tried on one line of one log for one file. The loops visit the trials in a fixed order,
and all that a trial does to the count is to add one to each port of its file, under the range it
hits. So a count is a fold over trials, and what it says of a range and a port is a matter of
numbers.

## Ports that are listed twice

Ports are counted as they are listed. A file that lists a port twice counts every hit twice against
it, so the count of a port is the number of its trials only if no file with a hit repeats the port.
-/

namespace PacketFilter

open Sorted

/-! ## Counts of ports -/

namespace PortCounts

variable {cs : PortCounts}

theorem ascending_add (hcs : Ascending Text.compare cs) (hits : Nat) (port : Text) :
    Ascending Text.compare (add hits cs port) := ascending_update hcs port _

theorem of_add (hcs : Ascending Text.compare cs) (hits : Nat) (port p : Text) :
    (add hits cs port).of p = cs.of p + if p = port then hits else 0 := by
  rw [of, of, add]
  by_cases h : p = port
  · subst h
    rw [find?_update_self hcs, if_pos rfl]
    rfl
  · rw [find?_update_of_ne cs h, if_neg h, Nat.add_zero]

/-! Hits for several ports are added for one after the other, for each as often as it is listed. -/

theorem ascending_foldl_add (hcs : Ascending Text.compare cs) (hits : Nat) (ports : List Text) :
    Ascending Text.compare (ports.foldl (add hits) cs) := by
  induction ports generalizing cs with
  | nil => exact hcs
  | cons port ports ih => exact ih (ascending_add hcs hits port)

theorem of_foldl_add (hcs : Ascending Text.compare cs) (hits : Nat) (ports : List Text) (p : Text) :
    of (ports.foldl (add hits) cs) p = cs.of p + hits * ports.count p := by
  induction ports generalizing cs with
  | nil => simp
  | cons port ports ih =>
    rw [List.foldl_cons, ih (ascending_add hcs hits port), of_add hcs]
    by_cases h : p = port
    · rw [if_pos h, h, List.count_cons_self, Nat.mul_succ]
      omega
    · rw [if_neg h, List.count_cons_of_ne (Ne.symm h), Nat.add_zero]

theorem mem_keys_foldl_add (hcs : Ascending Text.compare cs) (hits : Nat) (ports : List Text)
    (p : Text) :
    p ∈ (ports.foldl (add hits) cs).map Prod.fst ↔ p ∈ ports ∨ p ∈ cs.map Prod.fst := by
  induction ports generalizing cs with
  | nil => simp
  | cons port ports ih =>
    rw [List.foldl_cons, ih (ascending_add hcs hits port), add, mem_keys_update hcs, List.mem_cons]
    tauto

/-- The counts with a hit added for each of several ports. -/
def addAll (cs : PortCounts) (ports : List Text) : PortCounts := ports.foldl (add 1) cs

theorem of_addAll (hcs : Ascending Text.compare cs) (ports : List Text) (p : Text) :
    (cs.addAll ports).of p = cs.of p + ports.count p := by
  rw [addAll, of_foldl_add hcs, Nat.one_mul]

theorem mem_keys_addAll (hcs : Ascending Text.compare cs) (ports : List Text) (p : Text) :
    p ∈ (cs.addAll ports).map Prod.fst ↔ p ∈ ports ∨ p ∈ cs.map Prod.fst :=
  mem_keys_foldl_add hcs 1 ports p

theorem addAll_append (cs : PortCounts) (ports more : List Text) :
    cs.addAll (ports ++ more) = (cs.addAll ports).addAll more := List.foldl_append

end PortCounts

namespace HitCount

/-! ## Counts of ranges -/

/-- Ranges stand in order, and so do the ports of each. -/
structure Ordered (c : HitCount) : Prop where
  ranges : Ascending Range.compare c.entries
  ports : ∀ e ∈ c.entries, Ascending Text.compare e.2

/-- What is counted under a range. -/
def portsAt (c : HitCount) (r : Range) : PortCounts :=
  (Sorted.find? Range.compare r c.entries).getD []

/-- The hits counted under a range for a port. -/
def hits (c : HitCount) (r : Range) (port : Text) : Nat := (c.portsAt r).of port

@[simp] theorem ordered_empty : Ordered {} := ⟨ascending_nil, fun _ h ↦ absurd h List.not_mem_nil⟩

variable {c : HitCount}

theorem Ordered.ascending_portsAt (hc : c.Ordered) (r : Range) :
    Ascending Text.compare (c.portsAt r) := by
  rw [portsAt]
  cases hfind : Sorted.find? Range.compare r c.entries with
  | none => exact ascending_nil
  | some cs => exact hc.ports (r, cs) (mem_of_find? hfind)

theorem portsAt_record (hc : c.Ordered) (address : Range) (ports : List Text) (hits : Nat)
    (r : Range) :
    (c.record address ports hits).portsAt r =
      if r = address.pooled then ports.foldl (PortCounts.add hits) (c.portsAt r)
      else c.portsAt r := by
  rw [portsAt, portsAt, record]
  by_cases h : r = address.pooled
  · rw [if_pos h, h, find?_update_self hc.ranges]
    rfl
  · rw [if_neg h, find?_update_of_ne c.entries h]

theorem mem_keys_record (hc : c.Ordered) (address : Range) (ports : List Text) (hits : Nat)
    (r : Range) :
    r ∈ (c.record address ports hits).entries.map Prod.fst ↔
      r = address.pooled ∨ r ∈ c.entries.map Prod.fst := mem_keys_update hc.ranges

theorem Ordered.record (hc : c.Ordered) (address : Range) (ports : List Text) (hits : Nat) :
    (c.record address ports hits).Ordered := by
  refine ⟨ascending_update hc.ranges _ _, fun e he ↦ ?_⟩
  rcases (mem_update_iff hc.ranges).mp he with rfl | ⟨-, he⟩
  · exact PortCounts.ascending_foldl_add (hc.ascending_portsAt address.pooled) hits ports
  · exact hc.ports e he

/-! ## Trials -/

/-- One signature of a file, tried on one line of a log. -/
structure Trial where
  file : SignatureFile
  line : Text
  signature : Signature

namespace Trial

/-- The address that the line tells of, if the signature matches it. -/
def address? (x : Trial) : Option Range :=
  (x.signature.match? (Text.chomp x.line)).bind Hit.address

/-- The signature matches the line, with an address that is counted under the range. -/
def Hits (r : Range) (x : Trial) : Prop := x.address?.map Range.pooled = some r

instance (r : Range) (x : Trial) : Decidable (x.Hits r) :=
  inferInstanceAs (Decidable (x.address?.map Range.pooled = some r))

/-- The count with a trial added. -/
def tally (c : HitCount) (x : Trial) : HitCount :=
  match x.address? with
  | some address => c.record address x.file.ports 1
  | none => c

end Trial

/-- The ports of all trials that hit a range. -/
def portsHit (xs : List Trial) (r : Range) : List Text :=
  (xs.filter (·.Hits r)).flatMap (·.file.ports)

@[simp] theorem portsHit_cons (x : Trial) (xs : List Trial) (r : Range) :
    portsHit (x :: xs) r = (if x.Hits r then x.file.ports else []) ++ portsHit xs r := by
  by_cases h : x.Hits r
  · rw [if_pos h, portsHit, List.filter_cons_of_pos (by simpa using h)]
    rfl
  · rw [if_neg h, portsHit, List.filter_cons_of_neg (by simpa using h)]
    rfl

theorem ordered_tally (hc : c.Ordered) (x : Trial) : (x.tally c).Ordered := by
  rw [Trial.tally]
  cases x.address? with
  | none => exact hc
  | some address => exact hc.record address x.file.ports 1

/-- A trial adds the ports of its file, under the range that it hits. -/
theorem portsAt_tally (hc : c.Ordered) (x : Trial) (r : Range) :
    (x.tally c).portsAt r = (c.portsAt r).addAll (if x.Hits r then x.file.ports else []) := by
  rw [Trial.tally]
  cases hx : x.address? with
  | none =>
    have hmiss : ¬x.Hits r := by simp [Trial.Hits, hx]
    rw [if_neg hmiss]
    rfl
  | some address =>
    have hhits : x.Hits r ↔ r = address.pooled := by simp [Trial.Hits, hx, eq_comm]
    show (c.record address x.file.ports 1).portsAt r = _
    rw [portsAt_record hc]
    by_cases h : r = address.pooled
    · rw [if_pos h, if_pos (hhits.mpr h)]
      rfl
    · rw [if_neg h, if_neg (mt hhits.mp h)]
      rfl

theorem mem_keys_tally (hc : c.Ordered) (x : Trial) (r : Range) :
    r ∈ (x.tally c).entries.map Prod.fst ↔ x.Hits r ∨ r ∈ c.entries.map Prod.fst := by
  rw [Trial.tally, Trial.Hits]
  cases x.address? with
  | none => simp
  | some address =>
    show r ∈ (c.record address x.file.ports 1).entries.map Prod.fst ↔ _
    rw [mem_keys_record hc, Option.map_some, Option.some_inj, eq_comm]

/-! ## Runs of trials -/

/-- The count with trials added one after the other. -/
def tallyAll (c : HitCount) (xs : List Trial) : HitCount := xs.foldl (fun c x ↦ x.tally c) c

theorem ordered_tallyAll (hc : c.Ordered) (xs : List Trial) : (c.tallyAll xs).Ordered := by
  induction xs generalizing c with
  | nil => exact hc
  | cons x xs ih => exact ih (ordered_tally hc x)

theorem portsAt_tallyAll (hc : c.Ordered) (xs : List Trial) (r : Range) :
    (c.tallyAll xs).portsAt r = (c.portsAt r).addAll (portsHit xs r) := by
  induction xs generalizing c with
  | nil => rfl
  | cons x xs ih =>
    have hstep : c.tallyAll (x :: xs) = (x.tally c).tallyAll xs := rfl
    rw [hstep, ih (ordered_tally hc x), portsAt_tally hc, portsHit_cons, PortCounts.addAll_append]

theorem portsAt_tallyAll_empty (xs : List Trial) (r : Range) :
    (tallyAll {} xs).portsAt r = PortCounts.addAll [] (portsHit xs r) :=
  portsAt_tallyAll ordered_empty xs r

theorem mem_keys_tallyAll (hc : c.Ordered) (xs : List Trial) (r : Range) :
    r ∈ (c.tallyAll xs).entries.map Prod.fst ↔
      (∃ x ∈ xs, x.Hits r) ∨ r ∈ c.entries.map Prod.fst := by
  induction xs generalizing c with
  | nil => simp [tallyAll]
  | cons x xs ih =>
    have hstep : c.tallyAll (x :: xs) = (x.tally c).tallyAll xs := rfl
    rw [hstep, ih (ordered_tally hc x), mem_keys_tally hc, List.exists_mem_cons_iff, or_left_comm,
      or_assoc]

/-! ## The trials of a count -/

/-- The lines of a log that can be read. -/
def linesOf (t : Tree) (p : Path) : List Text :=
  match t.readText p with
  | .ok content => Text.lines content
  | .error _ => []

/-- The trials of a file on lines of a log. -/
def trialsOn (f : SignatureFile) (lines : List Text) : List Trial :=
  lines.flatMap fun line ↦ f.signatures.map (⟨f, line, ·⟩)

/-- The trials of files, each on its logs or on the given ones. -/
def trials (t : Tree) (fs : List SignatureFile) (logs : List Path) : List Trial :=
  fs.flatMap fun f ↦ (sources f logs).flatMap fun p ↦ trialsOn f (linesOf t p)

theorem recordHits_apply (c : HitCount) (f : SignatureFile) (lines : List Text) :
    c.recordHits f (f.apply lines) = c.tallyAll (trialsOn f lines) := by
  rw [recordHits, SignatureFile.apply, Signature.applyAll, tallyAll, trialsOn, List.foldl_flatMap,
    List.foldl_flatMap]
  congr 1
  funext c line
  rw [List.foldl_filterMap, List.foldl_map]
  congr 1
  funext c s
  rw [Trial.tally, Trial.address?]
  cases s.match? (Text.chomp line) with
  | none => rfl
  | some hit => rfl

/-- A log that a count gets through: a text, or a file that is not there. -/
def Countable (t : Tree) (p : Path) : Prop :=
  (∃ content, t.readText p = .ok content) ∨ t.readText p = .error .notFound

theorem readLog_of_countable {t : Tree} {p : Path} (h : Countable t p) :
    readLog t p = .ok (linesOf t p) := by
  rw [readLog, linesOf]
  rcases h with ⟨content, hread⟩ | hread <;> rw [hread]

theorem countLog_of_countable {t : Tree} {f : SignatureFile} {p : Path} (h : Countable t p)
    (c : HitCount) : countLog t f c p = .ok (c.tallyAll (trialsOn f (linesOf t p))) := by
  rw [countLog, readLog_of_countable h, ← recordHits_apply]
  rfl

/-- A count that gets through all logs is the tally of its trials. -/
theorem ofLogs_of_countable {t : Tree} {fs : List SignatureFile} {logs : List Path}
    (h : ∀ f ∈ fs, ∀ p ∈ sources f logs, Countable t p) :
    ofLogs t fs logs = .ok (tallyAll {} (trials t fs logs)) := by
  -- The inner loop over the logs of one file first, then the outer one over the files.
  have hfile : ∀ f ∈ fs, ∀ c : HitCount, (sources f logs).foldlM (countLog t f) c =
      .ok ((sources f logs).foldl (fun c p ↦ c.tallyAll (trialsOn f (linesOf t p))) c) :=
    fun f hf ↦ foldlM_eq_ok fun p hp ↦ countLog_of_countable (h f hf p hp)
  rw [ofLogs, foldlM_eq_ok hfile, tallyAll, trials, List.foldl_flatMap]
  congr 2
  funext c f
  rw [List.foldl_flatMap]
  rfl

theorem ofLogs_eq_tallyAll {t : Tree} {fs : List SignatureFile} {logs : List Path}
    (h : ∀ f ∈ fs, ∀ p ∈ sources f logs, ∃ content, t.readText p = .ok content) :
    ofLogs t fs logs = .ok (tallyAll {} (trials t fs logs)) :=
  ofLogs_of_countable fun f hf p hp ↦ Or.inl (h f hf p hp)

/-! ## Every hit once -/

/-- Numbers sum up to at least as many as are positive, and to no more exactly if none exceeds
one. -/
theorem sum_eq_length_filter_iff {α : Type} (f : α → Nat) (xs : List α) :
    (xs.filter fun x ↦ 0 < f x).length ≤ (xs.map f).sum ∧
      ((xs.map f).sum = (xs.filter fun x ↦ 0 < f x).length ↔ ∀ x ∈ xs, f x ≤ 1) := by
  induction xs with
  | nil => simp
  | cons x xs ih =>
    obtain ⟨hle, hiff⟩ := ih
    rw [List.map_cons, List.sum_cons, List.forall_mem_cons, ← hiff]
    by_cases hx : 0 < f x
    · rw [List.filter_cons_of_pos (by simpa using hx), List.length_cons]
      omega
    · rw [List.filter_cons_of_neg (by simpa using hx)]
      omega

/-- A log with two hits of one address and one hit without an address. -/
private def guessLog : Text := "from 10.0.0.1\nfrom 10.0.0.1\nfrom nobody\n"

private def guessTree : Tree where
  entries := [(["log"], .file (Utf8.encode guessLog))]

private def guesses (ports : Text) : Except Error SignatureFile :=
  SignatureFile.parse "ssh.patterns" ("file = log\nports = " ++ ports ++ "\nfrom (.*)\n")

private def onceFile : SignatureFile := (guesses "ssh, smtp").toOption.get (by decide +kernel)

private def twiceFile : SignatureFile := (guesses "ssh, ssh").toOption.get (by decide +kernel)

private def guesser : Range := .host (.ofOctets [10, 0, 0, 1])

private theorem readText_guessTree : guessTree.readText "log" = .ok guessLog := by decide +kernel

private theorem sources_once : sources onceFile [] = ["log".toList] := by decide +kernel

private theorem sources_twice : sources twiceFile [] = ["log".toList] := by decide +kernel

end HitCount
end PacketFilter
