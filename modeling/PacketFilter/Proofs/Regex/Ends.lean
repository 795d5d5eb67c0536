import Mathlib.Data.List.Induction
import PacketFilter.Regex.Match

/-!
# What a pattern reads

The positions up to which a pattern can read are found in an order of preference, each once. Two
things have to be known about them. One is what all of them have in common: whatever holds of the
start, and goes on to hold when a character is passed or a group notes its text, holds of every
end. The other is which of them is the first, or the first at a certain offset, because that one is
the match. Finding each position once does not change either: what is left out is preceded by an end
at the same offset.

So a sequence reads as if all ends of its first part were tried in turn, and an alternative as if
the ends of its second branch came behind those of the first.
-/

namespace PacketFilter.Regex

/-! ## Each position once -/

namespace Found

variable {f : Found} {c d : Cursor} {cs : List Cursor}

theorem toList_add (f : Found) (c : Cursor) :
    (f.add c).toList =
      if f.toList.any (·.offset == c.offset) then f.toList else f.toList ++ [c] := by
  rw [add, toList, toList, List.any_reverse]
  split
  · rfl
  · exact List.reverse_cons

theorem mem_cursors_add (h : d ∈ (f.add c).cursors) : d ∈ f.cursors ∨ d = c := by
  rw [add] at h
  split at h
  · exact Or.inl h
  · exact (List.mem_cons.mp h).symm

/-- The first position that was found stays the first. -/
@[simp] theorem head?_add (f : Found) (c : Cursor) :
    (f.add c).toList.head? = f.toList.head?.or (some c) := by
  rw [toList_add]
  split
  · rename_i hany
    obtain ⟨d, hd, -⟩ := List.any_eq_true.mp hany
    obtain ⟨first, rest, heq⟩ := List.exists_cons_of_ne_nil (List.ne_nil_of_mem hd)
    rw [heq]
    rfl
  · exact List.head?_append

@[simp] theorem head?_foldl_add (cs : List Cursor) (f : Found) :
    (cs.foldl add f).toList.head? = f.toList.head?.or cs.head? := by
  induction cs generalizing f with
  | nil => exact Option.or_none.symm
  | cons c cs ih =>
    rw [List.foldl_cons, ih, head?_add, Option.or_assoc]
    rfl

end Found

variable {body : Cursor → List Cursor} {c d : Cursor} {cs : List Cursor}

theorem gather_eq (cs : List Cursor) (body : Cursor → List Cursor) :
    gather cs body = ((cs.flatMap body).foldl Found.add {}).toList := by
  rw [gather, List.foldl_flatMap]

theorem head?_gather (cs : List Cursor) (body : Cursor → List Cursor) :
    (gather cs body).head? = (cs.flatMap body).head? := by
  rw [gather_eq, Found.head?_foldl_add]
  rfl

/-! ## What all positions have in common -/

section Invariant

variable {P : Cursor → Prop} {f : Found}

theorem forall_mem_foldl {α : Type} {step : Found → α → Found} {as : List α}
    (hstep : ∀ f : Found, ∀ a ∈ as, (∀ d ∈ f.cursors, P d) → ∀ d ∈ (step f a).cursors, P d)
    (hf : ∀ d ∈ f.cursors, P d) : ∀ d ∈ (as.foldl step f).cursors, P d := by
  induction as generalizing f with
  | nil => exact hf
  | cons a as ih =>
    rw [List.foldl_cons]
    refine ih (fun f a' ha' ↦ hstep f a' (List.mem_cons_of_mem a ha')) ?_
    exact hstep f a List.mem_cons_self hf

theorem forall_mem_add (hf : ∀ d ∈ f.cursors, P d) (hc : P c) :
    ∀ d ∈ (f.add c).cursors, P d := by
  intro d hd
  rcases Found.mem_cursors_add hd with hd | rfl
  · exact hf d hd
  · exact hc

theorem forall_mem_toList (hf : ∀ d ∈ f.cursors, P d) : ∀ d ∈ f.toList, P d := fun d hd ↦
  hf d (List.mem_reverse.mp hd)

theorem forall_mem_gather (h : ∀ c ∈ cs, ∀ d ∈ body c, P d) : ∀ d ∈ gather cs body, P d := by
  rw [gather_eq]
  refine forall_mem_toList (forall_mem_foldl (fun f c hc hf ↦ ?_) fun d hd ↦ ?_)
  · obtain ⟨c', hc', hc⟩ := List.mem_flatMap.mp hc
    exact forall_mem_add hf (h c' hc' c hc)
  · exact absurd hd List.not_mem_nil

theorem mem_gather (h : d ∈ gather cs body) : ∃ c ∈ cs, d ∈ body c :=
  forall_mem_gather (P := fun d ↦ ∃ c ∈ cs, d ∈ body c) (fun c hc _ hd ↦ ⟨c, hc, hd⟩) d h

variable (hbody : ∀ c, P c → ∀ d ∈ body c, P d)
include hbody

theorem forall_mem_explore (greedy : Bool) (mark : Nat → Nat) (rounds : Nat)
    (hf : ∀ d ∈ f.cursors, P d) (hc : P c) :
    ∀ d ∈ (f.explore body greedy mark rounds c).cursors, P d := by
  induction rounds generalizing f c with
  | zero => exact forall_mem_add hf hc
  | succ rounds ih =>
    rw [Found.explore]
    split
    · exact hf
    · split
      · refine forall_mem_add (forall_mem_foldl (fun f d hd hf ↦ ?_) hf) hc
        exact ih hf (hbody c hc d hd)
      · refine forall_mem_foldl (fun f d hd hf ↦ ?_) (forall_mem_add hf hc)
        exact ih hf (hbody c hc d hd)

theorem forall_mem_exactly (count : Nat) (hcs : ∀ c ∈ cs, P c) :
    ∀ d ∈ exactly body count cs, P d := by
  induction count generalizing cs with
  | zero =>
    rw [exactly]
    exact hcs
  | succ count ih =>
    rcases cs with _ | ⟨c, cs⟩
    · exact hcs
    · exact ih (forall_mem_gather fun c' hc' ↦ hbody c' (hcs c' hc'))

theorem forall_mem_atMost (greedy : Bool) (most : Nat) (hcs : ∀ c ∈ cs, P c) :
    ∀ d ∈ atMost body greedy most cs, P d := by
  refine forall_mem_toList (forall_mem_foldl (fun f c hc hf ↦ ?_) fun d hd ↦ ?_)
  · exact forall_mem_explore hbody greedy id most hf (hcs c hc)
  · exact absurd hd List.not_mem_nil

theorem forall_mem_oneOrMore (greedy : Bool) (hcs : ∀ c ∈ cs, P c) :
    ∀ d ∈ oneOrMore body greedy cs, P d := by
  have hfurther : ∀ c, P c → ∀ d ∈ (body c).filter fun d ↦ c.offset < d.offset, P d :=
    fun c hc d hd ↦ hbody c hc d (List.mem_filter.mp hd).1
  refine forall_mem_toList (forall_mem_foldl (fun f c hc hf ↦ ?_) fun d hd ↦ ?_)
  · refine forall_mem_foldl (fun f d hd hf ↦ ?_) hf
    have hP : P d := hbody c (hcs c hc) d hd
    split
    · exact forall_mem_add hf hP
    · exact forall_mem_explore hfurther greedy _ _ hf hP
  · exact absurd hd List.not_mem_nil

theorem forall_mem_anyNumber (greedy : Bool) (hc : P c) :
    ∀ d ∈ anyNumber body greedy c, P d := by
  have hmore : ∀ d ∈ oneOrMore body greedy [c], P d :=
    forall_mem_oneOrMore hbody greedy fun c' hc' ↦ List.mem_singleton.mp hc' ▸ hc
  refine forall_mem_gather fun d hd d' hd' ↦ ?_
  obtain rfl : d' = d := List.mem_singleton.mp hd'
  split at hd
  · rcases List.mem_append.mp hd with hd | hd
    · exact hmore d' hd
    · exact List.mem_singleton.mp hd ▸ hc
  · rcases List.mem_cons.mp hd with rfl | hd
    · exact hc
    · exact hmore d' hd

end Invariant

/-- What holds of the start of a pattern, and goes on to hold when a character is passed or a group
notes its text, holds of all its ends. -/
theorem Pattern.forall_mem_ends {P : Cursor → Prop}
    (hnext : ∀ c d : Cursor, P c → c.next? = some d → P d)
    (hcapture : ∀ (c : Cursor) (x : Nat × Text), P c → P { c with captures := x :: c.captures })
    (p : Pattern) (hc : P c) : ∀ d ∈ p.ends c, P d := by
  induction p generalizing c with
  | empty =>
    intro d hd
    exact List.mem_singleton.mp hd ▸ hc
  | one s =>
    intro d hd
    rw [ends] at hd
    split at hd
    · rename_i next hnext'
      split at hd
      · exact List.mem_singleton.mp hd ▸ hnext c next hc hnext'
      · exact absurd hd List.not_mem_nil
    · exact absurd hd List.not_mem_nil
  | look l =>
    intro d hd
    rw [ends] at hd
    split at hd
    · exact List.mem_singleton.mp hd ▸ hc
    · exact absurd hd List.not_mem_nil
  | seq p q ihp ihq => exact forall_mem_gather fun d hd ↦ ihq (ihp hc d hd)
  | alt p q ihp ihq =>
    refine forall_mem_gather fun d hd d' hd' ↦ ?_
    obtain rfl : d' = d := List.mem_singleton.mp hd'
    rcases List.mem_append.mp hd with hd | hd
    · exact ihp hc d' hd
    · exact ihq hc d' hd
  | group i name p ih =>
    intro d hd
    obtain ⟨e, he, rfl⟩ := List.mem_map.mp hd
    exact hcapture e _ (ih hc e he)
  | times p least extra greedy ih =>
    have hbody : ∀ c, P c → ∀ d ∈ p.ends c, P d := fun c hc ↦ ih hc
    have hstart : ∀ c' ∈ [c], P c' := fun c' hc' ↦ List.mem_singleton.mp hc' ▸ hc
    rcases extra with _ | most
    · rw [ends]
      split
      · exact forall_mem_anyNumber hbody greedy hc
      · exact forall_mem_oneOrMore hbody greedy (forall_mem_exactly hbody _ hstart)
    · exact forall_mem_atMost hbody greedy most (forall_mem_exactly hbody least hstart)

/-! ## The text between two positions -/

namespace Cursor

/-- The position between the two parts of a line, with nothing captured. -/
def within (front back : Text) : Cursor := ⟨front.getLast?, back, front.length, []⟩

/-- The text that lies between two positions. -/
structure Reads (c : Cursor) (t : Text) (d : Cursor) : Prop where
  ahead : c.ahead = t ++ d.ahead
  offset : d.offset = c.offset + t.length
  before : d.before = t.getLast?.or c.before

theorem Reads.refl (c : Cursor) : c.Reads [] c := ⟨rfl, rfl, rfl⟩

theorem Reads.next {c d e : Cursor} {t : Text} (h : c.Reads t d) (hnext : d.next? = some e) :
    ∃ a, c.Reads (t ++ [a]) e := by
  obtain ⟨before, ahead, offset, captures⟩ := d
  rcases ahead with _ | ⟨a, rest⟩
  · exact absurd hnext nofun
  · obtain rfl := Option.some.inj hnext
    refine ⟨a, ?_, ?_, ?_⟩
    · rw [h.ahead, List.append_assoc]
      rfl
    · rw [List.length_append, ← Nat.add_assoc, ← h.offset]
      rfl
    · rw [List.getLast?_concat]
      rfl

theorem Reads.between {c d : Cursor} {t : Text} (h : c.Reads t d) : c.between d = t := by
  rw [Cursor.between, h.offset, Nat.add_sub_cancel_left, h.ahead, List.take_left]

end Cursor

theorem Pattern.exists_reads {p : Pattern} (h : d ∈ p.ends c) : ∃ t, c.Reads t d := by
  refine p.forall_mem_ends (P := fun d ↦ ∃ t, c.Reads t d) ?_ ?_ ⟨[], .refl c⟩ d h
  · rintro d e ⟨t, ht⟩ hnext
    obtain ⟨a, ha⟩ := ht.next hnext
    exact ⟨t ++ [a], ha⟩
  · rintro d x ⟨t, ht⟩
    exact ⟨t, ht.ahead, ht.offset, ht.before⟩

/-! ## The preferred end -/

namespace Pattern

variable {p q : Pattern} {m : Match}

/-- The preferred end of a pattern. -/
def firstEnd? (p : Pattern) (c : Cursor) : Option Cursor := (p.ends c).head?

theorem matchAt?_eq (p : Pattern) (c : Cursor) :
    p.matchAt? c = (p.firstEnd? c).map fun d ↦ ⟨c.offset, c.between d, d.ahead, d.captures⟩ := rfl

/-- A sequence ends where its second part does, behind the first end of its first part from which
there is such an end. -/
@[simp] theorem firstEnd?_seq (p q : Pattern) (c : Cursor) :
    (seq p q).firstEnd? c = (p.ends c).findSome? q.firstEnd? := by
  rw [firstEnd?, ends, head?_gather, List.head?_flatMap]
  rfl

theorem firstEnd?_seq_of_eq_some {e : Cursor} (hp : p.firstEnd? c = some d)
    (hq : q.firstEnd? d = some e) : (seq p q).firstEnd? c = some e := by
  obtain ⟨ds, hds⟩ := List.head?_eq_some_iff.mp hp
  rw [firstEnd?_seq, hds, List.findSome?_cons, hq]

theorem concat_concat {ps : List Pattern} (h : ps ≠ []) (q : Pattern) :
    concat (ps ++ [q]) = seq (concat ps) q := by
  obtain ⟨p, ps, rfl⟩ := List.exists_cons_of_ne_nil h
  rw [List.cons_append, concat, concat, List.foldl_append]
  rfl

/-- Patterns in a row end where following their preferred ends leads, if it leads anywhere. -/
theorem firstEnd?_concat {ps : List Pattern} (h : ps.foldlM (fun c p ↦ p.firstEnd? c) c = some d) :
    (concat ps).firstEnd? c = some d := by
  induction ps using List.reverseRecOn generalizing d with
  | nil => exact h
  | append_singleton ps q ih =>
    rw [List.foldlM_append] at h
    obtain ⟨e, he, h⟩ := Option.bind_eq_some_iff.mp h
    obtain ⟨d', hq, h⟩ := Option.bind_eq_some_iff.mp h
    obtain rfl : d' = d := Option.some.inj h
    by_cases hps : ps = []
    · subst hps
      obtain rfl := Option.some.inj he
      exact hq
    · rw [concat_concat hps]
      exact firstEnd?_seq_of_eq_some (ih he) hq

@[simp] theorem firstEnd?_alt (p q : Pattern) (c : Cursor) :
    (alt p q).firstEnd? c = (p.firstEnd? c).or (q.firstEnd? c) := by
  rw [firstEnd?, ends, head?_gather, List.flatMap_singleton', List.head?_append]
  rfl

@[simp] theorem firstEnd?_look (l : Look) (c : Cursor) :
    (look l).firstEnd? c = if l.holds c.before c.ahead.head? then some c else none := by
  rw [firstEnd?, ends]
  split <;> rfl

@[simp] theorem firstEnd?_group (i : Nat) (name : Option Text) (p : Pattern) (c : Cursor) :
    (group i name p).firstEnd? c =
      (p.firstEnd? c).map fun d ↦ { d with captures := (i, c.between d) :: d.captures } := by
  rw [firstEnd?, ends, List.head?_map]
  rfl

/-- The match of a choice is that of one of its branches. -/
theorem exists_of_matchAt?_choice {ps : List Pattern} (h : (choice ps).matchAt? c = some m) :
    ps = [] ∨ ∃ p ∈ ps, p.matchAt? c = some m := by
  induction ps with
  | nil => exact Or.inl rfl
  | cons p ps ih =>
    refine Or.inr ?_
    rcases ps with _ | ⟨q, ps⟩
    · exact ⟨p, List.mem_singleton_self p, h⟩
    · rw [choice, matchAt?_eq, firstEnd?_alt, Option.map_or, ← matchAt?_eq, ← matchAt?_eq] at h
      · rcases Option.or_eq_some_iff.mp h with h | ⟨-, h⟩
        · exact ⟨p, List.mem_cons_self, h⟩
        · rcases ih h with hnil | ⟨p', hp', h'⟩
          · exact absurd hnil (List.cons_ne_nil q ps)
          · exact ⟨p', List.mem_cons_of_mem p hp', h'⟩
      · exact List.cons_ne_nil q ps

/-! ## The search -/


theorem exists_of_searchFrom? {steps : Nat} {front back : Text}
    (h : p.searchFrom? steps (.within front back) = some m) :
    ∃ front' back', front ++ back = front' ++ back' ∧
      p.matchAt? (.within front' back') = some m := by
  induction steps generalizing front back with
  | zero => exact ⟨front, back, rfl, h⟩
  | succ steps ih =>
    rw [searchFrom?] at h
    split at h
    · rename_i hm
      exact ⟨front, back, rfl, hm.trans h⟩
    · obtain ⟨next, hnext, hfrom⟩ := Option.bind_eq_some_iff.mp h
      rcases back with _ | ⟨a, back⟩
      · exact absurd hnext nofun
      · have hat : next = .within (front ++ [a]) back := by
          rw [← Option.some.inj hnext, Cursor.within, Cursor.within, List.getLast?_concat,
            List.length_append]
          rfl
        rw [hat] at hfrom
        obtain ⟨front', back', heq, hm⟩ := ih hfrom
        exact ⟨front', back', by rw [← heq, List.append_assoc, List.singleton_append], hm⟩

theorem exists_of_search? {line : Text} (h : p.search? line = some m) :
    ∃ front back, line = front ++ back ∧ p.matchAt? (.within front back) = some m := by
  have hstart : Cursor.start line = .within [] line := rfl
  rw [search?, hstart] at h
  exact exists_of_searchFrom? h

theorem search?_of_matchAt? {line : Text} (h : p.matchAt? (.start line) = some m) :
    p.search? line = some m := by
  rw [search?]
  rcases line with _ | ⟨a, line⟩
  · exact h
  · rw [List.length_cons, searchFrom?, h]

end Pattern

/-! ## Characters and their longest run -/

namespace Cursor

/-- The position behind a text, with what follows it. -/
def pass (c : Cursor) (t rest : Text) : Cursor :=
  { c with before := t.getLast?.or c.before, ahead := rest, offset := c.offset + t.length }

@[simp] theorem pass_nil (c : Cursor) : c.pass [] c.ahead = c := rfl

@[simp] theorem pass_pass (c : Cursor) (t u rest : Text) (mid : Text) :
    (c.pass t mid).pass u rest = c.pass (t ++ u) rest := by
  rw [pass, pass, pass, List.getLast?_append, Option.or_assoc, List.length_append, Nat.add_assoc]

theorem next?_eq {a : Char} {rest : Text} (h : c.ahead = a :: rest) :
    c.next? = some (c.pass [a] rest) := by
  rw [next?, h]
  rfl

theorem between_pass {t rest : Text} (h : c.ahead = t ++ rest) : c.between (c.pass t rest) = t :=
  Reads.between ⟨h, rfl, rfl⟩

end Cursor

namespace Pattern

variable {s : CharSet} {a : Char} {run rest : Text} {f : Found}

theorem ends_one (h : c.ahead = a :: rest) :
    (one s).ends c = if s.contains a then [c.pass [a] rest] else [] := by
  rw [ends, Cursor.next?_eq h]
  rfl

theorem ends_one_of_contains (h : c.ahead = a :: rest) (ha : s.contains a) :
    (one s).ends c = [c.pass [a] rest] := by
  rw [ends_one h, if_pos ha]

theorem ends_one_of_not (h : ∀ a ∈ c.ahead.head?, ¬ s.contains a) : (one s).ends c = [] := by
  rcases hahead : c.ahead with _ | ⟨a, rest⟩
  · rw [ends, Cursor.next?, hahead]
  · rw [ends_one hahead, if_neg (h a (by rw [hahead]; rfl))]

@[simp] theorem filter_ends_one (c : Cursor) :
    ((one s).ends c).filter (fun d ↦ c.offset < d.offset) = (one s).ends c := by
  refine List.filter_eq_self.mpr fun d hd ↦ ?_
  rcases hahead : c.ahead with _ | ⟨a, rest⟩
  · rw [ends_one_of_not (by rw [hahead]; exact fun _ h ↦ nomatch h)] at hd
    exact absurd hd List.not_mem_nil
  · rw [ends_one hahead] at hd
    split at hd
    · rw [List.mem_singleton.mp hd]
      exact decide_eq_true (Nat.lt_succ_self c.offset)
    · exact absurd hd List.not_mem_nil

/-- As long as nothing has been found and only positions before this one have been explored, the
first position that further rounds of a character lead to is the end of its run. -/
theorem head?_explore_run (hrun : ∀ a ∈ run, s.contains a)
    (hrest : ∀ a ∈ rest.head?, ¬ s.contains a) {rounds : Nat} (hc : c.ahead = run ++ rest)
    (hrounds : run.length < rounds) (hf : f.cursors = [])
    (hexplored : ∀ e ∈ f.explored, e.2 < c.offset) :
    (f.explore (one s).ends true (fun _ ↦ 0) rounds c).toList.head? = some (c.pass run rest) := by
  induction rounds generalizing run c f with
  | zero => exact absurd hrounds (Nat.not_lt_zero _)
  | succ rounds ih =>
    have hnew : (0, c.offset) ∉ f.explored := fun h ↦ Nat.lt_irrefl _ (hexplored _ h)
    rw [Found.explore, if_neg hnew, if_pos rfl, Found.head?_add]
    rcases run with _ | ⟨a, run⟩
    · rw [ends_one_of_not (by rw [hc]; exact hrest), List.foldl_nil, Found.toList, hf]
      obtain rfl : c.ahead = rest := hc
      rfl
    · have hends : (one s).ends c = [c.pass [a] (run ++ rest)] :=
        ends_one_of_contains hc (hrun a List.mem_cons_self)
      have hfirst : (({ f with explored := (0, c.offset) :: f.explored } : Found).explore
          (one s).ends true (fun _ ↦ 0) rounds (c.pass [a] (run ++ rest))).toList.head? =
            some ((c.pass [a] (run ++ rest)).pass run rest) := by
        refine ih (fun b hb ↦ hrun b (List.mem_cons_of_mem a hb)) rfl
          (Nat.lt_of_succ_lt_succ hrounds) hf fun e he ↦ ?_
        rcases List.mem_cons.mp he with rfl | he
        · exact Nat.lt_succ_self _
        · exact Nat.lt_succ_of_lt (hexplored e he)
      rw [Cursor.pass_pass] at hfirst
      rw [hends, List.foldl_cons, List.foldl_nil, hfirst]
      rfl

/-- A repeated character first reads all of its run. -/
theorem firstEnd?_run (hne : run ≠ []) (hrun : ∀ a ∈ run, s.contains a)
    (hrest : ∀ a ∈ rest.head?, ¬ s.contains a) (hc : c.ahead = run ++ rest) :
    (times (one s) 1 none true).firstEnd? c = some (c.pass run rest) := by
  obtain ⟨a, run, rfl⟩ := List.exists_cons_of_ne_nil hne
  have hends : (one s).ends c = [c.pass [a] (run ++ rest)] :=
    ends_one_of_contains hc (hrun a List.mem_cons_self)
  have hoffset : (c.pass [a] (run ++ rest)).offset ≠ c.offset := Nat.succ_ne_self c.offset
  have hfurther : (fun c ↦ ((one s).ends c).filter fun d ↦ c.offset < d.offset) = (one s).ends :=
    funext filter_ends_one
  rw [firstEnd?, ends, if_neg Nat.one_ne_zero, exactly, oneOrMore, hfurther, List.foldl_cons,
    List.foldl_nil, hends, List.foldl_cons, List.foldl_nil, if_neg hoffset]
  have hrounds : run.length < (run ++ rest).length + 1 := by
    rw [List.length_append]
    omega
  refine (head?_explore_run (fun b hb ↦ hrun b (List.mem_cons_of_mem a hb)) hrest rfl hrounds rfl
    fun _ h ↦ absurd h List.not_mem_nil).trans ?_
  rw [Cursor.pass_pass]
  rfl

@[simp] theorem firstEnd?_optional (p : Pattern) (c : Cursor) :
    (times p 0 (some 1) true).firstEnd? c = (p.firstEnd? c).or (some c) := by
  have hnew : (0, c.offset) ∉ ({} : Found).explored := List.not_mem_nil
  have hround : (atMost p.ends true 1 [c]) = (((p.ends c).foldl Found.add
      { explored := [(0, c.offset)] }).add c).toList := by
    rw [atMost, List.foldl_cons, List.foldl_nil, Found.explore]
    exact congrArg Found.toList (if_neg hnew)
  rw [firstEnd?, ends, exactly, hround, Found.head?_add, Found.head?_foldl_add]
  rfl

end Pattern
end PacketFilter.Regex
