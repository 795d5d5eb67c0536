import PacketFilter.Proofs.Regex.Ends
import PacketFilter.Proofs.Regex.Reading
import PacketFilter.Signature.Basic

/-!
# Signatures that are tied to the end of a line

A signature that is tied to neither end of a line gets a dollar sign behind its text. The sign is an
item of the last branch, and it holds for this branch alone: a match of any other branch may end
anywhere in the line, and what stands behind it is ignored. So only a signature without branches is
tied to the end of the line by the sign.

Within the last branch the sign does what it is there for, unless the signature's flags turn it into
something else. In verbose mode it may be part of a comment, and with lines inside the text it
stands for the end of any of them.
-/

namespace PacketFilter

namespace Regex

/-! ## The last branch -/

namespace Item

@[simp] theorem pattern_concat (is : List Item) :
    (concat is).pattern = .concat (is.reverse.map Item.pattern) := by
  rcases is with _ | ⟨i, _ | ⟨j, is⟩⟩
  · rfl
  · rfl
  · rfl

@[simp] theorem pattern_choice (is : List Item) :
    (choice is).pattern = .choice (is.reverse.map Item.pattern) := by
  rcases is with _ | ⟨i, _ | ⟨j, is⟩⟩
  · rfl
  · rfl
  · rfl

end Item

namespace Pattern

variable {p : Pattern} {l : Look} {c d : Cursor} {m : Match}

theorem holds_of_firstEnd? {ps : List Pattern}
    (h : (concat (ps ++ [look l])).firstEnd? c = some d) : l.holds d.before d.ahead.head? := by
  have hlook : ∀ e : Cursor, (look l).firstEnd? e = some d → l.holds d.before d.ahead.head? := by
    intro e he
    rw [firstEnd?_look] at he
    obtain ⟨hholds, he⟩ := Option.ite_none_right_eq_some.mp he
    exact Option.some.inj he ▸ hholds
  by_cases hps : ps = []
  · subst hps
    exact hlook c h
  · rw [concat_concat hps, firstEnd?_seq] at h
    obtain ⟨e, -, he⟩ := List.exists_of_findSome?_eq_some h
    exact hlook e he

end Pattern

/-- A dollar sign holds at the end of a line and, if lines are told apart, in front of a line
break. -/
theorem eq_nil_of_endLook {f : Flags} {before : Option Char} {ahead : Text}
    (hline : f.multiLine = true → Text.OneLine ahead)
    (h : (Reader.endLook f).holds before ahead.head?) : ahead = [] := by
  rcases ahead with _ | ⟨a, ahead⟩
  · rfl
  · exfalso
    rw [Reader.endLook] at h
    split_ifs at h with hmulti hcrlf
    · exact absurd h nofun
    · have ha := hline (by simpa using hmulti) a List.mem_cons_self
      simp [Look.holds, ha.1, ha.2] at h
    · have ha := hline (by simpa using hmulti) a List.mem_cons_self
      simp [Look.holds, ha.1] at h

end Regex

namespace Signature

open Regex

theorem compile_eq_ok_iff {name source : Text} {s : Signature} :
    compile name source = .ok s ↔
      ∃ p, Regex.Pattern.parse? (expand source) = some p ∧
        (p.groupNamed? addressName).getD 1 ≤ p.groupCount ∧
        s = ⟨name, expand source, p, (p.groupNamed? addressName).getD 1⟩ := by
  rw [compile]
  rcases Regex.Pattern.parse? (expand source) with _ | p
  · constructor
    · intro h
      cases h
    · rintro ⟨_, h, -⟩
      cases h
  simp only [Option.some_inj, exists_eq_left']
  by_cases hfew : p.groupCount < (p.groupNamed? addressName).getD 1
  · rw [if_pos hfew]
    refine iff_of_false (fun h ↦ by cases h) fun h ↦ ?_
    exact absurd hfew (Nat.not_lt.mpr h.1)
  · rw [if_neg hfew, Except.ok.injEq, and_iff_right (Nat.not_lt.mp hfew), eq_comm]

theorem name_of_compile {name source : Text} {s : Signature}
    (h : compile name source = .ok s) : s.name = name := by
  obtain ⟨p, -, -, rfl⟩ := compile_eq_ok_iff.mp h
  rfl

/-! ## Signatures tied to neither end -/

/-- The text of a pattern, with the placeholder replaced. -/
def replaced (source : Text) : Text := Text.replace placeholder addressPattern source

/-- A signature that its author tied to neither end of a line. Its text is that of a pattern, at
whose end verbose mode is off; `r` is what was read up to there. -/
structure IsFree (source : Text) (r : Reader) : Prop where
  start : Text.startsWith (replaced source) "^" = false
  ending : Text.endsWith (replaced source) "$" = false
  read : Reader.readAll? (replaced source).length {} (replaced source) = some r
  plain : r.flags.verbose = false

variable {name source line : Text} {s : Signature} {r : Reader} {m : Match}

theorem IsFree.expand (h : IsFree source r) : expand source = replaced source ++ ['$'] := by
  rw [Signature.expand, ← replaced, anchor, h.start, h.ending]
  rfl

/-- The pattern is a choice among the branches, of which the last is tied to the end. -/
theorem IsFree.pattern (h : IsFree source r) (hs : compile name source = .ok s) :
    s.pattern = .choice (r.branches.reverse.map Item.pattern ++
      [.concat (r.items.reverse.map Item.pattern ++ [.look (Reader.endLook r.flags)])]) := by
  obtain ⟨p, hp, -, rfl⟩ := compile_eq_ok_iff.mp hs
  rw [h.expand, Pattern.parse?, List.length_append] at hp
  obtain ⟨r', hr', hp⟩ := Option.bind_eq_some_iff.mp hp
  have hdollar := Reader.readAll?_append h.read h.plain
  obtain rfl : r.push (.look (Reader.endLook r.flags)) = r' :=
    Option.some.inj (hdollar.symm.trans hr')
  obtain ⟨-, hp⟩ := Option.ite_none_left_eq_some.mp hp
  obtain ⟨-, hp⟩ := Option.ite_none_right_eq_some.mp hp
  rw [← Option.some.inj hp, Reader.branch, Item.pattern_choice, List.reverse_cons, List.map_append,
    List.map_singleton, Item.pattern_concat, Reader.push, List.reverse_cons, List.map_append]
  rfl

/-- **The end of the line.** A match of a signature that its author tied to neither end extends to
the end of the line, or it is a match of a branch in front of the last one. A signature without
branches has no such branch, so that all its matches extend to the end. -/
theorem rest_eq_nil_or_exists_branch (h : IsFree source r)
    (hline : r.flags.multiLine = true → Text.OneLine line) (hs : compile name source = .ok s)
    (hm : s.pattern.search? line = some m) :
    m.rest = [] ∨ ∃ b ∈ r.branches, ∃ front back, line = front ++ back ∧
      b.pattern.matchAt? (.within front back) = some m := by
  obtain ⟨front, back, rfl, hat⟩ := Pattern.exists_of_search? hm
  rw [h.pattern hs] at hat
  rcases Pattern.exists_of_matchAt?_choice hat with hnil | ⟨p, hp, hp'⟩
  · exact absurd hnil (List.append_ne_nil_of_right_ne_nil _ (List.cons_ne_nil _ _))
  · rcases List.mem_append.mp hp with hp | hp
    · obtain ⟨b, hb, rfl⟩ := List.mem_map.mp hp
      exact Or.inr ⟨b, List.mem_reverse.mp hb, front, back, rfl, hp'⟩
    · obtain rfl := List.mem_singleton.mp hp
      obtain ⟨d, hd, rfl⟩ := Option.map_eq_some_iff.mp hp'
      obtain ⟨t, ht⟩ := Pattern.exists_reads (List.mem_of_head? hd)
      refine Or.inl (eq_nil_of_endLook (fun hmulti a ha ↦ ?_) (Pattern.holds_of_firstEnd? hd))
      have hback : back = t ++ d.ahead := ht.ahead
      refine hline hmulti a (List.mem_append_right front ?_)
      rw [hback]
      exact List.mem_append_right t ha

/-- A signature of two branches. -/
private def twoWays : Text := "from __IP__|closed"

private def twoWaysReader : Reader :=
  (Reader.readAll? (replaced twoWays).length {} (replaced twoWays)).get (by decide +kernel)

private def twoWaysSignature : Signature :=
  (compile "login" twoWays).toOption.get (by decide +kernel)

private theorem isFree_twoWays : IsFree twoWays twoWaysReader where
  start := by decide +kernel
  ending := by decide +kernel
  read := (Option.some_get _).symm
  plain := by decide +kernel

private theorem compile_twoWays : compile "login" twoWays = .ok twoWaysSignature := by
  decide +kernel

/-- The last branch matches at the end of a line. -/
theorem rest_eq_nil_or_exists_branch_closed :
    IsFree twoWays twoWaysReader ∧
    (twoWaysReader.flags.multiLine = true → Text.OneLine "connection closed") ∧
    compile "login" twoWays = .ok twoWaysSignature ∧
    ∃ m, twoWaysSignature.pattern.search? "connection closed" = some m ∧
      (m.rest = [] ∨ ∃ b ∈ twoWaysReader.branches, ∃ front back,
        ("connection closed" : Text) = front ++ back ∧
        b.pattern.matchAt? (.within front back) = some m) := by
  have hline : twoWaysReader.flags.multiLine = true → Text.OneLine "connection closed" := by
    decide +kernel
  have hfound : (twoWaysSignature.pattern.search? "connection closed").isSome = true := by
    decide +kernel
  obtain ⟨m, hm⟩ := Option.isSome_iff_exists.mp hfound
  exact ⟨isFree_twoWays, hline, compile_twoWays, m, hm,
    rest_eq_nil_or_exists_branch isFree_twoWays hline compile_twoWays hm⟩

/-- The first branch is not tied to the end of the line: what stands behind its match is
ignored. -/
theorem search?_ignores_rest :
    IsFree twoWays twoWaysReader ∧ compile "login" twoWays = .ok twoWaysSignature ∧
    (twoWaysSignature.pattern.search? "from 10.0.0.1 then more").map Match.rest =
      some " then more" :=
  ⟨isFree_twoWays, compile_twoWays, by decide +kernel⟩

end Signature
end PacketFilter
