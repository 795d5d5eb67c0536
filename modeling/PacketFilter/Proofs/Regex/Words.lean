import Mathlib.Algebra.GroupWithZero.Nat
import PacketFilter.Proofs.Regex.Ends
import PacketFilter.Proofs.Text.Pieces
import PacketFilter.Proofs.Text.Utf8
import PacketFilter.Regex.Parser

/-!
# Texts that stand for themselves

Of the characters of a pattern's text most stand for themselves, and a pattern that is made of them
reads its own text and nothing else. What a reader has open does not matter for them: each becomes
one more item.
-/

namespace PacketFilter.Regex

/-! ## Reading -/

/-- The characters that do not stand for themselves. -/
def signs : Text := "()|[?*+\x7b\\.^$"

/-- The characters of a text, one after the other. -/
def chars (w : Text) : List Pattern := w.map .char

namespace Reader

variable {r : Reader} {c : Char} {w : Text}

theorem step?_of_not_mem (hc : c ∉ signs) (cs : Text) :
    r.step? c cs = some (r.push (literal r.flags c), cs) := by
  rw [step?.eq_def]
  split
  all_goals first | exact absurd (by decide) hc | rfl

/-- A text that stands for itself becomes the items of its characters. -/
theorem readAll?_append_word (hr : r.flags = {}) (hw : ∀ c ∈ w, c ∉ signs) (fuel : Nat) (t : Text) :
    readAll? (w.length + fuel) r (w ++ t) =
      readAll? fuel { r with items := (chars w).reverse.map ({ pattern := · }) ++ r.items } t := by
  induction w generalizing r with
  | nil =>
    rw [List.length_nil, Nat.zero_add]
    rfl
  | cons c w ih =>
    obtain ⟨hc, hw⟩ := List.forall_mem_cons.mp hw
    have hstep : r.step? c (w ++ t) = some (r.push (.char c), w ++ t) := by
      rw [step?_of_not_mem hc, hr]
      rfl
    have hskip : ∀ u, r.flags.skip u = u := by
      intro u
      rw [hr]
      rfl
    rw [List.length_cons, Nat.succ_add, List.cons_append, readAll?, hskip]
    simp only [hstep]
    refine (ih (r := r.push (.char c)) hr hw).trans ?_
    rw [chars, chars, List.map_cons, List.reverse_cons, List.map_append, List.append_assoc]
    rfl

end Reader

/-! ## Matching -/

@[simp] theorem contains_span_iff {a b c : Char} :
    (CharSet.span a b).contains c = true ↔ a.toNat ≤ c.toNat ∧ c.toNat ≤ b.toNat := by
  rw [CharSet.span, CharSet.contains, Spans.contains, Spans.mem]
  split
  · refine iff_of_false Bool.false_ne_true ?_
    omega
  · rw [Spans.mem, Bool.or_false, decide_eq_true_eq]
    omega

@[simp] theorem contains_one_iff {a b : Char} : (CharSet.one a).contains b = true ↔ b = a := by
  rw [CharSet.one, ← CharSet.span, contains_span_iff, ← Char.toNat_inj]
  omega

namespace Pattern

variable {w rest : Text} {c d : Cursor}

theorem firstEnd?_char {a : Char} (h : c.ahead = a :: rest) :
    (char a).firstEnd? c = some (c.pass [a] rest) := by
  rw [firstEnd?, char, ends_one_of_contains h (contains_one_iff.mpr rfl)]
  rfl

theorem foldlM_chars (h : c.ahead = w ++ rest) :
    (chars w).foldlM (fun c p ↦ p.firstEnd? c) c = some (c.pass w rest) := by
  induction w generalizing c with
  | nil =>
    obtain rfl : c.ahead = rest := h
    rfl
  | cons a w ih =>
    have hnext := ih (c := c.pass [a] (w ++ rest)) rfl
    rw [Cursor.pass_pass] at hnext
    rw [chars, List.map_cons, List.foldlM_cons, firstEnd?_char h]
    exact hnext

theorem ahead_of_mem_ends (h : d ∈ (concat (chars w)).ends c) : c.ahead = w ++ d.ahead := by
  induction w using List.reverseRecOn generalizing d with
  | nil =>
    obtain rfl : d = c := List.mem_singleton.mp h
    rfl
  | append_singleton w a ih =>
    have hlast : ∀ e : Cursor, d ∈ (char a).ends e → e.ahead = a :: d.ahead := by
      intro e he
      rcases hahead : e.ahead with _ | ⟨b, rest⟩
      · rw [char, ends_one_of_not (by rw [hahead]; exact nofun)] at he
        exact absurd he List.not_mem_nil
      · rw [char, ends_one hahead] at he
        split at he
        · rename_i hb
          rw [List.mem_singleton.mp he, contains_one_iff.mp hb]
          rfl
        · exact absurd he List.not_mem_nil
    rw [chars, List.map_append, List.map_singleton] at h
    by_cases hw : w = []
    · subst hw
      exact hlast c h
    · rw [concat_concat (by simpa using hw)] at h
      obtain ⟨e, he, hd⟩ := mem_gather h
      rw [ih he, hlast e hd, List.append_assoc]
      rfl

theorem firstEnd?_chars (h : Text.after? w c.ahead = none) :
    (concat (chars w)).firstEnd? c = none := by
  rw [Option.eq_none_iff_forall_ne_some]
  intro d hd
  have hahead := ahead_of_mem_ends (List.mem_of_head? hd)
  rw [Text.after?_eq_some_iff.mpr hahead] at h
  exact absurd h nofun

/-! ## Size and groups -/

theorem weight_concat {ps : List Pattern} (h : ps ≠ []) :
    (concat ps).weight = (ps.map weight).sum := by
  obtain ⟨p, ps, rfl⟩ := List.exists_cons_of_ne_nil h
  rw [concat, List.map_cons, List.sum_cons]
  induction ps generalizing p with
  | nil => rfl
  | cons q ps ih =>
    rw [List.foldl_cons, ih (seq p q) (List.cons_ne_nil _ _), List.map_cons, List.sum_cons, weight,
      Nat.add_assoc]

/-- A character takes a state for each of its bytes. -/
@[simp] theorem weight_char (c : Char) : (char c).weight = Utf8.size [c] := by
  rw [char, weight, CharSet.one, CharSet.weight, if_pos rfl, Char.ofNat_toNat]

@[simp] theorem sum_map_weight_chars (w : Text) : ((chars w).map weight).sum = Utf8.size w := by
  induction w with
  | nil => rfl
  | cons c w ih =>
    rw [chars] at ih
    rw [chars, List.map_cons, List.map_cons, List.sum_cons, ih, weight_char, Utf8.size_cons c w]

@[simp] theorem groups_concat (ps : List Pattern) : (concat ps).groups = ps.flatMap groups := by
  rcases ps with _ | ⟨p, ps⟩
  · rfl
  · rw [concat, List.flatMap_cons]
    induction ps generalizing p with
    | nil => exact (List.append_nil _).symm
    | cons q ps ih => rw [List.foldl_cons, ih, groups, List.flatMap_cons, List.append_assoc]

end Pattern
end PacketFilter.Regex
