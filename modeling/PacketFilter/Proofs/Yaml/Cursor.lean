import PacketFilter.Proofs.Text.Pieces
import PacketFilter.Yaml.Writer
import Mathlib.Data.List.Basic

/-!
# Moving over what was written

A reader is followed from one position to another. A position is given by the text ahead of it, and
the laws here say where a movement leads if that text starts with what was written.

Between two runs of a scalar there is a gap. The writer leaves gaps of two kinds only: some spaces,
or some breaks and the indentation of the line after them. Those of the first kind are read as they
are, those of the second without the indentation.
-/

namespace PacketFilter.Yaml

variable {w z : Text} {i l k : Nat}

/-! ## Characters -/

/-- The breaks that are written as themselves. They are also read as themselves. -/
structure IsOwnBreak (b : Char) : Prop where
  visible : isVisible b = true
  isBreak : isBreak b = true

theorem isOwnBreak_newline : IsOwnBreak '\n' := ⟨by decide, by decide⟩

theorem IsOwnBreak.cases {b : Char} (h : IsOwnBreak b) :
    b = '\n' ∨ b = '\u2028' ∨ b = '\u2029' := by
  obtain ⟨hvisible, hbreak⟩ := h
  simp only [Yaml.isBreak, Bool.or_eq_true, beq_iff_eq] at hbreak
  obtain (((rfl | rfl) | rfl) | rfl) | rfl := hbreak
  · exact absurd hvisible (by decide)
  · exact Or.inl rfl
  · exact absurd hvisible (by decide)
  · exact Or.inr (Or.inl rfl)
  · exact Or.inr (Or.inr rfl)

theorem IsOwnBreak.isSpacing {b : Char} (h : IsOwnBreak b) : isSpacing b = false := by
  obtain rfl | rfl | rfl := h.cases <;> decide

/-- Neither space nor break, so that a reader of either stops. -/
def IsInk (a : Char) : Prop := isSpacing a = false ∧ isBreak a = false

instance (a : Char) : Decidable (IsInk a) := inferInstanceAs (Decidable (_ ∧ _))

/-- A text that does not start with space or a break. -/
def StartsInk (t : Text) : Prop := ∀ a ∈ t.head?, IsInk a

theorem startsInk_cons {a : Char} (h : IsInk a) (t : Text) : StartsInk (a :: t) := by
  intro b hb
  rw [List.head?_cons, Option.mem_some_iff] at hb
  exact hb ▸ h

theorem StartsInk.append {t : Text} (h : StartsInk t) (hne : t ≠ []) (z : Text) :
    StartsInk (t ++ z) := by
  intro a ha
  rw [List.head?_append_of_ne_nil _ hne] at ha
  exact h a ha

/-! ## Lines with their indentation -/

section IndentLines

variable {f : Char → Text} {fresh : Bool} {n : Nat} {u : Text}

theorem indentLines_cons {a : Char} (ha : isBreak a = false) :
    indentLines n f fresh (a :: u) =
      (if fresh then indentation n else []) ++ f a ++ indentLines n f false u := by
  rw [indentLines, ha]
  exact if_neg Bool.false_ne_true

theorem indentLines_run (hw : ∀ a ∈ w, isBreak a = false) :
    indentLines n f false (w ++ u) = w.flatMap f ++ indentLines n f false u := by
  induction w with
  | nil => rfl
  | cons a w ih =>
    obtain ⟨ha, hw⟩ := List.forall_mem_cons.mp hw
    rw [List.cons_append, indentLines_cons ha, ih hw, List.flatMap_cons,
      if_neg Bool.false_ne_true, List.nil_append, List.append_assoc]

theorem indentLines_breaks {b : Char} {bs : Text} (hb : isBreak b = true)
    (hbs : ∀ b ∈ bs, isBreak b = true) :
    indentLines n f fresh (b :: bs ++ u) = b :: bs ++ indentLines n f true u := by
  induction bs generalizing b fresh with
  | nil =>
    rw [List.cons_append, indentLines, if_pos hb]
    rfl
  | cons b' bs ih =>
    obtain ⟨hb', hbs⟩ := List.forall_mem_cons.mp hbs
    rw [List.cons_append, indentLines, if_pos hb, ih hb' hbs]
    rfl

theorem indentLines_fresh {a : Char} (ha : isBreak a = false) :
    indentLines n f true (a :: u) = indentation n ++ indentLines n f false (a :: u) := by
  rw [indentLines_cons ha, indentLines_cons ha, if_pos rfl, List.append_assoc]
  rfl

end IndentLines

namespace Cursor

/-! ## Movements -/

@[simp] theorem advance_append (w z : Text) (i l k : Nat) :
    (⟨w ++ z, i, l, k⟩ : Cursor).advance w.length = ⟨z, i + w.length, l, k + w.length⟩ := by
  rw [advance, List.drop_left]

theorem span_append {p : Char → Bool} (hw : ∀ a ∈ w, p a = true) (hz : ∀ a ∈ z.head?, p a = false) :
    span p ⟨w ++ z, i, l, k⟩ = (w, ⟨z, i + w.length, l, k + w.length⟩) := by
  rw [span]
  simp only [Text.takeWhile_append_of_head? hw hz, advance_append]

theorem skipWhile_append {p : Char → Bool} (hw : ∀ a ∈ w, p a = true)
    (hz : ∀ a ∈ z.head?, p a = false) :
    skipWhile p ⟨w ++ z, i, l, k⟩ = ⟨z, i + w.length, l, k + w.length⟩ := by
  rw [skipWhile, span_append hw hz]

theorem skipWhile_of_stops {p : Char → Bool} (hz : ∀ a ∈ z.head?, p a = false) :
    skipWhile p ⟨z, i, l, k⟩ = ⟨z, i, l, k⟩ :=
  skipWhile_append (w := []) (fun _ h ↦ absurd h List.not_mem_nil) hz

theorem readBreak_cons {b : Char} (h : IsOwnBreak b) (z : Text) (i l k : Nat) :
    readBreak ⟨b :: z, i, l, k⟩ = ([b], ⟨z, i + 1, l + 1, 0⟩) := by
  obtain rfl | rfl | rfl := h.cases <;> rfl

/-- Documents start and end at the start of a line. -/
theorem isAtMark_of_column (hk : 0 < k) (mark : Char) :
    isAtMark mark ⟨z, i, l, k⟩ = false := by
  have hcolumn : (k == 0) = false := beq_false_of_ne (by omega)
  rw [isAtMark, hcolumn, Bool.false_and]

theorem isAtMark_of_head? {mark : Char} (h : z.head? ≠ some mark) :
    isAtMark mark ⟨z, i, l, k⟩ = false := by
  rw [isAtMark, Bool.and_eq_false_iff]
  refine Or.inr ?_
  split
  · next a b c rest hz =>
    have ha : (a == mark) = false := beq_false_of_ne fun heq ↦
      h ((congrArg List.head? hz).trans (by rw [heq]; rfl))
    rw [ha, Bool.false_and, Bool.false_and, Bool.false_and]
  · rfl

theorem isAtBoundary_of_column (hk : 0 < k) : isAtBoundary ⟨z, i, l, k⟩ = false := by
  rw [isAtBoundary, isAtMark_of_column hk, isAtMark_of_column hk, Bool.false_or]

end Cursor

/-! ## Gaps -/

namespace Gap

variable {margin fuel n : Nat}

theorem read?_of_startsInk (h : StartsInk z) (g : Gap) :
    read? margin fuel g ⟨z, i, l, k⟩ = some (g, ⟨z, i, l, k⟩) := by
  cases fuel with
  | zero => rfl
  | succ fuel =>
    cases z with
    | nil => rfl
    | cons a z =>
      obtain ⟨hspacing, hbreak⟩ := h a rfl
      rw [read?]
      simp only [Cursor.head?, List.head?_cons, hspacing, hbreak, Bool.false_eq_true, if_false]

theorem read?_spaces (h : StartsInk z) (hfuel : n ≤ fuel) (s : Text) :
    read? margin fuel { spaces := s } ⟨List.replicate n ' ' ++ z, i, l, k⟩ =
      some ({ spaces := s ++ List.replicate n ' ' }, ⟨z, i + n, l, k + n⟩) := by
  induction n generalizing fuel s i k with
  | zero =>
    rw [List.replicate_zero, List.append_nil]
    exact read?_of_startsInk h _
  | succ n ih =>
    obtain ⟨fuel, rfl⟩ := Nat.exists_eq_add_of_le' (by omega : 1 ≤ fuel)
    have hstep : read? margin (fuel + 1) { spaces := s }
        ⟨List.replicate (n + 1) ' ' ++ z, i, l, k⟩ =
        read? margin fuel { spaces := s ++ [' '] }
          ⟨List.replicate n ' ' ++ z, i + 1, l, k + 1⟩ := rfl
    rw [hstep, ih (by omega), List.append_assoc, List.singleton_append, ← List.replicate_succ,
      Nat.add_right_comm i, Nat.add_right_comm k]
    rfl

/-- The indentation behind a break is skipped. -/
theorem read?_indentation (h : StartsInk z) (hfuel : n ≤ fuel) {g : Gap}
    (hg : g.first.isSome = true) :
    read? margin fuel g ⟨List.replicate n ' ' ++ z, i, l, k⟩ = some (g, ⟨z, i + n, l, k + n⟩) := by
  induction n generalizing fuel i k with
  | zero => exact read?_of_startsInk h g
  | succ n ih =>
    obtain ⟨fuel, rfl⟩ := Nat.exists_eq_add_of_le' (by omega : 1 ≤ fuel)
    have hstep : read? margin (fuel + 1) g ⟨List.replicate (n + 1) ' ' ++ z, i, l, k⟩ =
        read? margin fuel g ⟨List.replicate n ' ' ++ z, i + 1, l, k + 1⟩ := by
      obtain ⟨b, hb⟩ := Option.isSome_iff_exists.mp hg
      rw [read?]
      simp only [hb, Cursor.head?, List.replicate_succ, List.cons_append, List.head?_cons]
      rfl
    rw [hstep, ih (by omega), Nat.add_right_comm i, Nat.add_right_comm k]
    rfl

theorem read?_break {b : Char} (hb : IsOwnBreak b) (g : Gap) :
    read? margin (fuel + 1) g ⟨b :: z, i, l, k⟩ =
      read? margin fuel (g.addBreak [b]) ⟨z, i + 1, l + 1, 0⟩ := by
  rw [read?]
  simp only [Cursor.head?, List.head?_cons, hb.isSpacing, hb.isBreak, Cursor.readBreak_cons hb,
    Bool.false_eq_true, if_false, if_true]

theorem read?_moreBreaks {bs : Text} (hbs : ∀ b ∈ bs, IsOwnBreak b) (first more : Text) :
    read? margin (fuel + bs.length) { first := some first, more := more } ⟨bs ++ z, i, l, 0⟩ =
      read? margin fuel { first := some first, more := more ++ bs }
        ⟨z, i + bs.length, l + bs.length, 0⟩ := by
  induction bs generalizing more i l with
  | nil => rw [List.append_nil]; rfl
  | cons b bs ih =>
    obtain ⟨hb, hbs⟩ := List.forall_mem_cons.mp hbs
    rw [List.length_cons, ← Nat.add_assoc, List.cons_append, read?_break hb]
    show read? margin (fuel + bs.length) { first := some first, more := more ++ [b] } _ = _
    rw [ih hbs, List.append_assoc, List.singleton_append, Nat.add_right_comm i,
      Nat.add_right_comm l]
    rfl

theorem read?_breaks {b : Char} {bs : Text} (hb : IsOwnBreak b) (hbs : ∀ b ∈ bs, IsOwnBreak b)
    (h : StartsInk z) (hfuel : bs.length + n < fuel) :
    read? margin fuel {} ⟨b :: (bs ++ (List.replicate n ' ' ++ z)), i, l, k⟩ =
      some ({ first := some [b], more := bs },
        ⟨z, i + (bs.length + 1 + n), l + (bs.length + 1), n⟩) := by
  obtain ⟨fuel, rfl⟩ := Nat.exists_eq_add_of_le' (by omega : bs.length + 1 ≤ fuel)
  rw [← Nat.add_assoc, read?_break hb]
  show read? margin (fuel + bs.length) { first := some [b], more := [] } _ = _
  rw [read?_moreBreaks hbs, read?_indentation h (by omega) rfl]
  simp only [List.nil_append, Nat.zero_add, Option.some_inj, Prod.mk.injEq, Cursor.mk.injEq,
    true_and, and_true]
  omega

end Gap
end PacketFilter.Yaml
