import PacketFilter.Proofs.Yaml.Cursor

/-!
# Plain scalars read back

A plain scalar ends where its line does, at a number sign behind a space or at a colon that ends a
word. A text that is written plain has none of these inside it. It is read run by run, and the
spaces between two runs are kept; what holds of the text then holds of its rest from the next run
on, so the reading is an induction on the runs.
-/

namespace PacketFilter.Yaml

variable {u v w z : Text} {i l k margin : Nat}

/-- What may stand in a plain scalar from the start of some run on. -/
structure PlainTail (u : Text) : Prop where
  oneLine : ∀ a ∈ u, a = ' ' ∨ IsInk a
  colon : ∀ x y, u = x ++ ':' :: y → endsWord y.head? = false
  number : ∀ x y, u ≠ x ++ ' ' :: '#' :: y
  last : u.getLast? ≠ some ' '

theorem PlainTail.of_append (h : PlainTail (w ++ u)) : PlainTail u where
  oneLine := fun a ha ↦ h.oneLine a (List.mem_append_right w ha)
  colon := fun x y hu ↦ h.colon (w ++ x) y (by rw [hu, List.append_assoc])
  number := fun x y hu ↦ h.number (w ++ x) y (by rw [hu, List.append_assoc])
  last := by
    intro hlast
    have hne : u ≠ [] := fun hnil ↦ by simp [hnil] at hlast
    exact h.last (by rwa [List.getLast?_append_of_ne_nil _ hne])

/-- Every text is a run without spaces, some spaces, and what starts with another run. -/
theorem exists_run_spaces (u : Text) : ∃ (w : Text) (n : Nat) (v : Text),
    u = w ++ (List.replicate n ' ' ++ v) ∧ ' ' ∉ w ∧ v.head? ≠ some ' ' ∧ (n = 0 → v = []) := by
  obtain ⟨w, rest, hu, hw, hrest⟩ := Text.exists_span (· ≠ ' ') u
  obtain ⟨spaces, v, hsplit, hspaces, hv⟩ := Text.exists_span (· = ' ') rest
  have hreplicate : spaces = List.replicate spaces.length ' ' :=
    List.eq_replicate_length.mpr fun a ha ↦ by simpa using hspaces a ha
  refine ⟨w, spaces.length, v, by rw [← hreplicate, ← hsplit, hu], ?_, ?_, ?_⟩
  · intro hmem
    simpa using hw ' ' hmem
  · intro hhead
    simpa using hv ' ' hhead
  · intro hzero
    rw [List.eq_nil_of_length_eq_zero hzero, List.nil_append] at hsplit
    cases v with
    | nil => rfl
    | cons a v =>
      have ha := hrest a (by rw [hsplit]; rfl)
      have ha' := hv a rfl
      simp only [ne_eq, decide_not, Bool.not_eq_false', decide_eq_true_eq] at ha
      simp [ha] at ha'

/-! ## Runs -/

/-- What may follow a run: nothing, space, a break, or a colon that ends a word. -/
def EndsRun (z : Text) : Prop :=
  ∀ a ∈ z.head?, isSpacing a = true ∨ isBreak a = true ∨ (a = ':' ∧ endsWord z.tail.head? = true)

theorem plainRun?_append (hw : ∀ a ∈ w, IsInk a)
    (hcolon : ∀ x y, w = x ++ ':' :: y → endsWord (y ++ z).head? = false) (hz : EndsRun z) :
    plainRun? false (w ++ z) = some w := by
  induction w with
  | nil =>
    cases z with
    | nil => rfl
    | cons a z =>
      rw [List.nil_append, plainRun?]
      obtain hspacing | hbreak | ⟨rfl, hends⟩ := hz a rfl
      · rw [hspacing, Bool.true_or, if_pos rfl]
      · rw [hbreak, Bool.or_true, if_pos rfl]
      · rw [List.tail_cons] at hends
        simp [isSpacing, isBreak, hends]
  | cons a w ih =>
    obtain ⟨⟨hspacing, hbreak⟩, hw⟩ := List.forall_mem_cons.mp hw
    have hends : (a == ':' && endsWord (w ++ z).head?) = false := by
      by_cases ha : a = ':'
      · rw [hcolon [] w (by rw [ha, List.nil_append]), Bool.and_false]
      · rw [beq_false_of_ne ha, Bool.false_and]
    have hrest : plainRun? false (w ++ z) = some w :=
      ih hw fun x y h ↦ hcolon (a :: x) y (by rw [h, List.cons_append])
    rw [List.cons_append, plainRun?, hspacing, hbreak, hends, hrest]
    rfl

section Step

variable {c : Cursor} {g : Gap} {t : Text} {fuel : Nat}

theorem readPlain?_last (hboundary : c.isAtBoundary = false) (hnumber : c.head? ≠ some '#')
    (hrun : plainRun? false c.ahead = some w) (hw : w ≠ [])
    (hends : (c.advance w.length).head?.all (fun a ↦ !(isSpacing a || isBreak a)) = true) :
    readPlain? false margin (fuel + 1) t g c =
      some (t ++ g.text ++ w, false, c.advance w.length) := by
  rw [readPlain?, if_neg (by simp [hboundary, hnumber]), hrun]
  show (if _ then _ else _) = _
  rw [if_pos hends, if_neg hw, if_neg hw]
  rfl

/-- A run with a gap behind it. If the gap ends before the margin, so does the scalar. -/
theorem readPlain?_run {g' : Gap} {c' : Cursor} (hboundary : c.isAtBoundary = false)
    (hnumber : c.head? ≠ some '#') (hrun : plainRun? false c.ahead = some w) (hw : w ≠ [])
    (hends : (c.advance w.length).head?.all (fun a ↦ !(isSpacing a || isBreak a)) = false)
    (hgap : Gap.read? margin (c.advance w.length).ahead.length {} (c.advance w.length) =
      some (g', c')) :
    readPlain? false margin (fuel + 1) t g c =
      if c'.column < margin then some (t ++ g.text ++ w, g'.first.isSome, c')
      else readPlain? false margin fuel (t ++ g.text ++ w) g' c' := by
  rw [readPlain?, if_neg (by simp [hboundary, hnumber]), hrun]
  show (if _ then _ else _) = _
  rw [if_neg (by rw [hends]; exact Bool.false_ne_true), if_neg hw, if_neg hw, hgap]
  show (if _ then _ else _) = _
  simp only [Bool.not_false, true_and]

end Step

theorem readPlain?_key {t : Text} {fuel : Nat} (hw : ∀ a ∈ w, IsInk a) (hne : w ≠ [])
    (hcolon : ':' ∉ w) (hnumber : w.head? ≠ some '#') (hz : endsWord z.head? = true)
    (hboundary : Cursor.isAtBoundary ⟨w ++ ':' :: z, i, l, k⟩ = false) :
    readPlain? false margin (fuel + 1) t {} ⟨w ++ ':' :: z, i, l, k⟩ =
      some (t ++ w, false, ⟨':' :: z, i + w.length, l, k + w.length⟩) := by
  have hhead : (w ++ ':' :: z).head? ≠ some '#' := by
    rwa [List.head?_append_of_ne_nil _ hne]
  have hrun : plainRun? false (w ++ ':' :: z) = some w := by
    refine plainRun?_append hw ?_ ?_
    · intro x y h
      exact absurd (h ▸ List.mem_append_right x List.mem_cons_self) hcolon
    · intro a ha
      exact Or.inr (Or.inr ⟨(Option.mem_some_iff.mp ha).symm, hz⟩)
  refine (readPlain?_last hboundary hhead hrun hne (by rw [Cursor.advance_append]; rfl)).trans ?_
  rw [Cursor.advance_append]
  simp [Gap.text]

/-! ## Lines -/

section Line

variable {n m : Nat} {line : Text}

/-- What follows the first run of a line: spaces or the break at its end. -/
theorem not_ink_after_run (hm : m = 0 → v = []) (hline : line.head? = some '\n') :
    ∀ b ∈ (List.replicate m ' ' ++ v ++ line).head?, isSpacing b = true ∨ isBreak b = true := by
  intro b hb
  cases m with
  | zero =>
    rw [hm rfl] at hb
    have hb : b = '\n' := (Option.some_inj.mp (hb.symm.trans hline))
    exact Or.inr (by rw [hb]; decide)
  | succ m =>
    cases hb
    exact Or.inl (by decide)

/-- The first run of a line is read up to the space or the break behind it. -/
theorem PlainTail.plainRun?_line (hu : PlainTail (w ++ (List.replicate m ' ' ++ v)))
    (hw : ' ' ∉ w) (hm : m = 0 → v = []) (hline : line.head? = some '\n') :
    plainRun? false (w ++ (List.replicate m ' ' ++ v) ++ line) = some w := by
  rw [List.append_assoc]
  refine plainRun?_append ?_ ?_ fun b hb ↦ (not_ink_after_run hm hline b hb).imp_right Or.inl
  · intro a ha
    exact (hu.oneLine a (List.mem_append_left _ ha)).resolve_left fun h ↦ hw (h ▸ ha)
  · intro x y h
    have hcolon := hu.colon x (y ++ (List.replicate m ' ' ++ v)) (by rw [h]; simp)
    rw [← List.append_assoc, List.head?_append]
    cases hfirst : (y ++ (List.replicate m ' ' ++ v)).head? with
    | none =>
      rw [hfirst] at hcolon
      cases hcolon
    | some a =>
      rw [hfirst] at hcolon
      exact hcolon

/-- Behind spaces there is a further run. -/
theorem PlainTail.rest (hu : PlainTail (w ++ (List.replicate (m + 1) ' ' ++ v)))
    (hv : v.head? ≠ some ' ') :
    PlainTail v ∧ v ≠ [] ∧ v.head? ≠ some '#' ∧ StartsInk v := by
  have htail : PlainTail v := by
    rw [← List.append_assoc] at hu
    exact hu.of_append
  refine ⟨htail, ?_, ?_, ?_⟩
  · rintro rfl
    refine hu.last ?_
    rw [List.append_nil, List.replicate_succ', ← List.append_assoc]
    exact List.getLast?_concat
  · intro hhash
    obtain ⟨v', rfl⟩ := List.head?_eq_some_iff.mp hhash
    refine hu.number (w ++ List.replicate m ' ') v' ?_
    rw [List.replicate_succ']
    simp
  · intro a ha
    exact (htail.oneLine a (List.mem_of_head? ha)).resolve_left fun h ↦ hv (h ▸ ha)

/-- **A plain scalar is read back**, together with the break behind it and the indentation of the
next line, which starts before the margin. -/
theorem readPlain?_line (hz : StartsInk z) (hn : n < margin) {fuel : Nat} {t : Text} {g : Gap}
    (hu : PlainTail u) (hne : u ≠ []) (hspace : u.head? ≠ some ' ') (hnumber : u.head? ≠ some '#')
    (hfuel : u.length < fuel) (hk : margin ≤ k) :
    readPlain? false margin fuel t g ⟨u ++ '\n' :: (List.replicate n ' ' ++ z), i, l, k⟩ =
      some (t ++ g.text ++ u, true, ⟨z, i + u.length + (1 + n), l + 1, n⟩) := by
  induction fuel generalizing u t g i k with
  | zero => exact absurd hfuel (Nat.not_lt_zero _)
  | succ fuel ih =>
    set line : Text := '\n' :: (List.replicate n ' ' ++ z) with hline
    obtain ⟨w, m, v, rfl, hw, hv, hm⟩ := exists_run_spaces u
    have hwne : w ≠ [] := by
      rintro rfl
      cases m with
      | zero => exact hne (by rw [hm rfl]; rfl)
      | succ m => exact hspace rfl
    have hhead : (w ++ (List.replicate m ' ' ++ v) ++ line).head? ≠ some '#' := by
      rwa [List.head?_append_of_ne_nil _ hne]
    -- Whatever the gap behind the run is, it decides how to go on.
    have hgap : ∀ g' c', Gap.read? margin (List.replicate m ' ' ++ v ++ line).length {}
          ⟨List.replicate m ' ' ++ v ++ line, i + w.length, l, k + w.length⟩ = some (g', c') →
        readPlain? false margin (fuel + 1) t g
          ⟨w ++ (List.replicate m ' ' ++ v) ++ line, i, l, k⟩ =
        if c'.column < margin then some (t ++ g.text ++ w, g'.first.isSome, c')
        else readPlain? false margin fuel (t ++ g.text ++ w) g' c' := by
      intro g' c' hgap
      refine readPlain?_run (Cursor.isAtBoundary_of_column (by omega)) hhead
        (hu.plainRun?_line hw hm rfl) hwne ?_ ?_
      · rw [List.append_assoc, Cursor.advance_append]
        cases hfirst : (List.replicate m ' ' ++ v ++ line).head? with
        | none => simp [hline] at hfirst
        | some b =>
          rw [Cursor.head?, hfirst, Option.all_some]
          obtain hb | hb := not_ink_after_run hm rfl b hfirst <;> rw [hb] <;> simp
      · rw [List.append_assoc, Cursor.advance_append]
        exact hgap
    cases m with
    -- The run ends the line.
    | zero =>
      obtain rfl := hm rfl
      have hlength : ([] : Text).length + n < line.length := by
        simp only [hline, List.length_nil, List.length_cons, List.length_append,
          List.length_replicate]
        omega
      rw [hgap _ _ (Gap.read?_breaks isOwnBreak_newline (fun _ h ↦ absurd h List.not_mem_nil) hz
        hlength), if_pos hn]
      simp
    -- Behind some spaces there is another run.
    | succ m =>
      obtain ⟨hvtail, hvne, hvnumber, hvink⟩ := hu.rest hv
      have hgaplength : m + 1 ≤ (List.replicate (m + 1) ' ' ++ v ++ line).length := by simp
      have hspaces : Gap.read? margin (List.replicate (m + 1) ' ' ++ v ++ line).length {}
          ⟨List.replicate (m + 1) ' ' ++ v ++ line, i + w.length, l, k + w.length⟩ =
          some ({ spaces := List.replicate (m + 1) ' ' },
            ⟨v ++ line, i + w.length + (m + 1), l, k + w.length + (m + 1)⟩) := by
        rw [List.append_assoc] at hgaplength ⊢
        exact Gap.read?_spaces (hvink.append hvne line) hgaplength []
      have hlength : v.length < fuel := by
        simp only [List.length_append, List.length_replicate] at hfuel
        omega
      rw [hgap _ _ hspaces, if_neg (by show ¬ k + w.length + (m + 1) < margin; omega),
        ih hvtail hvne hv hvnumber hlength (by omega)]
      simp only [Gap.text, List.append_assoc, Option.some_inj, Prod.mk.injEq, Cursor.mk.injEq,
        true_and, and_true, List.length_append, List.length_replicate]
      omega

end Line

/-! ## Texts that are written plain -/

/-- A text that may stand for itself. -/
structure PlainText (t : Text) : Prop extends PlainTail t where
  ne_nil : t ≠ []
  space : t.head? ≠ some ' '
  mark : t.head? ≠ some '\uFEFF'
  sign : startsWithSign t = false

theorem hasPair_iff {p q : Char → Bool} {t : Text} :
    hasPair p q t = true ↔ ∃ x a b y, t = x ++ a :: b :: y ∧ p a = true ∧ q b = true := by
  induction t with
  | nil => simp [hasPair]
  | cons c t ih =>
    cases t with
    | nil =>
      refine iff_of_false (by simp [hasPair]) ?_
      rintro ⟨x, a, b, y, h, -⟩
      have hlength := congrArg List.length h
      simp at hlength
      omega
    | cons d t =>
      rw [hasPair, Bool.or_eq_true, Bool.and_eq_true, ih]
      constructor
      · rintro (⟨hc, hd⟩ | ⟨x, a, b, y, h, hab⟩)
        · exact ⟨[], c, d, t, rfl, hc, hd⟩
        · exact ⟨c :: x, a, b, y, by rw [h, List.cons_append], hab⟩
      · rintro ⟨_ | ⟨c', x⟩, a, b, y, h, hab⟩
        · cases h
          exact Or.inl hab
        · rw [List.cons_append, List.cons.injEq] at h
          exact Or.inr ⟨x, a, b, y, h.2, hab⟩

/-- A visible character that is neither a space nor a break is neither to a reader. -/
theorem eq_space_or_isInk {a : Char} (hvisible : isVisible a = true) (hbreak : isBreak a = false) :
    a = ' ' ∨ IsInk a := by
  by_cases hspacing : isSpacing a = true
  · rw [isSpacing, Bool.or_eq_true, beq_iff_eq, beq_iff_eq] at hspacing
    obtain rfl | rfl := hspacing
    · exact Or.inl rfl
    · exact absurd hvisible (by decide)
  · exact Or.inr ⟨Bool.not_eq_true _ ▸ hspacing, hbreak⟩

@[simp] theorem endsWord_space : endsWord (some ' ') = true := by decide

theorem plainText_of_allowsPlain {t : Text} (hne : t ≠ []) (h : allowsPlain t = true) :
    PlainText t := by
  simp only [allowsPlain, allowsQuotes, Bool.and_eq_true, Bool.not_eq_true', List.all_eq_true,
    bne_iff_ne, List.any_eq_false, Bool.not_eq_true] at h
  obtain ⟨⟨⟨⟨⟨⟨⟨⟨hvisible, -⟩, -⟩, hbreak⟩, hspace⟩, hlast⟩, -⟩, hsign⟩, hinner⟩ := h
  simp only [hasInnerSign, Bool.or_eq_false_iff] at hinner
  obtain ⟨⟨hendsColon, hcolon⟩, hnumber⟩ := hinner
  have hmark : t.head? ≠ some '\uFEFF' := fun hhead ↦
    absurd (hvisible _ (List.mem_of_head? hhead)) (by decide)
  refine ⟨⟨fun a ha ↦ eq_space_or_isInk (hvisible a ha) (hbreak a ha), ?_, ?_, hlast⟩, hne, hspace,
    hmark, hsign⟩
  · intro x y hxy
    cases x with
    | nil =>
      rw [hxy, List.nil_append, startsWithSign, Bool.or_eq_false_iff] at hsign
      simpa using hsign.2
    | cons c x =>
      by_contra hends
      cases y with
      | nil =>
        rw [hxy, List.cons_append, List.tail_cons, List.getLast?_concat] at hendsColon
        exact absurd hendsColon (by decide)
      | cons b y =>
        have hpair : hasPair (· == ':') (fun c ↦ endsWord (some c)) t.tail = true := by
          rw [hasPair_iff, hxy]
          exact ⟨x, ':', b, y, rfl, rfl, Bool.not_eq_false _ ▸ hends⟩
        exact absurd hpair (by rw [hcolon]; exact Bool.false_ne_true)
  · intro x y hxy
    have hpair : hasPair (fun c ↦ endsWord (some c)) (· == '#') t = true :=
      hasPair_iff.mpr ⟨x, ' ', '#', y, hxy, endsWord_space, rfl⟩
    exact absurd hpair (by rw [hnumber]; exact Bool.false_ne_true)

/-! ## Words -/

/-- The characters that no plain scalar starts with. -/
def firstSigns : List Char := "#,[]\x7b\x7d&*!|>'\"%@\x60".toList

/-- Characters that mean more than themselves, spaces and breaks. -/
def signs : List Char := firstSigns ++ "-?:. \t\r\n\u0085\u2028\u2029\uFEFF".toList

/-- A text of letters, digits and `_`. -/
def IsWord (t : Text) : Prop := t ≠ [] ∧ ∀ a ∈ t, (Text.isAlphanumeric a || a == '_') = true

instance (t : Text) : Decidable (IsWord t) := @instDecidableAnd _ _ _ (List.decidableBAll _ _)

variable {a : Char} {t : Text}

theorem not_mem_signs (h : (Text.isAlphanumeric a || a == '_') = true) : a ∉ signs := by
  have hsigns : signs.all (fun b ↦ !(Text.isAlphanumeric b || b == '_')) = true := by decide
  intro hmem
  have hnot := List.all_eq_true.mp hsigns a hmem
  rw [h] at hnot
  cases hnot

theorem isInk_of_not_mem_signs (h : a ∉ signs) : IsInk a := by
  have hne : ∀ b ∈ signs, a ≠ b := fun b hb heq ↦ h (heq ▸ hb)
  rw [IsInk, isSpacing, isBreak]
  simp [hne '\t' (by decide), hne ' ' (by decide), hne '\r' (by decide), hne '\n' (by decide),
    hne '\u0085' (by decide), hne '\u2028' (by decide), hne '\u2029' (by decide)]

theorem IsWord.not_mem (h : IsWord t) {b : Char} (hb : b ∈ signs) : b ∉ t :=
  fun hbt ↦ not_mem_signs (h.2 b hbt) hb

theorem IsWord.plainText (h : IsWord t) : PlainText t := by
  have ⟨hne, hword⟩ := h
  refine ⟨⟨fun a ha ↦ Or.inr (isInk_of_not_mem_signs (not_mem_signs (hword a ha))), ?_, ?_, ?_⟩,
    hne, ?_, ?_, ?_⟩
  · intro x y hxy
    exact absurd (hxy ▸ List.mem_append_right x List.mem_cons_self) (h.not_mem (by decide))
  · intro x y hxy
    exact h.not_mem (by decide) (hxy ▸ List.mem_append_right x List.mem_cons_self)
  · exact fun hlast ↦ h.not_mem (by decide) (List.mem_of_getLast? hlast)
  · exact fun hhead ↦ h.not_mem (by decide) (List.mem_of_head? hhead)
  · exact fun hhead ↦ h.not_mem (by decide) (List.mem_of_head? hhead)
  · cases t with
    | nil => rfl
    | cons a t =>
      have ha : a ∉ signs := not_mem_signs (hword a List.mem_cons_self)
      have hfirst : a ∉ firstSigns := fun hmem ↦ ha (List.mem_append_left _ hmem)
      have hne : ∀ b ∈ signs, (a == b) = false := fun b hb ↦
        beq_false_of_ne fun heq ↦ ha (heq ▸ hb)
      rw [startsWithSign, hne '-' (by decide), hne '?' (by decide), hne ':' (by decide)]
      exact Bool.or_eq_false_iff.mpr ⟨decide_eq_false hfirst, rfl⟩

end PacketFilter.Yaml
