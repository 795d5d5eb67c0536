import PacketFilter.Proofs.Text.Numeral
import PacketFilter.Proofs.Yaml.Plain

/-!
# Quoted scalars read back

What stands between quotes is runs of characters and gaps between them. `Quoted` is the relation
between a text and its form between quotes: in a run each character is written in a way that is read
as that character, a gap of spaces is written as it is, and one of breaks with the indentation of
the next line. Whatever is written so is read back, by induction on the relation.

Both kinds of quotes are a case of it. In single quotes only the quote itself is written
differently, and the breaks of a text are gaps. In double quotes everything that is not visible has
an escape, so the gaps are spaces.
-/

namespace PacketFilter.Yaml

variable {single : Bool} {t u v w s z : Text} {i l k n : Nat}

/-! ## Runs -/

/-- `s` is read as the character `a` within a run. -/
structure ReadAs (single : Bool) (a : Char) (s : Text) : Prop where
  read : ∀ fuel t z i l k, readQuotedRun? single (fuel + 1) t ⟨s ++ z, i, l, k⟩ =
    readQuotedRun? single fuel (t ++ [a]) ⟨z, i + s.length, l, k + s.length⟩
  ne_nil : s ≠ []
  ink : StartsInk s

/-- What ends a run: space, a break, or the quote that closes the scalar. -/
def EndsQuotedRun (single : Bool) (z : Text) : Prop :=
  ∃ a y, z = a :: y ∧ (isSpacing a = true ∨ isBreak a = true ∨
    (a = quoteOf single ∧ (single = true → y.head? ≠ some '\'')))

theorem readQuotedRun?_of_ends {fuel : Nat} (h : EndsQuotedRun single z) :
    readQuotedRun? single (fuel + 1) t ⟨z, i, l, k⟩ = some (t, false, ⟨z, i, l, k⟩) := by
  obtain ⟨a, y, rfl, h⟩ := h
  rw [readQuotedRun?]
  by_cases hink : (isSpacing a || isBreak a) = true
  · simp only [hink, if_true]
  · obtain h | h | ⟨rfl, hquote⟩ := h
    · exact absurd (by rw [h, Bool.true_or]) hink
    · exact absurd (by rw [h, Bool.or_true]) hink
    · cases single with
      | true =>
        have hy : y.head? ≠ some '\'' := hquote rfl
        simp [quoteOf, isSpacing, isBreak, hy]
      | false => simp [quoteOf, isSpacing, isBreak]

theorem readQuotedRun?_flatMap {f : Char → Text} {fuel : Nat}
    (hw : ∀ a ∈ w, ReadAs single a (f a)) (hz : EndsQuotedRun single z) (hfuel : w.length < fuel) :
    readQuotedRun? single fuel t ⟨w.flatMap f ++ z, i, l, k⟩ =
      some (t ++ w, false, ⟨z, i + (w.flatMap f).length, l, k + (w.flatMap f).length⟩) := by
  obtain ⟨fuel, rfl⟩ := Nat.exists_eq_add_of_le' (by omega : 1 ≤ fuel)
  induction w generalizing fuel t i k with
  | nil =>
    rw [List.flatMap_nil, List.nil_append, readQuotedRun?_of_ends hz, List.append_nil]
    rfl
  | cons a w ih =>
    obtain ⟨ha, hw⟩ := List.forall_mem_cons.mp hw
    rw [List.length_cons] at hfuel
    obtain ⟨fuel, rfl⟩ := Nat.exists_eq_add_of_le' (by omega : 1 ≤ fuel)
    rw [List.flatMap_cons, List.append_assoc, ha.read, ih hw fuel (by omega)]
    simp [List.append_assoc, Nat.add_assoc]

/-! ## Gaps and the closing quote -/

section Step

variable {f : Char → Text} {fuel : Nat}

theorem length_le_length_flatMap (h : ∀ a ∈ w, f a ≠ []) : w.length ≤ (w.flatMap f).length := by
  induction w with
  | nil => exact Nat.le_refl 0
  | cons a w ih =>
    obtain ⟨ha, hw⟩ := List.forall_mem_cons.mp h
    have hpos := List.length_pos_of_ne_nil ha
    have hrest := ih hw
    rw [List.flatMap_cons, List.length_append, List.length_cons]
    omega

theorem readQuotedRun?_written (hw : ∀ a ∈ w, ReadAs single a (f a)) (hz : EndsQuotedRun single z) :
    readQuotedRun? single ((w.flatMap f ++ z).length + 1) t ⟨w.flatMap f ++ z, i, l, k⟩ =
      some (t ++ w, false, ⟨z, i + (w.flatMap f).length, l, k + (w.flatMap f).length⟩) := by
  refine readQuotedRun?_flatMap hw hz ?_
  have hlength := length_le_length_flatMap fun a ha ↦ (hw a ha).ne_nil
  rw [List.length_append]
  omega

theorem readQuoted?_close (hw : ∀ a ∈ w, ReadAs single a (f a))
    (hz : single = true → z.head? ≠ some '\'') (hk : 0 < k) :
    ∃ c', readQuoted? single (fuel + 1) t ⟨w.flatMap f ++ quoteOf single :: z, i, l, k⟩ =
      some (t ++ w, c') ∧ c'.ahead = z ∧ c'.line = l := by
  have hends : EndsQuotedRun single (quoteOf single :: z) := ⟨_, z, rfl, Or.inr (Or.inr ⟨rfl, hz⟩)⟩
  rw [readQuoted?, if_neg (by simp [Cursor.isAtBoundary_of_column hk]),
    readQuotedRun?_written hw hends]
  exact ⟨_, if_pos rfl, rfl, rfl⟩

theorem readQuoted?_gap (hw : ∀ a ∈ w, ReadAs single a (f a)) {a : Char} {g : Gap} {c' : Cursor}
    (ha : isSpacing a = true ∨ isBreak a = true) (hquote : a ≠ quoteOf single) (hk : 0 < k)
    (hgap : Gap.read? 0 (a :: z).length {}
      ⟨a :: z, i + (w.flatMap f).length, l, k + (w.flatMap f).length⟩ = some (g, c')) :
    readQuoted? single (fuel + 1) t ⟨w.flatMap f ++ a :: z, i, l, k⟩ =
      readQuoted? single fuel (t ++ w ++ g.text) c' := by
  have hends : EndsQuotedRun single (a :: z) := ⟨a, z, rfl, ha.imp_right Or.inl⟩
  rw [readQuoted?, if_neg (by simp [Cursor.isAtBoundary_of_column hk]),
    readQuotedRun?_written hw hends]
  show (if some a = some (quoteOf single) then _ else _) = _
  rw [if_neg fun h ↦ hquote (Option.some_inj.mp h)]
  show (Gap.read? 0 (a :: z).length {} _).bind _ = _
  rw [hgap]
  rfl

end Step

/-! ## The scalar -/

/-- A text, and what is written for it between quotes. Lines after the first are indented by `n`. -/
inductive Quoted (single : Bool) (f : Char → Text) (n : Nat) : Text → Text → Prop
  /-- A run that ends the text. -/
  | last (w : Text) (hw : ∀ a ∈ w, ReadAs single a (f a)) : Quoted single f n w (w.flatMap f)
  /-- A run and some spaces. -/
  | spaces (w : Text) (m : Nat) {u s : Text} (hw : ∀ a ∈ w, ReadAs single a (f a))
    (hs : StartsInk (s ++ [quoteOf single])) (h : Quoted single f n u s) :
    Quoted single f n (w ++ (' ' :: List.replicate m ' ' ++ u))
      (w.flatMap f ++ (' ' :: List.replicate m ' ' ++ s))
  /-- A run and some breaks. -/
  | breaks (w : Text) (b : Char) (bs : Text) {u s : Text} (hw : ∀ a ∈ w, ReadAs single a (f a))
    (hb : IsOwnBreak b) (hne : b ≠ '\n') (hbs : ∀ b ∈ bs, IsOwnBreak b)
    (hs : StartsInk (s ++ [quoteOf single])) (h : Quoted single f n u s) :
    Quoted single f n (w ++ (b :: bs ++ u))
      (w.flatMap f ++ (b :: bs ++ (List.replicate n ' ' ++ s)))

theorem StartsInk.of_quote (h : StartsInk (s ++ [quoteOf single])) (z : Text) :
    StartsInk (s ++ quoteOf single :: z) := by
  intro a ha
  refine h a ?_
  rwa [List.head?_append] at ha ⊢

/-- **What is written between quotes is read back**, up to the closing quote. -/
theorem Quoted.readQuoted? {f : Char → Text} (h : Quoted single f n u s) (hn : 0 < n)
    (hz : single = true → z.head? ≠ some '\'') {fuel : Nat} (hfuel : s.length < fuel) (hk : 0 < k) :
    ∃ c', readQuoted? single fuel t ⟨s ++ quoteOf single :: z, i, l, k⟩ = some (t ++ u, c') ∧
      c'.ahead = z ∧ l ≤ c'.line := by
  induction h generalizing fuel t i l k with
  | last w hw =>
    obtain ⟨fuel, rfl⟩ := Nat.exists_eq_add_of_le' (by omega : 1 ≤ fuel)
    obtain ⟨c', hread, hahead, hline⟩ := readQuoted?_close (i := i) hw hz hk
    exact ⟨c', hread, hahead, Nat.le_of_eq hline.symm⟩
  | @spaces w m u s hw hs h ih =>
    simp only [List.length_append, List.length_cons, List.length_replicate] at hfuel
    obtain ⟨fuel, rfl⟩ := Nat.exists_eq_add_of_le' (by omega : 1 ≤ fuel)
    have hquote : ' ' ≠ quoteOf single := by cases single <;> decide
    have hlength :
        m + 1 ≤ (' ' :: (List.replicate m ' ' ++ (s ++ quoteOf single :: z))).length := by
      simp
    rw [List.append_assoc, List.append_assoc, List.cons_append,
      readQuoted?_gap hw (Or.inl (by decide)) hquote hk
        (Gap.read?_spaces (hs.of_quote z) hlength [])]
    have hfuel : s.length < fuel := by omega
    obtain ⟨c', hread, hahead, hline⟩ := ih (t := t ++ w ++ List.replicate (m + 1) ' ')
      (i := i + (w.flatMap f).length + (m + 1)) (l := l) (k := k + (w.flatMap f).length + (m + 1))
      hfuel (by omega)
    refine ⟨c', hread.trans ?_, hahead, hline⟩
    simp [List.replicate_succ]
  | @breaks w b bs u s hw hb hne hbs hs h ih =>
    simp only [List.length_append, List.length_cons, List.length_replicate] at hfuel
    obtain ⟨fuel, rfl⟩ := Nat.exists_eq_add_of_le' (by omega : 1 ≤ fuel)
    have hquote : b ≠ quoteOf single := by
      rintro rfl
      cases single <;> exact absurd hb.isBreak (by decide)
    have hlength : bs.length + n <
        (b :: (bs ++ (List.replicate n ' ' ++ (s ++ quoteOf single :: z)))).length := by
      simp only [List.length_cons, List.length_append, List.length_replicate]
      omega
    have htext : Gap.text { first := some [b], more := bs } = b :: bs :=
      if_neg fun h ↦ hne (List.cons.inj h).1
    have hfuel : s.length < fuel := by omega
    rw [List.append_assoc, List.append_assoc, List.append_assoc, List.cons_append,
      readQuoted?_gap hw (Or.inr hb.isBreak) hquote hk
        (Gap.read?_breaks hb hbs (hs.of_quote z) hlength), htext]
    obtain ⟨c', hread, hahead, hline⟩ := ih (t := t ++ w ++ (b :: bs))
      (i := i + (w.flatMap f).length + (bs.length + 1 + n)) (l := l + (bs.length + 1)) (k := n)
      hfuel hn
    refine ⟨c', hread.trans ?_, hahead, by omega⟩
    simp

theorem flatMap_spaces {f : Char → Text} (hf : f ' ' = [' ']) (m : Nat) :
    (List.replicate m ' ').flatMap f = List.replicate m ' ' := by
  induction m with
  | zero => rfl
  | succ m ih => rw [List.replicate_succ, List.flatMap_cons, ih, hf, List.singleton_append]

theorem startsInk_quote (single : Bool) : StartsInk [quoteOf single] := by
  cases single <;> exact startsInk_cons (by decide) []

/-! ## Single quotes -/

section Single

/-- A character between single quotes. -/
def doubledQuote (a : Char) : Text := if a = '\'' then ['\'', '\''] else [a]

theorem readAs_doubledQuote {a : Char} (h : IsInk a) : ReadAs true a (doubledQuote a) := by
  obtain ⟨hspacing, hbreak⟩ := h
  by_cases ha : a = '\''
  · subst ha
    exact ⟨fun _ _ _ _ _ _ ↦ rfl, List.cons_ne_nil _ _, startsInk_cons ⟨by decide, by decide⟩ _⟩
  · rw [doubledQuote, if_neg ha]
    refine ⟨?_, List.cons_ne_nil _ _, startsInk_cons ⟨hspacing, hbreak⟩ []⟩
    intro fuel t z i l k
    rw [List.singleton_append, readQuotedRun?]
    simp only [hspacing, hbreak, ha, Bool.or_self, Bool.false_eq_true, if_false, if_true]
    rfl

/-- What is written between single quotes. -/
def quotedBody (n : Nat) (t : Text) : Text :=
  indentLines n doubledQuote false t ++ (if t.getLast?.any isBreak then indentation n else [])

theorem singleQuoted_eq (n : Nat) (t : Text) :
    singleQuoted n t = '\'' :: (quotedBody n t ++ ['\'']) := by
  rw [quotedBody, List.append_assoc]
  exact List.append_assoc _ _ _

theorem quotedBody_run (hw : ∀ a ∈ w, isBreak a = false) :
    quotedBody n (w ++ u) = w.flatMap doubledQuote ++ quotedBody n u := by
  rw [quotedBody, quotedBody, indentLines_run hw, List.append_assoc]
  cases u with
  | nil =>
    have hlast : ¬ w.getLast?.any isBreak = true := by
      rw [Option.any_eq_true]
      rintro ⟨a, ha, hbreak⟩
      rw [hw a (List.mem_of_getLast? ha)] at hbreak
      cases hbreak
    rw [List.append_nil, if_neg hlast]
    rfl
  | cons a u => rw [List.getLast?_append_of_ne_nil _ (List.cons_ne_nil a u)]

theorem quotedBody_breaks {b : Char} {bs : Text} (hb : isBreak b = true)
    (hbs : ∀ b ∈ bs, isBreak b = true) (hu : ∀ a ∈ u.head?, isBreak a = false) :
    quotedBody n (b :: bs ++ u) = b :: bs ++ (indentation n ++ quotedBody n u) := by
  rw [quotedBody, quotedBody, indentLines_breaks hb hbs]
  cases u with
  | nil =>
    have hlast : (b :: bs).getLast?.any isBreak = true := by
      rw [List.getLast?_eq_some_getLast (List.cons_ne_nil b bs), Option.any_some]
      have hall : ∀ b' ∈ b :: bs, isBreak b' = true := List.forall_mem_cons.mpr ⟨hb, hbs⟩
      exact hall _ (List.getLast_mem _)
    rw [List.append_nil, if_pos hlast]
    simp [indentLines]
  | cons a u =>
    rw [indentLines_fresh (hu a rfl), List.getLast?_append_of_ne_nil _ (List.cons_ne_nil a u)]
    simp only [List.append_assoc]

/-- What may stand between single quotes from some point on. -/
structure QuotableTail (t : Text) : Prop where
  visible : ∀ a ∈ t, isVisible a = true
  newline : '\n' ∉ t
  spaceBreak : ∀ x b y, t = x ++ ' ' :: b :: y → isBreak b = false
  breakSpace : ∀ x b y, t = x ++ b :: ' ' :: y → isBreak b = false

theorem QuotableTail.of_append (h : QuotableTail (w ++ u)) : QuotableTail u where
  visible := fun a ha ↦ h.visible a (List.mem_append_right w ha)
  newline := fun hmem ↦ h.newline (List.mem_append_right w hmem)
  spaceBreak := fun x b y hu ↦ h.spaceBreak (w ++ x) b y (by rw [hu, List.append_assoc])
  breakSpace := fun x b y hu ↦ h.breakSpace (w ++ x) b y (by rw [hu, List.append_assoc])

theorem quotableTail_of_allowsQuotes (h : allowsQuotes t = true) (hline : '\n' ∉ t) :
    QuotableTail t := by
  simp only [allowsQuotes, Bool.and_eq_true, Bool.not_eq_true', List.all_eq_true] at h
  obtain ⟨⟨hvisible, hspaceBreak⟩, hbreakSpace⟩ := h
  refine ⟨hvisible, hline, ?_, ?_⟩
  · intro x b y hxy
    by_contra hb
    have hpair : hasSpaceBreak t = true :=
      hasPair_iff.mpr ⟨x, ' ', b, y, hxy, rfl, Bool.not_eq_false _ ▸ hb⟩
    rw [hspaceBreak] at hpair
    cases hpair
  · intro x b y hxy
    by_contra hb
    have hpair : hasBreakSpace t = true :=
      hasPair_iff.mpr ⟨x, b, ' ', y, hxy, Bool.not_eq_false _ ▸ hb, rfl⟩
    rw [hbreakSpace] at hpair
    cases hpair

theorem startsInk_quotedBody (hu : StartsInk u) : StartsInk (quotedBody n u ++ [quoteOf true]) := by
  cases u with
  | nil => exact startsInk_quote true
  | cons a u =>
    have ha := hu a rfl
    have hread := readAs_doubledQuote ha
    have hbody : quotedBody n ([a] ++ u) = doubledQuote a ++ quotedBody n u := by
      rw [quotedBody_run (by simpa using ha.2), List.flatMap_singleton]
    rw [← List.singleton_append, hbody, List.append_assoc]
    exact hread.ink.append hread.ne_nil _

/-- Behind spaces there is a run or the end. -/
theorem QuotableTail.startsInk_of_spaces {m : Nat}
    (h : QuotableTail (' ' :: (List.replicate m ' ' ++ u))) (hu : u.head? ≠ some ' ') :
    StartsInk u := by
  intro a ha
  obtain ⟨u', rfl⟩ := List.head?_eq_some_iff.mp ha
  have hsplit :
      ' ' :: (List.replicate m ' ' ++ a :: u') = List.replicate m ' ' ++ ' ' :: a :: u' := by
    rw [← List.cons_append, ← List.replicate_succ, List.replicate_succ']
    simp
  have hvisible := h.visible a (by simp)
  refine (eq_space_or_isInk hvisible (h.spaceBreak _ _ _ hsplit)).resolve_left fun heq ↦ hu ?_
  rw [List.head?_cons, heq]

/-- Behind breaks there is a run or the end. -/
theorem QuotableTail.startsInk_of_breaks {b : Char} {bs : Text}
    (h : QuotableTail (b :: (bs ++ u))) (hb : isBreak b = true) (hbs : ∀ b ∈ bs, isBreak b = true)
    (hu : ∀ a ∈ u.head?, isBreak a = false) : StartsInk u := by
  intro a ha
  obtain ⟨u', rfl⟩ := List.head?_eq_some_iff.mp ha
  refine (eq_space_or_isInk (h.visible a (by simp)) (hu a rfl)).resolve_left ?_
  rintro rfl
  obtain ⟨front, last, hlast⟩ :=
    (List.eq_nil_or_concat' (b :: bs)).resolve_left (List.cons_ne_nil b bs)
  have hsplit : b :: (bs ++ ' ' :: u') = front ++ last :: ' ' :: u' := by
    rw [← List.cons_append, hlast, List.append_assoc, List.singleton_append]
  have hall : ∀ b' ∈ b :: bs, isBreak b' = true := List.forall_mem_cons.mpr ⟨hb, hbs⟩
  have hbreak := hall last (by rw [hlast]; simp)
  rw [h.breakSpace front last u' hsplit] at hbreak
  cases hbreak

/-- A text is written between single quotes run by run. -/
theorem quoted_quotedBody (ht : QuotableTail t) :
    Quoted true doubledQuote n t (quotedBody n t) := by
  induction hlength : t.length using Nat.strongRecOn generalizing t with
  | ind size ih =>
    obtain ⟨w, v, rfl, hw, hv⟩ := Text.exists_span (fun a ↦ !isSpacing a && !isBreak a) t
    have hink : ∀ a ∈ w, IsInk a := by
      intro a ha
      have hkept := hw a ha
      simpa [IsInk] using hkept
    have hread : ∀ a ∈ w, ReadAs true a (doubledQuote a) := fun a ha ↦
      readAs_doubledQuote (hink a ha)
    rw [quotedBody_run fun a ha ↦ (hink a ha).2]
    cases v with
    | nil =>
      rw [List.append_nil]
      show Quoted true doubledQuote n w (w.flatMap doubledQuote ++ [])
      rw [List.append_nil]
      exact .last w hread
    | cons a v =>
      have hvtail : QuotableTail (a :: v) := ht.of_append
      have hvisible : isVisible a = true := hvtail.visible a List.mem_cons_self
      cases hbreak : isBreak a with
      | false =>
        obtain rfl : a = ' ' := by
          refine (eq_space_or_isInk hvisible hbreak).resolve_right fun ha ↦ ?_
          have hstop := hv a rfl
          rw [ha.1, ha.2] at hstop
          cases hstop
        obtain ⟨spaces, u, rfl, hspaces, hu⟩ := Text.exists_span (· = ' ') v
        obtain ⟨m, rfl⟩ : ∃ m, spaces = List.replicate m ' ' :=
          ⟨_, List.eq_replicate_length.mpr fun a ha ↦ by simpa using hspaces a ha⟩
        have huink : StartsInk u := hvtail.startsInk_of_spaces fun heq ↦ by simpa using hu ' ' heq
        rw [← List.cons_append, quotedBody_run (u := u) (by simp [isBreak]), ← List.replicate_succ,
          flatMap_spaces rfl]
        have hutail : QuotableTail u :=
          QuotableTail.of_append (w := ' ' :: List.replicate m ' ') hvtail
        exact .spaces w m hread (startsInk_quotedBody huink)
          (ih u.length (by simp at hlength; omega) hutail rfl)
      | true =>
        obtain ⟨bs, u, rfl, hbs, hu⟩ := Text.exists_span isBreak v
        have hown : ∀ b ∈ bs, IsOwnBreak b := fun b hb ↦
          ⟨hvtail.visible b (List.mem_cons_of_mem a (List.mem_append_left u hb)), hbs b hb⟩
        have hne : a ≠ '\n' := fun heq ↦ hvtail.newline (heq ▸ List.mem_cons_self)
        have huink : StartsInk u := hvtail.startsInk_of_breaks hbreak hbs hu
        rw [← List.cons_append, quotedBody_breaks hbreak hbs hu]
        have hutail : QuotableTail u := QuotableTail.of_append (w := a :: bs) hvtail
        exact .breaks w a bs hread ⟨hvisible, hbreak⟩ hne hown (startsInk_quotedBody huink)
          (ih u.length (by simp at hlength; omega) hutail rfl)

end Single

/-! ## Escapes -/

section Escapes

private theorem digitValue?_toUpper_digitChar :
    ∀ d < 16, Text.digitValue? 16 (Nat.digitChar d).toUpper = some d := by decide

private theorem digitValue?_digitChar_sixteen :
    ∀ d < 16, Text.digitValue? 16 (Nat.digitChar d) = some d := by decide

/-- A hexadecimal numeral has the same digits in upper case. -/
theorem map_digitValue?_toUpper (n : Nat) :
    ((Text.hex n).map Char.toUpper).map (Text.digitValue? 16) =
      (Text.hex n).map (Text.digitValue? 16) := by
  rw [List.map_map]
  refine List.map_congr_left fun c hc ↦ ?_
  obtain ⟨d, hd, rfl⟩ := Text.exists_digitChar_of_mem_toDigits (by decide) hc
  rw [Function.comp_apply, digitValue?_toUpper_digitChar d hd, digitValue?_digitChar_sixteen d hd]

@[simp]
theorem number?_hexDigits (width n : Nat) : Text.number? 16 (hexDigits width n) = some n := by
  have hfold : ∀ u, Text.digitsValue 16 u =
      (u.map (Text.digitValue? 16)).foldl (fun n v ↦ n * 16 + v.getD 0) 0 := by
    intro u
    rw [List.foldl_map, Text.digitsValue]
  have hzeros : ∀ m u, Text.digitsValue 16 (List.replicate m '0' ++ u) = Text.digitsValue 16 u := by
    intro m u
    induction m with
    | zero => rfl
    | succ m ih =>
      rw [List.replicate_succ, List.cons_append, ← ih]
      rfl
  have hdigits : ∀ c ∈ hexDigits width n, (Text.digitValue? 16 c).isSome = true := by
    intro c hc
    obtain hc | hc := List.mem_append.mp hc
    · rw [List.eq_of_mem_replicate hc]
      rfl
    · obtain ⟨c', hc', rfl⟩ := List.mem_map.mp hc
      obtain ⟨d, hd, rfl⟩ := Text.exists_digitChar_of_mem_toDigits (by decide) hc'
      rw [digitValue?_toUpper_digitChar d hd]
      rfl
  have hne : hexDigits width n ≠ [] := by
    refine List.append_ne_nil_of_right_ne_nil _ ?_
    rw [ne_eq, List.map_eq_nil_iff]
    exact Nat.toDigits_ne_nil
  rw [Text.number?, if_pos ⟨hne, List.all_eq_true.mpr hdigits⟩, hexDigits, Text.padZero, hzeros,
    hfold, map_digitValue?_toUpper, ← hfold]
  exact congrArg some (Text.digitsValue_toDigits (by decide) (by decide) n)

theorem length_hexDigits {width : Nat} (hwidth : 0 < width) (hn : n < 16 ^ width) :
    (hexDigits width n).length = width := by
  have hlength : (Nat.toDigits 16 n).length ≤ width := Nat.toDigits_length 16 n width hwidth hn
  rw [hexDigits, Text.padZero, List.length_append, List.length_replicate, List.length_map,
    Text.hex]
  omega

theorem readEscape?_hexDigits {x : Char} {width : Nat} (hx : escape? x = none)
    (hdigits : escapeDigits? x = some width) (hwidth : 0 < width) {c : Char}
    (hc : c.toNat < 16 ^ width) (z : Text) :
    readEscape? (x :: hexDigits width c.toNat ++ z) = some (c, width + 1) := by
  have hlength := length_hexDigits hwidth hc
  have htake : (hexDigits width c.toNat ++ z).take width = hexDigits width c.toNat :=
    List.take_left' hlength
  have hchar : charOf? c.toNat = some c := by
    have hvalid : c.toNat.isValidChar := c.valid
    rw [charOf?, if_pos hvalid, Char.ofNat_toNat]
  rw [List.cons_append, readEscape?, hx, hdigits]
  show ((Text.number? 16 ((hexDigits width c.toNat ++ z).take width)).bind charOf?).bind (fun d ↦
    if ((hexDigits width c.toNat ++ z).take width).length = width then some (d, width + 1)
    else none) = _
  rw [htake, number?_hexDigits, Option.bind_some, hchar, hlength]
  exact if_pos rfl

/-- `s` is an escape of a character. -/
def IsEscape (c : Char) (s : Text) : Prop :=
  ∃ x digits, s = '\\' :: x :: digits ∧ isBreak x = false ∧
    ∀ z, readEscape? (x :: digits ++ z) = some (c, digits.length + 1)

theorem isEscape_named {c x : Char} (hbreak : isBreak x = false) (hx : escape? x = some c) :
    IsEscape c ['\\', x] := by
  refine ⟨x, [], rfl, hbreak, fun z ↦ ?_⟩
  rw [List.cons_append, readEscape?, hx]
  rfl

theorem isEscape_hexDigits {c x : Char} {width : Nat} (hbreak : isBreak x = false)
    (hx : escape? x = none) (hdigits : escapeDigits? x = some width) (hwidth : 0 < width)
    (hc : c.toNat < 16 ^ width) : IsEscape c (['\\', x] ++ hexDigits width c.toNat) := by
  refine ⟨x, hexDigits width c.toNat, rfl, hbreak, fun z ↦ ?_⟩
  rw [length_hexDigits hwidth hc]
  exact readEscape?_hexDigits hx hdigits hwidth hc z

theorem isEscape_escape (c : Char) : IsEscape c (escape c) := by
  have hlt : c.toNat < 0x110000 := by
    have : c.toNat < 0xD800 ∨ 0xDFFF < c.toNat ∧ c.toNat < 0x110000 := c.valid
    omega
  rw [escape]
  iterate 15
    refine iteInduction (motive := IsEscape c) ?_ fun _ ↦ ?_
    · rintro rfl
      exact isEscape_named (by decide) rfl
  refine iteInduction (motive := IsEscape c) (fun hbyte ↦ ?_) fun _ ↦ ?_
  · exact isEscape_hexDigits (x := 'x') (by decide) rfl rfl (by decide) (by omega)
  refine iteInduction (motive := IsEscape c) (fun hword ↦ ?_) fun _ ↦ ?_
  · exact isEscape_hexDigits (x := 'u') (by decide) rfl rfl (by decide) (by omega)
  · exact isEscape_hexDigits (x := 'U') (by decide) rfl rfl (by decide) (by omega)

theorem IsEscape.readAs {c : Char} (h : IsEscape c s) : ReadAs false c s := by
  obtain ⟨x, digits, rfl, hbreak, hescape⟩ := h
  refine ⟨?_, List.cons_ne_nil _ _, startsInk_cons ⟨by decide, by decide⟩ _⟩
  intro fuel t z i l k
  have hslash : isSpacing '\\' = false ∧ isBreak '\\' = false := by decide
  have hjoined : ¬ (x :: digits ++ z).head?.any isBreak = true := by
    rw [List.cons_append, List.head?_cons, Option.any_some, hbreak]
    exact Bool.false_ne_true
  rw [List.cons_append, readQuotedRun?]
  simp only [hslash.1, hslash.2, Bool.or_self, Bool.false_eq_true, if_false, if_true, hjoined]
  rw [if_neg (by decide), hescape]
  show readQuotedRun? false fuel (t ++ [c])
    (Cursor.advance ⟨'\\' :: x :: digits ++ z, i, l, k⟩ _) = _
  rw [← Cursor.advance_append]
  rfl

end Escapes

/-! ## Double quotes -/

section Double

/-- A character between double quotes. -/
def escaped (c : Char) : Text :=
  if !isVisible c || isBreak c || c == '"' || c == '\\' then escape c else [c]

theorem readAs_escaped {c : Char} (hc : c ≠ ' ') : ReadAs false c (escaped c) := by
  rw [escaped]
  split_ifs with h
  · exact (isEscape_escape c).readAs
  · simp only [Bool.or_eq_true, not_or, Bool.not_eq_true, Bool.not_eq_false', beq_eq_false_iff_ne]
      at h
    obtain ⟨⟨⟨hvisible, hbreak⟩, hquote⟩, hslash⟩ := h
    have hink : IsInk c := (eq_space_or_isInk hvisible hbreak).resolve_left hc
    refine ⟨?_, List.cons_ne_nil _ _, startsInk_cons hink []⟩
    intro fuel t z i l k
    rw [List.singleton_append, readQuotedRun?]
    simp only [hink.1, hink.2, hquote, hslash, Bool.or_self, Bool.false_eq_true, if_false]
    rfl

/-- A text is written between double quotes run by run. -/
theorem quoted_flatMap_escaped (t : Text) : Quoted false escaped n t (t.flatMap escaped) := by
  induction hlength : t.length using Nat.strongRecOn generalizing t with
  | ind size ih =>
    obtain ⟨w, m, v, rfl, hw, hv, hm⟩ := exists_run_spaces t
    have hread : ∀ a ∈ w, ReadAs false a (escaped a) := fun a ha ↦
      readAs_escaped fun heq ↦ hw (heq ▸ ha)
    cases m with
    | zero =>
      obtain rfl := hm rfl
      rw [List.replicate_zero, List.append_nil, List.append_nil]
      exact .last w hread
    | succ m =>
      have hink : StartsInk (v.flatMap escaped ++ [quoteOf false]) := by
        cases v with
        | nil => exact startsInk_quote false
        | cons a v =>
          have ha := readAs_escaped fun heq : a = ' ' ↦ hv (by rw [heq]; rfl)
          rw [List.flatMap_cons, List.append_assoc]
          exact ha.ink.append ha.ne_nil _
      rw [List.flatMap_append, List.flatMap_append, flatMap_spaces rfl]
      exact .spaces w m hread hink (ih v.length (by simp at hlength; omega) v rfl)

theorem doubleQuoted_eq (t : Text) : doubleQuoted t = '"' :: (t.flatMap escaped ++ ['"']) := rfl

end Double

end PacketFilter.Yaml
