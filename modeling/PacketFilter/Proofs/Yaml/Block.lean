import PacketFilter.Proofs.Yaml.Plain

/-!
# Literal blocks read back

A text with line feeds is laid out as a block: its lines, each indented unless it is empty, and the
breaks between them as they are. The reader separates a block into what comes before the breaks at
its end, the first of these and the others, and a sign in the header says which of them belong to
the text. `BlockLines` is the relation between a text that is separated so and its layout; the block
is read back by induction on it.

The indentation is found from the first line unless the header gives it. It does if the text starts
with a space or a break, where the first line would not show it.
-/

namespace PacketFilter.Yaml

variable {t u v w s z core bs : Text} {b : Char} {i l k m n fuel : Nat}

/-! ## Indentation -/

theorem readIndentation?_breaks (hbs : ∀ b ∈ bs, IsOwnBreak b) (fuel deepest : Nat) (t : Text) :
    readIndentation? (some n) (fuel + bs.length) deepest t ⟨bs ++ z, i, l, 0⟩ =
      readIndentation? (some n) fuel deepest (t ++ bs) ⟨z, i + bs.length, l + bs.length, 0⟩ := by
  induction bs generalizing t i l with
  | nil => rw [List.append_nil]; rfl
  | cons b bs ih =>
    obtain ⟨hb, hbs⟩ := List.forall_mem_cons.mp hbs
    have hspaces : (b :: (bs ++ z)).takeWhile (· == ' ') = [] := by
      have hne : (b == ' ') = false := by
        obtain rfl | rfl | rfl := hb.cases <;> decide
      rw [List.takeWhile_cons, hne]
      rfl
    have htab : b ≠ '\t' := by
      obtain rfl | rfl | rfl := hb.cases <;> decide
    have hstep : readIndentation? (some n) (fuel + bs.length + 1) deepest t
        ⟨b :: (bs ++ z), i, l, 0⟩ =
        readIndentation? (some n) (fuel + bs.length) deepest (t ++ [b])
          ⟨bs ++ z, i + 1, l + 1, 0⟩ := by
      rw [readIndentation?]
      simp [hspaces, Cursor.advance, Cursor.head?, htab, hb.isBreak, Cursor.readBreak_cons hb]
    rw [List.length_cons, ← Nat.add_assoc, List.cons_append, hstep, ih hbs, List.append_assoc,
      List.singleton_append, Nat.add_right_comm i, Nat.add_right_comm l]
    rfl

theorem readIndentation?_spaces (hm : m = n ∨ z.head? ≠ some ' ') (hmn : m ≤ n)
    (hbreak : ∀ a ∈ z.head?, isBreak a = false) (htab : m < n → z.head? ≠ some '\t')
    (deepest : Nat) (t : Text) :
    readIndentation? (some n) (fuel + 1) deepest t ⟨List.replicate m ' ' ++ z, i, l, 0⟩ =
      some (max deepest m, t, ⟨z, i + m, l, m⟩) := by
  have hspaces : min ((List.replicate m ' ' ++ z).takeWhile (· == ' ')).length n = m := by
    rw [List.takeWhile_append_of_pos (by simp), List.length_append, List.length_replicate]
    obtain rfl | hz := hm
    · omega
    · have hstop : z.takeWhile (· == ' ') = [] := by
        cases z with
        | nil => rfl
        | cons a z =>
          have ha : (a == ' ') = false := beq_false_of_ne fun h ↦ hz (by rw [h]; rfl)
          rw [List.takeWhile_cons, ha]
          rfl
      rw [hstop, List.length_nil]
      omega
  have hadvance : (⟨List.replicate m ' ' ++ z, i, l, 0⟩ : Cursor).advance m = ⟨z, i + m, l, m⟩ := by
    have hmove := Cursor.advance_append (List.replicate m ' ') z i l 0
    rwa [List.length_replicate, Nat.zero_add] at hmove
  have hno : ¬ (z.head? = some '\t' ∧ (some n).all (m < ·) = true) := by
    rintro ⟨hhead, hlt⟩
    exact htab (by simpa using hlt) hhead
  have hend : ¬ z.head?.any isBreak = true := by
    rw [Option.any_eq_true]
    rintro ⟨a, ha, h⟩
    rw [hbreak a ha] at h
    cases h
  rw [readIndentation?]
  simp only [Nat.sub_zero, hspaces, hadvance, Cursor.head?]
  rw [if_neg hno, if_neg hend]

/-- Behind some breaks the next line is found, at the indentation or in front of it. -/
theorem readIndentation?_next (hbs : ∀ b ∈ bs, IsOwnBreak b) (hmn : m ≤ n)
    (hz : m = n ∨ StartsInk z) (hbreak : ∀ a ∈ z.head?, isBreak a = false) (i l : Nat) :
    readIndentation? (some n) ((bs ++ (List.replicate m ' ' ++ z)).length + 1) 0 []
        ⟨bs ++ (List.replicate m ' ' ++ z), i, l, 0⟩ =
      some (m, bs, ⟨z, i + bs.length + m, l + bs.length, m⟩) := by
  have hspace : m = n ∨ z.head? ≠ some ' ' :=
    hz.imp_right fun hz h ↦ absurd (hz ' ' h).1 (by decide)
  have htab : m < n → z.head? ≠ some '\t' := by
    intro hlt h
    have hink := hz.resolve_left (Nat.ne_of_lt hlt)
    exact absurd (hink '\t' h).1 (by decide)
  have hlength : (bs ++ (List.replicate m ' ' ++ z)).length + 1 =
      (List.replicate m ' ' ++ z).length + 1 + bs.length := by
    rw [List.length_append]
    omega
  rw [hlength, readIndentation?_breaks hbs, readIndentation?_spaces hspace hmn hbreak htab,
    Nat.zero_max, List.nil_append]

/-- The indentation of the first line, if that is what has to be found. -/
theorem readIndentation?_first {a : Char} (hspace : a ≠ ' ') (hink : IsInk a) :
    readIndentation? none (fuel + 1) 0 [] ⟨List.replicate n ' ' ++ a :: z, i, l, 0⟩ =
      some (n, [], ⟨a :: z, i + n, l, n⟩) := by
  have hspaces : ((List.replicate n ' ' ++ a :: z).takeWhile (· == ' ')).length = n := by
    rw [List.takeWhile_append_of_pos (by simp), List.takeWhile_cons, beq_false_of_ne hspace]
    simp
  have hadvance : (⟨List.replicate n ' ' ++ a :: z, i, l, 0⟩ : Cursor).advance n =
      ⟨a :: z, i + n, l, n⟩ := by
    have hmove := Cursor.advance_append (List.replicate n ' ') (a :: z) i l 0
    rwa [List.length_replicate, Nat.zero_add] at hmove
  have htab : a ≠ '\t' := by
    rintro rfl
    exact absurd hink.1 (by decide)
  rw [readIndentation?]
  simp only [hspaces, hadvance, Cursor.head?, List.head?_cons]
  rw [if_neg (by simp [htab]), if_neg (by simp [hink.2]), Nat.zero_max]

/-! ## Lines -/

/-- A text `core` with a break `b` and breaks `bs` behind it, and its lines indented by `n`. -/
inductive BlockLines (n : Nat) : (core : Text) → (b : Char) → (bs : Text) → (s : Text) → Prop
  | last (w : Text) (b : Char) (bs : Text) (hw : ∀ a ∈ w, isBreak a = false) (hne : w ≠ [])
    (hb : IsOwnBreak b) (hbs : ∀ b ∈ bs, IsOwnBreak b) : BlockLines n w b bs (w ++ b :: bs)
  | line (w : Text) (b : Char) (bs : Text) {core : Text} {b' : Char} {bs' s : Text}
    (hw : ∀ a ∈ w, isBreak a = false) (hne : w ≠ []) (hb : IsOwnBreak b)
    (hbs : ∀ b ∈ bs, IsOwnBreak b) (h : BlockLines n core b' bs' s) :
    BlockLines n (w ++ (b :: bs ++ core)) b' bs' (w ++ (b :: bs ++ (List.replicate n ' ' ++ s)))

theorem BlockLines.head?_not_break (h : BlockLines n core b bs s) (z : Text) :
    ∀ a ∈ (s ++ z).head?, isBreak a = false := by
  have hrun : ∀ w y : Text, (∀ a ∈ w, isBreak a = false) → w ≠ [] →
      ∀ a ∈ (w ++ y).head?, isBreak a = false := by
    intro w y hw hne a ha
    rw [List.head?_append_of_ne_nil _ hne] at ha
    exact hw a (List.mem_of_head? ha)
  cases h with
  | last _ _ _ hw hne =>
    rw [List.append_assoc]
    exact hrun core _ hw hne
  | @line w _ _ _ _ _ _ hw hne =>
    rw [List.append_assoc]
    exact hrun w _ hw hne

/-- A line that does not start at the indentation ends the block. -/
theorem readBlockLines?_of_column {last more : Text} {blank : Bool} {c : Cursor}
    (h : c.column ≠ n) :
    readBlockLines? false n fuel t last more blank c = some (t, last, more, c) := by
  cases fuel with
  | zero => rfl
  | succ fuel => rw [readBlockLines?, if_pos (Or.inl h)]

/-- One line, up to where the next one that says something starts. -/
theorem readBlockLines?_step {last more breaks : Text} {blank : Bool} {c : Cursor} {deepest : Nat}
    (hw : ∀ a ∈ w, isBreak a = false) (hb : IsOwnBreak b)
    (hrest : readIndentation? (some n) (z.length + 1) 0 [] ⟨z, i + w.length + 1, l + 1, 0⟩ =
      some (deepest, breaks, c)) :
    readBlockLines? false n (fuel + 1) t last more blank ⟨w ++ b :: z, i, l, n⟩ =
      readBlockLines? false n fuel (t ++ last ++ more ++ w) [b] breaks
        (startsBlank ⟨w ++ b :: z, i, l, n⟩) c := by
  have hspan : Cursor.span (fun a ↦ !isBreak a) ⟨w ++ b :: z, i, l, n⟩ =
      (w, ⟨b :: z, i + w.length, l, n + w.length⟩) := by
    refine Cursor.span_append (fun a ha ↦ by rw [hw a ha]; rfl) fun a ha ↦ ?_
    cases ha
    rw [hb.isBreak]
    rfl
  rw [readBlockLines?, if_neg (by simp)]
  simp only [Bool.false_and, Bool.false_eq_true, if_false, hspan, Cursor.readBreak_cons hb]
  rw [hrest]
  rfl

/-- **The lines of a block are read back**, with the breaks at its end kept apart. The block ends at
a line that starts before it. -/
theorem BlockLines.readBlockLines? (h : BlockLines n core b bs s) (hz : StartsInk z) (hm : m < n)
    (hfuel : s.length < fuel) (t last more : Text) (blank : Bool) :
    ∃ c, readBlockLines? false n fuel t last more blank
        ⟨s ++ (List.replicate m ' ' ++ z), i, l, n⟩ =
      some (t ++ last ++ more ++ core, [b], bs, c) ∧ c.ahead = z ∧ c.column = m ∧ l < c.line := by
  induction h generalizing fuel t last more blank i l with
  | last w b bs hw hne hb hbs =>
    obtain ⟨fuel, rfl⟩ := Nat.exists_eq_add_of_le' (by omega : 1 ≤ fuel)
    have hend := readIndentation?_next hbs (Nat.le_of_lt hm) (Or.inr hz) (fun a ha ↦ (hz a ha).2)
      (i + w.length + 1) (l + 1)
    rw [List.append_assoc, List.cons_append, readBlockLines?_step hw hb hend,
      readBlockLines?_of_column (Nat.ne_of_lt hm)]
    exact ⟨_, rfl, rfl, rfl, by simp; omega⟩
  | @line w b bs core b' bs' s hw hne hb hbs h ih =>
    obtain ⟨fuel, rfl⟩ := Nat.exists_eq_add_of_le' (by omega : 1 ≤ fuel)
    simp only [List.length_append, List.length_cons, List.length_replicate] at hfuel
    have hnext := readIndentation?_next hbs (Nat.le_refl n) (Or.inl rfl)
      (h.head?_not_break (List.replicate m ' ' ++ z)) (i + w.length + 1) (l + 1)
    have hfuel : s.length < fuel := by omega
    obtain ⟨c, hread, hahead, hcolumn, hline⟩ := ih (i := i + w.length + 1 + bs.length + n)
      (l := l + 1 + bs.length) hfuel (t ++ last ++ more ++ w) [b] bs
      (startsBlank ⟨w ++ b :: (bs ++ (List.replicate n ' ' ++ (s ++ (List.replicate m ' ' ++ z)))),
        i, l, n⟩)
    refine ⟨c, ?_, hahead, hcolumn, by omega⟩
    rw [List.append_assoc, List.append_assoc, List.append_assoc, List.cons_append,
      readBlockLines?_step hw hb hnext, hread]
    simp

/-- The text itself does not end in a break. -/
theorem BlockLines.exists_concat (h : BlockLines n core b bs s) :
    ∃ x d, core = x ++ [d] ∧ isBreak d = false := by
  have hrun : ∀ w : Text, (∀ a ∈ w, isBreak a = false) → w ≠ [] →
      ∃ x d, w = x ++ [d] ∧ isBreak d = false := by
    intro w hw hne
    obtain ⟨x, d, rfl⟩ := (List.eq_nil_or_concat' w).resolve_left hne
    exact ⟨x, d, rfl, hw d (by simp)⟩
  induction h with
  | last w b bs hw hne => exact hrun w hw hne
  | @line w b bs core b' bs' s hw hne hb hbs h ih =>
    obtain ⟨x, d, rfl, hd⟩ := ih
    exact ⟨w ++ (b :: bs ++ x), d, by simp, hd⟩

theorem BlockLines.breaks (h : BlockLines n core b bs s) :
    isBreak b = true ∧ ∀ b ∈ bs, isBreak b = true := by
  induction h with
  | last w b bs hw hne hb hbs => exact ⟨hb.isBreak, fun b h ↦ (hbs b h).isBreak⟩
  | line w b bs hw hne hb hbs h ih => exact ih

/-- A text that starts with a line and ends in a break is laid out line by line. -/
theorem exists_blockLines {a : Char} (hown : ∀ b ∈ a :: u, isBreak b = true → IsOwnBreak b)
    (ha : isBreak a = false) (hlast : (a :: u).getLast?.any isBreak = true) :
    ∃ core b bs, a :: u = core ++ b :: bs ∧
      BlockLines n core b bs (indentLines n ([·]) false (a :: u)) := by
  induction hlength : u.length using Nat.strongRecOn generalizing a u with
  | ind size ih =>
    obtain ⟨w, v, hsplit, hw, hv⟩ := Text.exists_span (fun a ↦ !isBreak a) (a :: u)
    have hw : ∀ a ∈ w, isBreak a = false := fun a ha ↦ by simpa using hw a ha
    have hne : w ≠ [] := by
      rintro rfl
      have hstop := hv a (by rw [← List.nil_append v, ← hsplit]; rfl)
      rw [ha] at hstop
      cases hstop
    cases v with
    | nil =>
      rw [List.append_nil] at hsplit
      rw [hsplit, Option.any_eq_true] at hlast
      obtain ⟨d, hd, hbreak⟩ := hlast
      rw [hw d (List.mem_of_getLast? hd)] at hbreak
      cases hbreak
    | cons b v =>
      have hb : isBreak b = true := by simpa using hv b rfl
      obtain ⟨bs, rest, rfl, hbs, hrest⟩ := Text.exists_span isBreak v
      rw [hsplit] at hown hlast ⊢
      have hbown : IsOwnBreak b := hown b (by simp) hb
      have hbsown : ∀ b ∈ bs, IsOwnBreak b := fun b hb ↦ hown b (by simp [hb]) (hbs b hb)
      have hlines : indentLines n ([·]) false (w ++ b :: (bs ++ rest)) =
          w ++ (b :: bs ++ indentLines n ([·]) true rest) := by
        rw [indentLines_run hw, ← List.cons_append, indentLines_breaks hb hbs]
        simp
      rw [hlines]
      cases rest with
      | nil =>
        refine ⟨w, b, bs, by simp, ?_⟩
        rw [indentLines, List.append_nil]
        exact .last w b bs hw hne hbown hbsown
      | cons a' rest =>
        have hend : (a' :: rest).getLast?.any isBreak = true := by
          rwa [← List.cons_append, ← List.append_assoc,
            List.getLast?_append_of_ne_nil _ (List.cons_ne_nil a' rest)] at hlast
        have hshorter : rest.length < size := by
          have hlengths := congrArg List.length hsplit
          simp at hlengths
          omega
        obtain ⟨core, b', bs', hcore, hblock⟩ := ih rest.length hshorter
          (fun b hb ↦ hown b (by simp only [List.mem_append, List.mem_cons] at hb ⊢; tauto))
          (hrest a' rfl) hend rfl
        refine ⟨w ++ (b :: bs ++ core), b', bs', by rw [hcore]; simp, ?_⟩
        rw [indentLines_fresh (hrest a' rfl)]
        exact .line w b bs hw hne hbown hbsown hblock

/-! ## The header -/

/-- The way of chomping that a text is written with. -/
def chompingOf (t : Text) : Chomping :=
  match t.reverse with
  | [] => .strip
  | [c] => if isBreak c then .keep else .strip
  | c :: d :: _ => if !isBreak c then .strip else if isBreak d then .keep else .clip

/-- The text with a break at its end. -/
def ended (t : Text) : Text := if t.getLast?.any isBreak then t else t ++ ['\n']

/-- Whether the indentation of a text is written in the header. -/
def givesIndent (t : Text) : Bool := t.head?.any fun c ↦ c == ' ' || isBreak c

/-- The sign of a way of chomping, none for the usual one. -/
def Chomping.sign : Chomping → Text
  | .strip => ['-']
  | .clip => []
  | .keep => ['+']

theorem blockHints_eq (t : Text) :
    blockHints t = (if givesIndent t then ['2'] else []) ++ (chompingOf t).sign := by
  have hchomping : (match t.reverse with
      | [] => ['-']
      | [c] => if isBreak c then ['+'] else ['-']
      | c :: d :: _ => if !isBreak c then ['-'] else if isBreak d then ['+'] else [] : Text) =
      (chompingOf t).sign := by
    rw [chompingOf]
    split
    · rfl
    · split_ifs <;> rfl
    · split_ifs <;> rfl
  rw [blockHints, ← hchomping]
  rfl

theorem readHeader?_signs (gives : Bool) (chomping : Chomping) :
    readHeader? ⟨(if gives then ['2'] else []) ++ chomping.sign ++ '\n' :: z, i, l, k⟩ =
      some (chomping, if gives then some 2 else none,
        Cursor.advance ⟨(if gives then ['2'] else []) ++ chomping.sign ++ '\n' :: z, i, l, k⟩
          ((if gives then ['2'] else []) ++ chomping.sign).length) := by
  cases gives <;> cases chomping <;> rfl

theorem readHeader?_blockHints (t : Text) :
    readHeader? ⟨blockHints t ++ '\n' :: z, i, l, k⟩ =
      some (chompingOf t, if givesIndent t then some 2 else none,
        ⟨'\n' :: z, i + (blockHints t).length, l, k + (blockHints t).length⟩) := by
  rw [blockHints_eq, readHeader?_signs, Cursor.advance_append]

/-! ## Chomping -/

/-- What of a block belongs to the text. -/
def Chomping.apply (chomping : Chomping) (core last more : Text) : Text :=
  match chomping with
  | .strip => core
  | .clip => core ++ last
  | .keep => core ++ last ++ more

theorem chompingOf_line {x : Text} {c : Char} (hc : isBreak c = false) :
    chompingOf (x ++ [c]) = .strip := by
  rw [chompingOf, List.reverse_append, List.reverse_singleton, List.singleton_append]
  cases x.reverse <;> simp [hc]

theorem chompingOf_break {x : Text} {c d : Char} (hd : isBreak d = true) :
    chompingOf (x ++ [c, d]) = if isBreak c then .keep else .clip := by
  simp [chompingOf, hd]

theorem chompingOf_breaks (hne : bs ≠ []) (hbs : ∀ b ∈ bs, isBreak b = true) :
    chompingOf bs = .keep := by
  obtain ⟨x, d, rfl⟩ := (List.eq_nil_or_concat' bs).resolve_left hne
  have hd := hbs d (by simp)
  obtain rfl | ⟨x, c, rfl⟩ := List.eq_nil_or_concat' x
  · simp [chompingOf, hd]
  · rw [List.append_assoc, List.singleton_append, chompingOf_break hd, if_pos (hbs c (by simp))]

theorem ended_of_break {x : Text} {c : Char} (hc : isBreak c = true) :
    ended (x ++ [c]) = x ++ [c] := by
  rw [ended, List.getLast?_concat, Option.any_some, if_pos hc]

theorem ended_of_line {x : Text} {c : Char} (hc : isBreak c = false) :
    ended (x ++ [c]) = x ++ [c] ++ ['\n'] := by
  rw [ended, List.getLast?_concat, Option.any_some, hc, if_neg Bool.false_ne_true]

@[simp] theorem getLast?_ended (t : Text) : (ended t).getLast?.any isBreak = true := by
  rw [ended]
  split
  · assumption
  · rw [List.getLast?_concat]
    rfl

theorem exists_concat_break (hb : isBreak b = true) (hbs : ∀ b ∈ bs, isBreak b = true) :
    ∃ front last, b :: bs = front ++ [last] ∧ isBreak last = true := by
  obtain ⟨front, last, hlast⟩ := (List.eq_nil_or_concat' (b :: bs)).resolve_left (by simp)
  have hall : ∀ b' ∈ b :: bs, isBreak b' = true := List.forall_mem_cons.mpr ⟨hb, hbs⟩
  exact ⟨front, last, hlast, hall last (by rw [hlast]; simp)⟩

/-- The header says which of the breaks at the end of a block belong to the text. -/
theorem apply_chompingOf (hcore : ∃ x d, core = x ++ [d] ∧ isBreak d = false)
    (hb : isBreak b = true) (hbs : ∀ b ∈ bs, isBreak b = true) (ht : ended t = core ++ b :: bs) :
    (chompingOf t).apply core [b] bs = t := by
  obtain ⟨x, d, rfl, hd⟩ := hcore
  have hne : t ≠ [] := by
    rintro rfl
    have hlength := congrArg List.length ht
    simp [ended] at hlength
    omega
  obtain ⟨y, c, rfl⟩ := (List.eq_nil_or_concat' t).resolve_left hne
  cases hc : isBreak c with
  | false =>
    rw [ended_of_line hc] at ht
    obtain rfl | ⟨bs, e, rfl⟩ := List.eq_nil_or_concat' bs
    · rw [chompingOf_line hc, (List.append_inj' ht rfl).1]
      rfl
    · have hsplit : y ++ [c] = x ++ [d] ++ b :: bs := by
        rw [← List.cons_append, ← List.append_assoc] at ht
        exact (List.append_inj' ht rfl).1
      obtain ⟨front, last, hlast, hbreak⟩ := exists_concat_break hb fun b hb ↦
        hbs b (List.mem_append_left [e] hb)
      rw [hlast, ← List.append_assoc] at hsplit
      rw [(List.append_inj' hsplit rfl).2 |> List.singleton_inj.mp, hbreak] at hc
      cases hc
  | true =>
    rw [ended_of_break hc] at ht
    obtain rfl | ⟨bs, e, rfl⟩ := List.eq_nil_or_concat' bs
    · rw [ht, List.append_assoc, List.singleton_append, chompingOf_break hb, hd]
      simp [Chomping.apply]
    · obtain ⟨front, last, hlast, hbreak⟩ := exists_concat_break hb fun b hb ↦
        hbs b (List.mem_append_left [e] hb)
      have hsplit : x ++ [d] ++ b :: (bs ++ [e]) = x ++ [d] ++ front ++ [last, e] := by
        rw [← List.cons_append, hlast]
        simp
      rw [ht, hsplit, chompingOf_break (hbs e (by simp)), hbreak, if_pos rfl, ← hsplit]
      simp [Chomping.apply]

/-! ## The scalar -/

theorem indentLines_concat_break {f : Char → Text} {fresh : Bool} (hb : isBreak b = true) :
    indentLines n f fresh (t ++ [b]) = indentLines n f fresh t ++ [b] := by
  induction t generalizing fresh with
  | nil => simp [indentLines, hb]
  | cons a t ih =>
    rw [List.cons_append, indentLines, indentLines]
    by_cases ha : isBreak a = true
    · rw [if_pos ha, if_pos ha, ih, List.cons_append]
    · rw [if_neg ha, if_neg ha, ih, List.append_assoc _ _ [b]]

theorem literal_ended (n : Nat) (t : Text) :
    (if t.getLast?.any isBreak then literal n t else literal n t ++ ['\n']) =
      '|' :: blockHints t ++ '\n' :: indentLines n ([·]) true (ended t) := by
  rw [ended]
  split
  · rfl
  · rw [indentLines_concat_break (by decide)]
    exact List.append_assoc _ _ _

theorem readBlock?_of_parts (t : Text) (margin : Nat) {deepest : Nat} {breaks last more : Text}
    {c c' : Cursor} {known : Option Nat}
    (hknown : known = (if givesIndent t then some 2 else none).map (margin - 1 + ·))
    (hindentation : readIndentation? known (z.length + 1) 0 []
        ⟨z, i + (blockHints t).length + 1, l + 1, 0⟩ = some (deepest, breaks, c))
    (hlines : readBlockLines? false (known.getD (max deepest (max margin 1)))
        (c.ahead.length + 1) [] [] breaks false c = some (core, last, more, c')) :
    readBlock? false margin ⟨blockHints t ++ '\n' :: z, i, l, k⟩ =
      some ((chompingOf t).apply core last more, c') := by
  have hspace : Cursor.skipWhile isSpacing
      ⟨'\n' :: z, i + (blockHints t).length, l, k + (blockHints t).length⟩ =
      ⟨'\n' :: z, i + (blockHints t).length, l, k + (blockHints t).length⟩ :=
    Cursor.skipWhile_of_stops fun a ha ↦ by cases ha; decide
  subst hknown
  have hcomment : (if Cursor.head?
        ⟨'\n' :: z, i + (blockHints t).length, l, k + (blockHints t).length⟩ = some '#' then
        Cursor.toLineEnd ⟨'\n' :: z, i + (blockHints t).length, l, k + (blockHints t).length⟩
      else ⟨'\n' :: z, i + (blockHints t).length, l, k + (blockHints t).length⟩) =
      ⟨'\n' :: z, i + (blockHints t).length, l, k + (blockHints t).length⟩ :=
    if_neg (by simp [Cursor.head?])
  have hline : endsLine (some '\n') = true := by decide
  rw [readBlock?, readHeader?_blockHints]
  simp only [Option.bind_eq_bind, Option.bind_some, hspace, hcomment]
  simp only [Cursor.head?, List.head?_cons, hline, Bool.not_true, Bool.false_eq_true, if_false,
    Cursor.readBreak_cons isOwnBreak_newline, hindentation, hlines, Option.bind_some]
  cases chompingOf t <;> rfl

/-- The first line may be indented, and breaks may come before it. -/
theorem indentLines_leading {f : Char → Text} (hbs : ∀ b ∈ bs, isBreak b = true) :
    indentLines n f true (bs ++ u) = bs ++ indentLines n f true u := by
  cases bs with
  | nil => rfl
  | cons b bs =>
    obtain ⟨hb, hbs⟩ := List.forall_mem_cons.mp hbs
    exact indentLines_breaks hb hbs

theorem ended_eq_or (t : Text) : ended t = t ∨ ended t = t ++ ['\n'] := by
  rw [ended]
  split
  · exact Or.inl rfl
  · exact Or.inr rfl

theorem head?_ended (hne : t ≠ []) : (ended t).head? = t.head? := by
  obtain h | h := ended_eq_or t
  · rw [h]
  · rw [h, List.head?_append_of_ne_nil _ hne]

theorem isVisible_of_mem_ended (ht : ∀ a ∈ t, isVisible a = true) :
    ∀ a ∈ ended t, isVisible a = true := by
  obtain h | h := ended_eq_or t
  · rwa [h]
  · intro a ha
    rw [h, List.mem_append, List.mem_singleton] at ha
    obtain ha | rfl := ha
    · exact ht a ha
    · decide

theorem eq_ended_of_breaks (hne : t ≠ []) (h : ∀ b ∈ ended t, isBreak b = true) : ended t = t := by
  obtain ⟨x, c, rfl⟩ := (List.eq_nil_or_concat' t).resolve_left hne
  obtain hends | hends := ended_eq_or (x ++ [c])
  · exact hends
  · exact ended_of_break (h c (by rw [hends]; simp))

section Ended

variable {margin : Nat}

theorem readBlock?_breaks (hne : t ≠ []) (hbreaks : ∀ b ∈ t, IsOwnBreak b) (hmargin : 1 ≤ margin)
    (hz : StartsInk z) (hn : n ≤ margin) :
    ∃ c, readBlock? false margin ⟨blockHints t ++ '\n' :: (t ++ (List.replicate n ' ' ++ z)),
        i, l, k⟩ =
      some (t, c) ∧ c.ahead = z ∧ c.column = n ∧ l < c.line := by
  have hgives : givesIndent t = true := by
    cases t with
    | nil => exact absurd rfl hne
    | cons a t => simp [givesIndent, (hbreaks a List.mem_cons_self).isBreak]
  have hchomping : chompingOf t = .keep := chompingOf_breaks hne fun b hb ↦ (hbreaks b hb).isBreak
  have hindentation := readIndentation?_next hbreaks (Nat.le_succ_of_le hn) (Or.inr hz)
    (fun a ha ↦ (hz a ha).2) (i + (blockHints t).length + 1) (l + 1)
  have hknown : some (margin + 1) =
      (if givesIndent t then some 2 else none).map (margin - 1 + ·) := by
    rw [hgives, if_pos rfl, Option.map_some, Option.some_inj]
    omega
  have hread := readBlock?_of_parts t margin (k := k) hknown hindentation
    (readBlockLines?_of_column (Nat.ne_of_lt (Nat.lt_succ_of_le hn)))
  rw [hchomping] at hread
  refine ⟨_, hread, rfl, rfl, ?_⟩
  show l < l + 1 + t.length
  omega

/-- The first line is found by what the header says, or by itself. -/
theorem readIndentation?_ended {a : Char} (hne : t ≠ [])
    (hvisible : ∀ a ∈ ended t, isVisible a = true) (hsplit : ended t = bs ++ a :: u)
    (hbs : ∀ b ∈ bs, IsOwnBreak b) (ha : isBreak a = false) (hmargin : 1 ≤ margin)
    (y : Text) (i l : Nat) :
    readIndentation? ((if givesIndent t then some 2 else none).map (margin - 1 + ·))
        ((bs ++ (List.replicate (margin + 1) ' ' ++ a :: y)).length + 1) 0 []
        ⟨bs ++ (List.replicate (margin + 1) ' ' ++ a :: y), i, l, 0⟩ =
      some (margin + 1, bs,
        ⟨a :: y, i + bs.length + (margin + 1), l + bs.length, margin + 1⟩) := by
  cases hgives : givesIndent t with
  | true =>
    have hknown : margin - 1 + 2 = margin + 1 := by omega
    have hbreak : ∀ a' ∈ (a :: y).head?, isBreak a' = false := by
      intro a' ha'
      cases ha'
      exact ha
    rw [if_pos rfl, Option.map_some, hknown]
    exact readIndentation?_next hbs (Nat.le_refl _) (Or.inl rfl) hbreak i l
  | false =>
    rw [givesIndent, ← head?_ended hne, hsplit] at hgives
    have hnil : bs = [] := by
      cases bs with
      | nil => rfl
      | cons b bs =>
        rw [List.cons_append, List.head?_cons, Option.any_some,
          (hbs b List.mem_cons_self).isBreak, Bool.or_true] at hgives
        cases hgives
    subst hnil
    have hspace : a ≠ ' ' := by
      rintro rfl
      cases hgives
    have hink : IsInk a :=
      (eq_space_or_isInk (hvisible a (by rw [hsplit]; exact List.mem_cons_self)) ha).resolve_left
        hspace
    exact readIndentation?_first hspace hink

/-- **A block is read back**, together with the indentation of the next line. -/
theorem readBlock?_ended (ht : allowsBlock t = true) (hmargin : 1 ≤ margin)
    (hz : StartsInk z) (hn : n ≤ margin) :
    ∃ c, readBlock? false margin ⟨blockHints t ++ '\n' ::
        (indentLines (margin + 1) ([·]) true (ended t) ++ (List.replicate n ' ' ++ z)), i, l, k⟩ =
      some (t, c) ∧ c.ahead = z ∧ c.column = n ∧ l < c.line := by
  simp only [allowsBlock, Bool.and_eq_true, List.all_eq_true, decide_eq_true_eq] at ht
  obtain ⟨⟨⟨hne, hallvisible⟩, -⟩, -⟩ := ht
  have hvisible : ∀ a ∈ ended t, isVisible a = true := isVisible_of_mem_ended hallvisible
  obtain ⟨bs, u, hsplit, hbs, hu⟩ := Text.exists_span isBreak (ended t)
  have hbsown : ∀ b ∈ bs, IsOwnBreak b := fun b hb ↦
    ⟨hvisible b (by rw [hsplit]; exact List.mem_append_left u hb), hbs b hb⟩
  rw [hsplit, indentLines_leading hbs]
  cases u with
  | nil =>
    rw [List.append_nil] at hsplit
    have htbreaks := eq_ended_of_breaks hne (by rwa [hsplit])
    rw [indentLines, List.append_nil, ← hsplit, htbreaks]
    exact readBlock?_breaks hne (by rwa [← htbreaks, hsplit]) hmargin hz hn
  | cons a u =>
    have ha : isBreak a = false := hu a rfl
    have hlast := getLast?_ended t
    rw [hsplit, List.getLast?_append_of_ne_nil _ (List.cons_ne_nil a u)] at hlast
    obtain ⟨core, b, bs', hcore, hblock⟩ := exists_blockLines (n := margin + 1)
      (fun b hb hbreak ↦ ⟨hvisible b (by rw [hsplit]; exact List.mem_append_right bs hb), hbreak⟩)
      ha hlast
    have hfirst : indentLines (margin + 1) ([·]) false (a :: u) =
        a :: indentLines (margin + 1) ([·]) false u := by
      rw [indentLines_cons ha]
      rfl
    rw [indentLines_fresh ha, hfirst, List.append_assoc, List.append_assoc]
    rw [hfirst] at hblock
    have hindentation := readIndentation?_ended hne hvisible hsplit hbsown ha hmargin
      (indentLines (margin + 1) ([·]) false u ++ (List.replicate n ' ' ++ z))
      (i + (blockHints t).length + 1) (l + 1)
    have hfuel : (a :: indentLines (margin + 1) ([·]) false u).length <
        (a :: (indentLines (margin + 1) ([·]) false u ++
          (List.replicate n ' ' ++ z))).length + 1 := by
      simp only [List.length_cons, List.length_append]
      omega
    obtain ⟨c, hlines, hahead, hcolumn, hline⟩ :=
      hblock.readBlockLines? hz (Nat.lt_succ_of_le hn) hfuel [] [] bs false
    have hindent : ((if givesIndent t then some 2 else none).map (margin - 1 + ·)).getD
        (max (margin + 1) (max margin 1)) = margin + 1 := by
      cases givesIndent t with
      | true =>
        show margin - 1 + 2 = margin + 1
        omega
      | false =>
        show max (margin + 1) (max margin 1) = margin + 1
        omega
    have hread := readBlock?_of_parts t margin (k := k) rfl hindentation
      (by rw [hindent]; exact hlines)
    have htext : (chompingOf t).apply (bs ++ core) [b] bs' = t := by
      obtain ⟨hb, hbs'⟩ := hblock.breaks
      obtain ⟨x, d, hx, hd⟩ := hblock.exists_concat
      refine apply_chompingOf ⟨bs ++ x, d, ?_, hd⟩ hb hbs' ?_
      · rw [hx, List.append_assoc]
      · rw [hsplit, hcore, List.append_assoc]
    refine ⟨c, hread.trans ?_, hahead, hcolumn, by omega⟩
    rw [List.nil_append, List.nil_append, htext]

end Ended

end PacketFilter.Yaml
