import Mathlib.Tactic.SplitIfs
import PacketFilter.Proofs.Text.Pieces
import PacketFilter.Regex.Parser

/-!
# A dollar sign behind a pattern's text

Whoever puts a dollar sign behind the text of a pattern expects it to be read as a sign of its own,
behind everything the text stands for. This is so because every reader decides by what it has seen
and looks ahead by no more than a character, and because no construct of the notation that is
finished goes on with a dollar sign.

One thing can keep the sign from being read. In verbose mode a text may end in a comment, and the
sign is then part of the comment. So with verbose flags a reader is only followed where it leaves
something of the text; what it leaves does not start in a comment.
-/

namespace PacketFilter.Regex

variable {f : Flags} {t cs rest : Text} {c : Char}

/-- A text that ends in a dollar sign starts with another character only if what is before the sign
does. -/
theorem exists_of_concat_eq_cons (h : t ++ ['$'] = c :: cs) (hc : c ≠ '$') :
    ∃ rest, t = c :: rest ∧ cs = rest ++ ['$'] := by
  rcases t with _ | ⟨b, t⟩
  · exact absurd (List.cons.inj h).1.symm hc
  · obtain ⟨rfl, rfl⟩ := List.cons.inj h
    exact ⟨t, rfl, rfl⟩

theorem exists_of_concat_eq_cons_cons {b : Char} (h : t ++ ['$'] = b :: c :: cs) (hb : b ≠ '$')
    (hc : c ≠ '$') : ∃ rest, t = b :: c :: rest ∧ cs = rest ++ ['$'] := by
  obtain ⟨mid, rfl, hmid⟩ := exists_of_concat_eq_cons h hb
  obtain ⟨rest, rfl, rfl⟩ := exists_of_concat_eq_cons hmid.symm hc
  exact ⟨rest, rfl, rfl⟩

namespace Flags

/-- Behind the rest of a text that is left, a sign is read as such. -/
def Leaves (f : Flags) (rest : Text) : Prop := f.verbose = true → rest ≠ []

theorem leaves_cons (f : Flags) (c : Char) (cs : Text) : f.Leaves (c :: cs) :=
  fun _ ↦ List.cons_ne_nil c cs

/-! ## Blanks and comments -/

theorem skipBlanks_append {inComment : Bool} (h : skipBlanks inComment t ≠ []) (u : Text) :
    skipBlanks inComment (t ++ u) = skipBlanks inComment t ++ u := by
  induction t generalizing inComment with
  | nil => exact absurd (by cases inComment <;> rfl) h
  | cons c t ih =>
    rcases inComment with _ | _
    · rw [List.cons_append, skipBlanks, skipBlanks]
      rw [skipBlanks] at h
      split <;> rename_i hhash
      · rw [if_pos hhash] at h
        exact ih h
      · rw [if_neg hhash] at h
        split <;> rename_i hblank
        · rw [if_pos hblank] at h
          exact ih h
        · rfl
    · exact ih h

theorem skip_append (h : f.Leaves (f.skip t)) (u : Text) : f.skip (t ++ u) = f.skip t ++ u := by
  rw [skip, skip]
  split
  · rename_i hverbose
    have hne := h hverbose
    rw [skip, if_pos hverbose] at hne
    exact skipBlanks_append hne u
  · rfl

theorem skip_append_of_cons (h : f.skip t = c :: cs) (u : Text) :
    f.skip (t ++ u) = c :: (cs ++ u) := by
  rw [skip_append (h ▸ f.leaves_cons c cs), h, List.cons_append]

theorem length_skip_le (f : Flags) (t : Text) : (f.skip t).length ≤ t.length := by
  have hblanks : ∀ inComment, (skipBlanks inComment t).length ≤ t.length := by
    induction t with
    | nil => exact fun inComment ↦ by cases inComment <;> exact Nat.le_refl 0
    | cons c t ih =>
      rintro (_ | _)
      · rw [skipBlanks]
        split
        · exact Nat.le_succ_of_le (ih true)
        · split
          · exact Nat.le_succ_of_le (ih false)
          · exact Nat.le_refl _
      · exact Nat.le_succ_of_le (ih _)
  rw [skip]
  split
  · exact hblanks false
  · exact Nat.le_refl _

@[simp] theorem skip_nil (f : Flags) : f.skip [] = [] := by
  rw [skip]
  split <;> rfl

/-! ## Runs -/

@[simp] theorem readRun_nil (f : Flags) (p : Char → Bool) (fuel : Nat) :
    f.readRun p fuel [] = ([], []) := by
  rcases fuel with _ | _ <;> rfl

theorem readRun_of_not {p : Char → Bool} {fuel : Nat} (h : p c = false) :
    f.readRun p (fuel + 1) (c :: cs) = ([], c :: cs) := by
  rw [readRun, if_neg (by rw [h]; exact Bool.false_ne_true)]

theorem leaves_of_readRun {p : Char → Bool} {fuel : Nat} (h : f.Leaves (f.readRun p fuel t).2) :
    f.Leaves t := by
  rintro hverbose rfl
  rw [readRun_nil] at h
  exact h hverbose rfl

/-- A run ends before a dollar sign, or before the character it has ended at. -/
theorem readRun_append {p : Char → Bool} {fuel more : Nat} (hfuel : t.length ≤ fuel)
    (hmore : t.length < more) (hrest : f.Leaves (f.readRun p fuel t).2)
    (hp : p '$' = false ∨ (f.readRun p fuel t).2 ≠ []) :
    f.readRun p more (t ++ ['$']) =
      ((f.readRun p fuel t).1, (f.readRun p fuel t).2 ++ ['$']) := by
  induction fuel generalizing t more with
  | zero =>
    obtain rfl := List.length_eq_zero_iff.mp (Nat.le_zero.mp hfuel)
    have hdollar : p '$' = false := hp.resolve_right (· rfl)
    obtain ⟨more, rfl⟩ := Nat.exists_eq_succ_of_ne_zero (Nat.ne_zero_of_lt hmore)
    exact readRun_of_not hdollar
  | succ fuel ih =>
    obtain ⟨more, rfl⟩ := Nat.exists_eq_succ_of_ne_zero (Nat.ne_zero_of_lt hmore)
    rcases t with _ | ⟨c, t⟩
    · have hdollar : p '$' = false := hp.resolve_right (· rfl)
      exact readRun_of_not hdollar
    · rw [List.cons_append, readRun, readRun]
      rw [readRun] at hrest hp
      split <;> rename_i hc
      · rw [if_pos hc] at hrest hp
        have hlen := f.length_skip_le t
        rw [skip_append (leaves_of_readRun hrest),
          ih (Nat.le_trans hlen (Nat.le_of_succ_le_succ hfuel))
            (Nat.lt_of_le_of_lt hlen (Nat.lt_of_succ_lt_succ hmore)) hrest hp]
      · rfl

theorem run_append {p : Char → Bool} (hrest : f.Leaves (f.run p t).2)
    (hp : p '$' = false ∨ (f.run p t).2 ≠ []) :
    f.run p (t ++ ['$']) = ((f.run p t).1, (f.run p t).2 ++ ['$']) := by
  refine readRun_append (Nat.le_refl _) ?_ hrest hp
  rw [List.length_append]
  exact Nat.lt_succ_self _

theorem run_append_of_cons {p : Char → Bool} {run : Text} (h : f.run p t = (run, c :: cs)) :
    f.run p (t ++ ['$']) = (run, c :: (cs ++ ['$'])) := by
  have hne : (f.run p t).2 ≠ [] := by
    rw [h]
    exact List.cons_ne_nil c cs
  rw [run_append (fun _ ↦ hne) (Or.inr hne), h]
  rfl

theorem leaves_of_run {p : Char → Bool} (h : f.Leaves (f.run p t).2) : f.Leaves t :=
  leaves_of_readRun h

theorem run_skip_append_of_cons {p : Char → Bool} {run : Text}
    (h : f.run p (f.skip t) = (run, c :: cs)) :
    f.run p (f.skip (t ++ ['$'])) = (run, c :: (cs ++ ['$'])) := by
  have hleaves : f.Leaves (f.run p (f.skip t)).2 := h ▸ f.leaves_cons c cs
  rw [skip_append (leaves_of_run hleaves), run_append_of_cons h]

theorem leaves_of_skip (h : f.Leaves (f.skip t)) : f.Leaves t := by
  rintro hverbose rfl
  exact h hverbose f.skip_nil

end Flags

/-! ## Numerals -/

theorem leaves_of_readCount? {x : Nat × Text} (h : readCount? f t = some x) : f.Leaves t := by
  rintro - rfl
  exact absurd h nofun

theorem readCount?_append {n : Nat} (h : readCount? f t = some (n, rest)) (hrest : f.Leaves rest) :
    readCount? f (t ++ ['$']) = some (n, rest ++ ['$']) := by
  have hblank : (t ++ ['$']).dropWhile Text.isBlank = t.dropWhile Text.isBlank ++ ['$'] := by
    rw [List.dropWhile_append]
    split
    · rename_i hempty
      rw [List.isEmpty_iff.mp hempty]
      rfl
    · rfl
  rw [readCount?, hblank]
  rw [readCount?] at h
  obtain ⟨k, hk, h⟩ := Option.bind_eq_some_iff.mp h
  split at h
  · rename_i hlt
    obtain ⟨rfl, rfl⟩ := Prod.mk.inj (Option.some.inj h)
    have hmid := Flags.leaves_of_run hrest
    rw [Flags.run_append hmid (Or.inl rfl)]
    refine Option.bind_eq_some_iff.mpr ⟨k, hk, ?_⟩
    have hlast := Flags.run_append hrest (Or.inl rfl)
    exact (if_pos hlt).trans (congrArg (fun u ↦ some (k, u.2)) hlast)
  · exact absurd h nofun

theorem leaves_of_readHexDigits? {count : Nat} {digits : Text}
    (h : readHexDigits? f count t = some (digits, rest)) (hrest : f.Leaves rest) : f.Leaves t := by
  rintro hverbose rfl
  rcases count with _ | count
  · obtain rfl : [] = rest := (Prod.mk.inj (Option.some.inj h)).2
    exact hrest hverbose rfl
  · exact absurd h nofun

theorem readHexDigits?_append {count : Nat} {digits : Text}
    (h : readHexDigits? f count t = some (digits, rest)) (hrest : f.Leaves rest) :
    readHexDigits? f count (t ++ ['$']) = some (digits, rest ++ ['$']) := by
  induction count generalizing t digits with
  | zero =>
    obtain ⟨rfl, rfl⟩ := Prod.mk.inj (Option.some.inj h)
    rfl
  | succ count ih =>
    rcases t with _ | ⟨c, t⟩
    · exact absurd h nofun
    · rw [readHexDigits?] at h
      rw [List.cons_append, readHexDigits?]
      split at h
      · exact absurd h nofun
      · rename_i hc
        rw [if_neg hc]
        obtain ⟨⟨more, rest'⟩, hmore, h⟩ := Option.bind_eq_some_iff.mp h
        obtain ⟨rfl, rfl⟩ := Prod.mk.inj (Option.some.inj h)
        rw [Flags.skip_append (leaves_of_readHexDigits? hmore hrest)]
        exact Option.bind_eq_some_iff.mpr ⟨(more, rest' ++ ['$']), ih hmore, rfl⟩

theorem readHex?_append {count : Nat} {c : Char} (h : readHex? f count t = some (c, rest))
    (hrest : f.Leaves rest) : readHex? f count (t ++ ['$']) = some (c, rest ++ ['$']) := by
  rw [readHex?] at h
  split at h
  · rename_i inside hinside
    split at h
    · rename_i digits brace more hdigits
      obtain ⟨a, ha, h⟩ := Option.bind_eq_some_iff.mp h
      obtain ⟨rfl, rfl⟩ := Prod.mk.inj (Option.some.inj h)
      simp only [readHex?, Flags.skip_append_of_cons hinside,
        Flags.run_skip_append_of_cons hdigits, ha, Flags.skip_append hrest]
      rfl
    · exact absurd h nofun
  · rename_i hbrace
    obtain ⟨⟨digits, mid⟩, hdigits, h⟩ := Option.bind_eq_some_iff.mp h
    obtain ⟨a, ha, h⟩ := Option.bind_eq_some_iff.mp h
    split at h
    · exact absurd h nofun
    · rename_i hbig
      obtain ⟨rfl, rfl⟩ := Prod.mk.inj (Option.some.inj h)
      have hskip := Flags.skip_append (leaves_of_readHexDigits? hdigits hrest) ['$']
      rw [readHex?, hskip]
      split
      · rename_i inside hinside
        obtain ⟨inside', h', -⟩ := exists_of_concat_eq_cons hinside (by decide)
        exact absurd h' (hbrace inside')
      · rw [readHexDigits?_append hdigits hrest]
        exact Option.bind_eq_some_iff.mpr
          ⟨_, rfl, Option.bind_eq_some_iff.mpr ⟨a, ha, if_neg hbig⟩⟩

/-! ## Escapes -/

theorem readProperty?_append {negated : Bool} {s : CharSet}
    (h : readProperty? f negated t = some (s, rest)) (hrest : f.Leaves rest) :
    readProperty? f negated (t ++ ['$']) = some (s, rest ++ ['$']) := by
  rw [readProperty?] at h
  split at h
  · rename_i inside hinside
    split at h
    · rename_i name brace more hname
      obtain ⟨a, ha, h⟩ := Option.bind_eq_some_iff.mp h
      obtain ⟨hunicode, h⟩ := Option.ite_none_right_eq_some.mp h
      obtain ⟨rfl, rfl⟩ := Prod.mk.inj (Option.some.inj h)
      simp only [readProperty?, Flags.skip_append_of_cons hinside,
        Flags.run_skip_append_of_cons hname, ha]
      exact if_pos hunicode
    · exact absurd h nofun
  · exact absurd h nofun
  · rename_i c cs hbrace hslash hcs
    obtain ⟨a, ha, h⟩ := Option.bind_eq_some_iff.mp h
    obtain ⟨hunicode, h⟩ := Option.ite_none_right_eq_some.mp h
    obtain ⟨rfl, rfl⟩ := Prod.mk.inj (Option.some.inj h)
    simp only [readProperty?, Flags.skip_append_of_cons hcs, ha, Flags.skip_append hrest]
    exact if_pos hunicode
  · exact absurd h nofun

/-- What a reader stands for does not matter for what it leaves. -/
theorem map_append {α β : Type} {read : Text → Option (α × Text)} {g : α → β} {y : β}
    (hread : ∀ x, read cs = some (x, rest) → read (cs ++ ['$']) = some (x, rest ++ ['$']))
    (h : (read cs).map (fun x ↦ (g x.1, x.2)) = some (y, rest)) :
    (read (cs ++ ['$'])).map (fun x ↦ (g x.1, x.2)) = some (y, rest ++ ['$']) := by
  obtain ⟨⟨x, mid⟩, hx, h⟩ := Option.map_eq_some_iff.mp h
  obtain ⟨rfl, rfl⟩ := Prod.mk.inj h
  rw [hread x hx]
  rfl

theorem some_append {α : Type} {x y : α} (h : some (x, cs) = some (y, rest)) :
    some (x, cs ++ ['$']) = some (y, rest ++ ['$']) := by
  obtain ⟨rfl, rfl⟩ := Prod.mk.inj (Option.some.inj h)
  rfl

theorem some_append₂ {α β : Type} {x x' : α} {y y' : β}
    (h : some (x, y, cs) = some (x', y', rest)) :
    some (x, y, cs ++ ['$']) = some (x', y', rest ++ ['$']) := by
  simp only [Option.some.injEq, Prod.mk.injEq] at h
  obtain ⟨rfl, rfl, rfl⟩ := h
  rfl

theorem bind_append {α : Type} {o : Option α} {y : α}
    (h : (o.bind fun x ↦ some (x, cs)) = some (y, rest)) :
    (o.bind fun x ↦ some (x, cs ++ ['$'])) = some (y, rest ++ ['$']) := by
  obtain ⟨x, rfl, h⟩ := Option.bind_eq_some_iff.mp h
  exact some_append h

theorem readBoundary?_append {l : Look} (h : readBoundary? f t = some (l, rest)) :
    readBoundary? f (t ++ ['$']) = some (l, rest ++ ['$']) := by
  rw [readBoundary?.eq_def] at h
  split at h
  · split at h
    · exact absurd h nofun
    · rename_i c more hmore
      simp only [List.cons_append, readBoundary?, Flags.skip_append_of_cons hmore]
      split at h
      · rename_i hname
        rw [if_pos hname]
        exact some_append h
      · rename_i hname
        rw [if_neg hname]
        split at h
        · rename_i name more' hrun
          have hrun' := Flags.run_append_of_cons hrun
          rw [List.cons_append] at hrun'
          simp only [hrun']
          split_ifs at h ⊢
          iterate 4 exact some_append h
        · exact absurd h nofun
  · rename_i hbrace
    rw [readBoundary?.eq_def]
    split
    · rename_i heq
      obtain ⟨cs', heq', -⟩ := exists_of_concat_eq_cons heq (by decide)
      exact absurd heq' (hbrace cs')
    · exact some_append h

theorem readEscape?_append {p : Piece} (h : readEscape? f t = some (p, rest))
    (hrest : f.Leaves rest) : readEscape? f (t ++ ['$']) = some (p, rest ++ ['$']) := by
  rcases t with _ | ⟨c, cs⟩
  · exact absurd h nofun
  · rw [readEscape?.eq_def, List.cons_append]
    rw [readEscape?.eq_def] at h
    dsimp only at h ⊢
    split at h
    iterate 3 exact map_append (fun d hd ↦ readHex?_append hd hrest) h
    iterate 2 exact map_append (fun d hd ↦ readProperty?_append hd hrest) h
    · exact map_append (fun d hd ↦ readBoundary?_append hd) h
    iterate 11 exact some_append h
    · split at h
      · rename_i hletter
        rw [if_pos hletter]
        obtain ⟨s, hs, h⟩ := Option.map_eq_some_iff.mp h
        rw [hs]
        exact some_append (congrArg some h)
      · rename_i hletter
        rw [if_neg hletter]
        obtain ⟨hascii, h⟩ := Option.ite_none_right_eq_some.mp h
        rw [if_pos hascii]
        exact some_append h

/-! ## Bracketed classes -/

@[simp] theorem readHyphens_nil (f : Flags) (fuel : Nat) (l : ClassLevel) :
    readHyphens f fuel l [] = (l, []) := by
  rcases fuel with _ | _ <;> rfl

theorem readHyphens_of_ne (hc : c ≠ '-') (f : Flags) (fuel : Nat) (l : ClassLevel) (cs : Text) :
    readHyphens f fuel l (c :: cs) = (l, c :: cs) := by
  rw [readHyphens.eq_def]
  split
  · rename_i heq
    exact absurd (List.cons.inj heq).1 hc
  · rfl

theorem readHyphens_append {fuel more : Nat} {l : ClassLevel} (hfuel : t.length ≤ fuel)
    (hmore : t.length ≤ more) (hrest : (readHyphens f fuel l t).2 ≠ []) :
    readHyphens f more l (t ++ ['$']) =
      ((readHyphens f fuel l t).1, (readHyphens f fuel l t).2 ++ ['$']) := by
  induction fuel generalizing l t more with
  | zero =>
    obtain rfl := List.length_eq_zero_iff.mp (Nat.le_zero.mp hfuel)
    exact absurd rfl hrest
  | succ fuel ih =>
    rcases t with _ | ⟨c, t⟩
    · exact absurd rfl hrest
    · by_cases hc : c = '-'
      · subst hc
        obtain ⟨more, rfl⟩ := Nat.exists_eq_succ_of_ne_zero (Nat.ne_zero_of_lt hmore)
        have hskip : f.skip t ≠ [] := by
          intro hnil
          rw [readHyphens, hnil, readHyphens_nil] at hrest
          exact hrest rfl
        have hlen := f.length_skip_le t
        rw [List.cons_append, readHyphens, readHyphens, Flags.skip_append fun _ ↦ hskip]
        exact ih (Nat.le_trans hlen (Nat.le_of_succ_le_succ hfuel))
          (Nat.le_trans hlen (Nat.le_of_succ_le_succ hmore)) hrest
      · rw [List.cons_append, readHyphens_of_ne hc, readHyphens_of_ne hc, List.cons_append]

/-- Whether a class is the complement of what its brackets hold, and what they hold. -/
private def readNegation (f : Flags) (t : Text) : Bool × Text :=
  match f.skip t with
  | '^' :: rest => (true, f.skip rest)
  | t => (false, t)

private theorem readNegation_append (h : (readNegation f t).2 ≠ []) :
    readNegation f (t ++ ['$']) = ((readNegation f t).1, (readNegation f t).2 ++ ['$']) := by
  rw [readNegation] at h
  rw [readNegation, readNegation]
  split at h
  · rename_i inside hinside
    simp only [Flags.skip_append_of_cons hinside, Flags.skip_append fun _ ↦ h]
  · rename_i hcaret
    rw [Flags.skip_append fun _ ↦ h]
    split
    · rename_i inside hinside
      obtain ⟨inside', h', -⟩ := exists_of_concat_eq_cons hinside (by decide)
      exact absurd h' (hcaret inside')
    · rfl

/-- The class before its first item that is no hyphen. -/
private def readOpening (f : Flags) (t : Text) : ClassLevel × Text :=
  let inside := readNegation f t
  readHyphens f inside.2.length { negated := inside.1 } inside.2

private theorem readOpening_append {l : ClassLevel} (h : readOpening f t = (l, c :: cs)) :
    readOpening f (t ++ ['$']) = (l, c :: cs ++ ['$']) := by
  have hrest : (readOpening f t).2 ≠ [] := by
    rw [h]
    exact List.cons_ne_nil c cs
  have hinside : (readNegation f t).2 ≠ [] := by
    intro hnil
    rw [readOpening, hnil, readHyphens_nil] at hrest
    exact hrest rfl
  rw [readOpening, readNegation_append hinside]
  have hlen : (readNegation f t).2.length ≤ ((readNegation f t).2 ++ ['$']).length := by
    rw [List.length_append]
    exact Nat.le_add_right _ _
  have happend := readHyphens_append (Nat.le_refl _) hlen hrest
  rw [readOpening] at h
  rw [h] at happend
  exact happend

private theorem readClassStart?_eq (f : Flags) (t : Text) :
    readClassStart? f t =
      match readOpening f t with
      | (_, []) => none
      | (l, ']' :: rest) =>
        if l.count ≠ 0 then some (l, ']' :: rest)
        else match f.skip rest with
          | [] => none
          | rest => some (l.push (.one ']'), rest)
      | (l, t) => some (l, t) := rfl

theorem readClassStart?_append {l : ClassLevel} (h : readClassStart? f t = some (l, rest)) :
    readClassStart? f (t ++ ['$']) = some (l, rest ++ ['$']) := by
  rw [readClassStart?_eq] at h ⊢
  split at h
  · exact absurd h nofun
  · rename_i l more heq
    simp only [readOpening_append heq, List.cons_append]
    split at h
    · rename_i hcount
      rw [if_pos hcount]
      exact some_append h
    · rename_i hcount
      rw [if_neg hcount]
      split at h
      · exact absurd h nofun
      · rename_i hne
        rw [Flags.skip_append fun _ hnil ↦ hne hnil]
        split
        · rename_i hnil
          exact absurd hnil (List.append_ne_nil_of_right_ne_nil _ (List.cons_ne_nil _ _))
        · exact some_append h
  · rename_i l' mid hnil hbracket heq
    rcases mid with _ | ⟨c, mid⟩
    · exact (hnil rfl).elim
    · rw [readOpening_append heq]
      split
      · rename_i h'
        exact absurd (Prod.mk.inj h').2 (List.cons_ne_nil _ _)
      · rename_i h'
        obtain ⟨-, h'⟩ := Prod.mk.inj h'
        obtain rfl := (List.cons.inj h').1
        exact (hbracket mid rfl).elim
      · rename_i h'
        obtain ⟨rfl, rfl⟩ := Prod.mk.inj h'
        exact some_append h

theorem after?_append (opening : Text) (h : '$' ∉ opening) (t : Text) :
    Text.after? opening (t ++ ['$']) = (Text.after? opening t).map (· ++ ['$']) := by
  induction opening generalizing t with
  | nil => rfl
  | cons o opening ih =>
    obtain ⟨ho, hopening⟩ := not_or.mp fun hor ↦ h (List.mem_cons.mpr hor)
    rcases t with _ | ⟨c, t⟩
    · exact if_neg fun h ↦ ho h.symm
    · rw [List.cons_append, Text.after?, Text.after?]
      split
      · exact ih hopening t
      · rfl

/-- A class's name up to the closing colon and bracket. -/
private def readNamed? (f : Flags) (negated : Bool) (t : Text) : Option (CharSet × Text) := do
  let name := t.takeWhile (· ≠ ':')
  let rest ← Text.after? ":]" (t.drop name.length)
  some ((ClassLevel.fold f (← CharSet.ofAsciiName? name)).negateIf negated, rest)

private theorem readNamed?_append (f : Flags) (negated : Bool) (t : Text) :
    readNamed? f negated (t ++ ['$']) =
      (readNamed? f negated t).map fun x ↦ (x.1, x.2 ++ ['$']) := by
  obtain ⟨name, back, rfl, hname, hback⟩ := Text.exists_span (· ≠ ':') t
  rcases back with _ | ⟨b, back⟩
  · have hall : ∀ a ∈ name ++ ['$'], decide (a ≠ ':') = true := by
      intro a ha
      rcases List.mem_append.mp ha with ha | ha
      · exact hname a ha
      · exact List.mem_singleton.mp ha ▸ rfl
    rw [List.append_nil, readNamed?, readNamed?, List.takeWhile_eq_self_iff.mpr hname,
      List.takeWhile_eq_self_iff.mpr hall, List.drop_length, List.drop_length]
    rfl
  · rw [List.append_assoc, List.cons_append, readNamed?, readNamed?,
      Text.takeWhile_append_of_head? hname hback,
      Text.takeWhile_append_of_head? (u := b :: (back ++ ['$'])) hname hback,
      List.drop_left, List.drop_left, ← List.cons_append, after?_append _ (by decide)]
    rcases Text.after? ":]" (b :: back) with _ | rest
    · rfl
    · rcases CharSet.ofAsciiName? name with _ | s
      · rfl
      · rfl

private theorem readNamedClass?_eq (f : Flags) (t : Text) :
    readNamedClass? f t = (Text.after? "[:" t).bind fun t ↦
      let inside := match t with
        | '^' :: rest => (true, rest)
        | t => (false, t)
      readNamed? f inside.1 inside.2 := rfl

theorem readNamedClass?_append (f : Flags) (t : Text) :
    readNamedClass? f (t ++ ['$']) = (readNamedClass? f t).map fun x ↦ (x.1, x.2 ++ ['$']) := by
  rw [readNamedClass?_eq, readNamedClass?_eq, after?_append _ (by decide)]
  rcases Text.after? "[:" t with _ | t
  · rfl
  · rw [Option.map_some, Option.bind_some, Option.bind_some]
    split
    · rename_i inside hinside
      obtain ⟨inside', rfl, rfl⟩ := exists_of_concat_eq_cons hinside (by decide)
      exact readNamed?_append f true inside'
    · rename_i hcaret
      split
      · exact absurd rfl (hcaret _)
      · exact readNamed?_append f false t

theorem readClassItem?_append {p : Piece} (h : readClassItem? f t = some (p, rest))
    (hrest : f.Leaves rest) : readClassItem? f (t ++ ['$']) = some (p, rest ++ ['$']) := by
  rw [readClassItem?.eq_def] at h
  rw [readClassItem?.eq_def]
  split at h
  · exact absurd h nofun
  · obtain ⟨hp, hallows⟩ := Option.filter_eq_some_iff.mp h
    exact Option.filter_eq_some_iff.mpr ⟨readEscape?_append hp hrest, hallows⟩
  · rename_i c cs hslash
    obtain ⟨hc, h⟩ := Option.ite_none_right_eq_some.mp h
    rw [List.cons_append]
    simp only [if_pos hc]
    exact some_append h

theorem readClassRange?_append {s : CharSet} (h : readClassRange? f t = some (s, rest))
    (hrest : f.Leaves rest) :
    readClassRange? f (t ++ ['$']) = some (s, rest ++ ['$']) := by
  rw [readClassRange?] at h
  obtain ⟨⟨first, mid⟩, hfirst, h⟩ := Option.bind_eq_some_iff.mp h
  dsimp only at h
  split at h
  · exact absurd h nofun
  · rename_i cs hcs
    have hmid := readClassItem?_append hfirst (Flags.leaves_of_skip (hcs ▸ f.leaves_cons _ _))
    rw [readClassRange?, hmid]
    split at h
    · exact absurd h nofun
    · rename_i next more hmore
      simp only [Option.bind_eq_bind, Option.bind_some, Flags.skip_append_of_cons hcs,
        Flags.skip_append_of_cons hmore]
      split at h
      · rename_i hnext
        rw [if_pos hnext]
        exact bind_append h
      · rename_i hnext
        rw [if_neg hnext]
        obtain ⟨⟨second, mid'⟩, hsecond, h⟩ := Option.bind_eq_some_iff.mp h
        dsimp only at h
        split at h
        · obtain ⟨hle, h⟩ := Option.ite_none_right_eq_some.mp h
          obtain ⟨rfl, rfl⟩ := Prod.mk.inj (Option.some.inj h)
          have hitem := readClassItem?_append hsecond hrest
          rw [List.cons_append] at hitem
          rw [hitem]
          exact if_pos hle
        · exact absurd h nofun
  · rename_i hnil hhyphen
    have hleaves : f.Leaves (f.skip mid) := fun _ ↦ hnil
    have hmid := readClassItem?_append hfirst (Flags.leaves_of_skip hleaves)
    rw [readClassRange?, hmid]
    simp only [Option.bind_eq_bind, Option.bind_some, Flags.skip_append hleaves]
    split
    · rename_i heq
      exact absurd heq (List.append_ne_nil_of_right_ne_nil _ (List.cons_ne_nil _ _))
    · rename_i heq
      obtain ⟨cs, hcs, -⟩ := exists_of_concat_eq_cons heq (by decide)
      exact (hhyphen cs hcs).elim
    · exact bind_append h

theorem leaves_of_readClassBody? {fuel : Nat} {l : ClassLevel} {outer : List ClassLevel}
    {x : CharSet × Nat × Text} (h : readClassBody? f fuel l outer t = some x) : f.Leaves t := by
  rintro - rfl
  rcases fuel with _ | fuel
  · exact absurd h nofun
  · rw [readClassBody?, f.skip_nil] at h
    exact absurd h nofun

theorem readClassBody?_append {fuel more : Nat} {l : ClassLevel} {outer : List ClassLevel}
    {s : CharSet} {depth : Nat} (hmore : fuel ≤ more)
    (h : readClassBody? f fuel l outer t = some (s, depth, rest)) :
    readClassBody? f more l outer (t ++ ['$']) = some (s, depth, rest ++ ['$']) := by
  induction fuel generalizing more l outer t with
  | zero => exact absurd h nofun
  | succ fuel ih =>
    obtain ⟨more, rfl⟩ := Nat.exists_eq_succ_of_ne_zero (Nat.ne_zero_of_lt hmore)
    have hle := Nat.le_of_succ_le_succ hmore
    rw [readClassBody?] at h ⊢
    split at h
    · exact absurd h nofun
    · rename_i cs hcs
      have hnamed := readNamedClass?_append f ('[' :: cs)
      rw [List.cons_append] at hnamed
      simp only [Flags.skip_append_of_cons hcs, hnamed, after?_append ":^" (by decide)]
      split at h
      · rename_i s' rest' hs'
        obtain ⟨hnegated, h⟩ := Option.ite_none_right_eq_some.mp h
        simp only [hs', Option.map_some, Option.isNone_map, if_pos hnegated]
        exact ih hle h
      · rename_i hnone
        obtain ⟨⟨inner, mid⟩, hinner, h⟩ := Option.bind_eq_some_iff.mp h
        simp only [hnone, Option.map_none, readClassStart?_append hinner]
        exact ih hle h
    · rename_i cs hcs
      obtain ⟨⟨s', depth'⟩, hclose, h⟩ := Option.bind_eq_some_iff.mp h
      simp only [Flags.skip_append_of_cons hcs, hclose]
      dsimp only at h
      split at h
      · exact some_append₂ h
      · exact ih hle h
    iterate 3
      · rename_i cs hcs
        simp only [Flags.skip_append_of_cons hcs, List.cons_append]
        exact ih hle h
    · rename_i hnil hopen hclose hinter hdiff hsymm
      obtain ⟨⟨s', mid⟩, hs', h⟩ := Option.bind_eq_some_iff.mp h
      dsimp only at h
      have hleaves : f.Leaves (f.skip t) := fun _ ↦ hnil
      have hrange := readClassRange?_append hs' (leaves_of_readClassBody? h)
      rw [Flags.skip_append hleaves]
      split
      · rename_i heq
        exact absurd heq (List.append_ne_nil_of_right_ne_nil _ (List.cons_ne_nil _ _))
      · rename_i heq
        obtain ⟨cs, hcs, -⟩ := exists_of_concat_eq_cons heq (by decide)
        exact (hopen cs hcs).elim
      · rename_i heq
        obtain ⟨cs, hcs, -⟩ := exists_of_concat_eq_cons heq (by decide)
        exact (hclose cs hcs).elim
      · rename_i heq
        obtain ⟨cs, hcs, -⟩ := exists_of_concat_eq_cons_cons heq (by decide) (by decide)
        exact (hinter cs hcs).elim
      · rename_i heq
        obtain ⟨cs, hcs, -⟩ := exists_of_concat_eq_cons_cons heq (by decide) (by decide)
        exact (hdiff cs hcs).elim
      · rename_i heq
        obtain ⟨cs, hcs, -⟩ := exists_of_concat_eq_cons_cons heq (by decide) (by decide)
        exact (hsymm cs hcs).elim
      · rw [hrange]
        exact ih hle h

theorem readClass?_append {s : CharSet} {depth : Nat} (h : readClass? f t = some (s, depth, rest)) :
    readClass? f (t ++ ['$']) = some (s, depth, rest ++ ['$']) := by
  rw [readClass?] at h ⊢
  obtain ⟨⟨l, mid⟩, hstart, h⟩ := Option.bind_eq_some_iff.mp h
  rw [readClassStart?_append hstart]
  refine readClassBody?_append ?_ h
  rw [List.length_append]
  omega

/-! ## Repetitions and groups -/

theorem Flags.read?_append {g : Flags} {seen : List Char} {minus dangling any : Bool}
    (h : f.read? seen minus dangling t = some (g, any, c, rest)) :
    f.read? seen minus dangling (t ++ ['$']) = some (g, any, c, rest ++ ['$']) := by
  induction t generalizing f seen minus dangling with
  | nil => exact absurd h nofun
  | cons b t ih =>
    rw [List.cons_append, read?]
    rw [read?] at h
    split_ifs at h ⊢
    · simp only [Option.some.injEq, Prod.mk.injEq] at h
      obtain ⟨rfl, rfl, rfl, rfl⟩ := h
      rfl
    · exact ih h
    · obtain ⟨f', hf', h⟩ := Option.bind_eq_some_iff.mp h
      exact Option.bind_eq_some_iff.mpr ⟨f', hf', ih h⟩

namespace Reader

variable {r r' : Reader}

theorem flags_of_repeat? {least : Nat} {most : Option Nat} {greedy : Bool}
    (h : r.repeat? least most greedy = some r') : r'.flags = r.flags := by
  rw [repeat?] at h
  split at h
  · obtain ⟨-, h⟩ := Option.ite_none_right_eq_some.mp h
    rw [← Option.some.inj h]
  · exact absurd h nofun

theorem readGreed_append (t : Text) :
    readGreed (t ++ ['$']) = ((readGreed t).1, (readGreed t).2 ++ ['$']) := by
  rw [readGreed.eq_def, readGreed.eq_def]
  split
  · rename_i heq
    obtain ⟨cs, rfl, rfl⟩ := exists_of_concat_eq_cons heq (by decide)
    rfl
  · rename_i hmark
    split
    · exact (hmark _ rfl).elim
    · rfl

theorem repeat?_append {least : Nat} {most : Option Nat}
    (h : (let (greedy, rest) := readGreed cs; (r.repeat? least most greedy).map (·, rest)) =
      some (r', rest)) :
    (let (greedy, rest) := readGreed (cs ++ ['$']); (r.repeat? least most greedy).map (·, rest)) =
      some (r', rest ++ ['$']) := by
  dsimp only at h ⊢
  obtain ⟨r₁, hr₁, h⟩ := Option.map_eq_some_iff.mp h
  obtain ⟨rfl, rfl⟩ := Prod.mk.inj h
  rw [readGreed_append, hr₁]
  rfl

theorem readBounds?_append {least : Nat} {most : Option Nat}
    (h : readBounds? f t = some (least, most, rest)) :
    readBounds? f (t ++ ['$']) = some (least, most, rest ++ ['$']) := by
  rw [readBounds?] at h
  split at h
  · exact absurd h nofun
  · rename_i hnil
    obtain ⟨⟨n, mid⟩, hn, h⟩ := Option.bind_eq_some_iff.mp h
    rw [readBounds?, Flags.skip_append fun _ h ↦ hnil h]
    dsimp only at h
    split
    · rename_i heq
      exact absurd heq (List.append_ne_nil_of_right_ne_nil _ (List.cons_ne_nil _ _))
    · split at h
      · rename_i more
        rw [readCount?_append hn (f.leaves_cons _ _)]
        split at h
        · rename_i more' hmore
          simp only [Option.bind_eq_bind, Option.bind_some, List.cons_append,
            Flags.skip_append_of_cons hmore]
          exact some_append₂ h
        · rename_i hclose
          obtain ⟨⟨m, mid⟩, hm, h⟩ := Option.bind_eq_some_iff.mp h
          dsimp only at h
          split at h
          · obtain ⟨hle, h⟩ := Option.ite_none_right_eq_some.mp h
            have hleaves : f.Leaves (f.skip more) := leaves_of_readCount? hm
            simp only [Option.bind_eq_bind, Option.bind_some, List.cons_append,
              Flags.skip_append hleaves]
            split
            · rename_i heq
              obtain ⟨more', heq, -⟩ := exists_of_concat_eq_cons heq (by decide)
              exact (hclose more' heq).elim
            · rw [readCount?_append hm (f.leaves_cons _ _)]
              exact (if_pos hle).trans (some_append₂ h)
          · exact absurd h nofun
      · rw [readCount?_append hn (f.leaves_cons _ _)]
        exact some_append₂ h
      · exact absurd h nofun

theorem readName?_append {name : Text} (h : readName? t = some (name, rest)) :
    readName? (t ++ ['$']) = some (name, rest ++ ['$']) := by
  obtain ⟨front, back, rfl, hfront, hback⟩ := Text.exists_span (· ≠ '>') t
  have hspan : ∀ u : Text, (∀ a ∈ u.head?, decide (a ≠ '>') = false) →
      (front ++ u).takeWhile (· ≠ '>') = front ∧ (front ++ u).dropWhile (· ≠ '>') = u := by
    intro u hu
    refine ⟨Text.takeWhile_append_of_head? hfront hu, ?_⟩
    rw [List.dropWhile_append_of_pos hfront]
    rcases u with _ | ⟨a, u⟩
    · rfl
    · rw [List.dropWhile_cons, if_neg (by rw [hu a rfl]; exact Bool.false_ne_true)]
  rcases back with _ | ⟨b, back⟩
  · rw [readName?, (hspan [] hback).2] at h
    split at h
    · rename_i heq
      exact absurd heq nofun
    · exact absurd h nofun
  · obtain ⟨htake, hdrop⟩ := hspan (b :: (back ++ ['$'])) hback
    rw [List.append_assoc, List.cons_append, readName?, htake, hdrop]
    rw [readName?, (hspan _ hback).1, (hspan _ hback).2] at h
    rcases front with _ | ⟨c, cs⟩
    · exact absurd h nofun
    · obtain ⟨hchars, h⟩ := Option.ite_none_right_eq_some.mp h
      exact (if_pos hchars).trans (some_append h)

theorem readNamedGroup?_append (h : r.readNamedGroup? t = some (r', rest)) :
    r.readNamedGroup? (t ++ ['$']) = some (r', rest ++ ['$']) := by
  rw [readNamedGroup?] at h ⊢
  obtain ⟨⟨name, mid⟩, hname, h⟩ := Option.bind_eq_some_iff.mp h
  rw [readName?_append hname]
  dsimp only at h
  split at h
  · exact absurd h nofun
  · rename_i hnew
    exact (if_neg hnew).trans (some_append h)

theorem readGroup?_append (h : r.readGroup? t = some (r', rest)) (hrest : r'.flags.Leaves rest) :
    r.readGroup? (t ++ ['$']) = some (r', rest ++ ['$']) := by
  rw [readGroup?] at h
  split at h
  · rename_i more hmore
    simp only [readGroup?, Flags.skip_append_of_cons hmore, List.cons_append]
    exact readNamedGroup?_append h
  · rename_i more hmore
    simp only [readGroup?, Flags.skip_append_of_cons hmore, List.cons_append]
    obtain ⟨hlook, h⟩ := Option.ite_none_left_eq_some.mp h
    rcases more with _ | ⟨b, more⟩
    · exact absurd h nofun
    · exact (if_neg hlook).trans (readNamedGroup?_append h)
  · rename_i more hnamed hangle hmore
    obtain ⟨⟨inside, any, closing, mid⟩, hflags, h⟩ := Option.bind_eq_some_iff.mp h
    rw [readGroup?, Flags.skip_append_of_cons hmore]
    split
    · rename_i heq
      obtain ⟨-, heq⟩ := List.cons.inj heq
      obtain ⟨more', rfl, -⟩ := exists_of_concat_eq_cons_cons heq (by decide) (by decide)
      exact (hnamed more' rfl).elim
    · rename_i heq
      obtain ⟨-, heq⟩ := List.cons.inj heq
      obtain ⟨more', rfl, -⟩ := exists_of_concat_eq_cons heq (by decide)
      exact (hangle more' rfl).elim
    · rename_i heq
      obtain ⟨-, rfl⟩ := List.cons.inj heq
      rw [Flags.read?_append hflags]
      dsimp only at h
      split at h
      · rename_i hclosing
        exact (if_pos hclosing).trans (some_append h)
      · rename_i hclosing
        obtain ⟨hany, h⟩ := Option.ite_none_right_eq_some.mp h
        exact (if_neg hclosing).trans ((if_pos hany).trans (some_append h))
    · rename_i hmark
      exact (hmark _ rfl).elim
  · rename_i hnamed hangle hmark
    obtain ⟨rfl, rfl⟩ := Prod.mk.inj (Option.some.inj h)
    have hleaves : r.flags.Leaves (r.flags.skip t) := hrest
    rw [readGroup?, Flags.skip_append hleaves]
    split
    iterate 3
      · rename_i heq
        obtain ⟨cs, heq, -⟩ := exists_of_concat_eq_cons heq (by decide)
        exact (hmark cs heq).elim
    · rfl

/-! ## The whole -/

theorem step?_append (h : r.step? c cs = some (r', rest)) (hrest : r'.flags.Leaves rest) :
    r.step? c (cs ++ ['$']) = some (r', rest ++ ['$']) := by
  rw [step?.eq_def] at h ⊢
  split at h
  · exact readGroup?_append h hrest
  · obtain ⟨r₁, hr₁, h⟩ := Option.map_eq_some_iff.mp h
    rw [hr₁]
    exact some_append (congrArg some h)
  · exact some_append h
  · obtain ⟨⟨s, depth, mid⟩, hs, h⟩ := Option.map_eq_some_iff.mp h
    rw [readClass?_append hs]
    exact some_append (congrArg some h)
  iterate 3 exact repeat?_append h
  · obtain ⟨⟨least, most, mid⟩, hbounds, h⟩ := Option.bind_eq_some_iff.mp h
    dsimp only at h
    have hskip : r.flags.Leaves (r.flags.skip mid) := by
      obtain ⟨r₁, hr₁, hpair⟩ := Option.map_eq_some_iff.mp h
      obtain ⟨rfl, rfl⟩ := Prod.mk.inj hpair
      intro hverbose hnil
      rw [flags_of_repeat? hr₁, hnil] at hrest
      exact hrest hverbose rfl
    rw [readBounds?_append hbounds]
    have hrepeat := repeat?_append h
    rw [← Flags.skip_append hskip] at hrepeat
    exact hrepeat
  · obtain ⟨⟨p, mid⟩, hp, h⟩ := Option.map_eq_some_iff.mp h
    obtain ⟨rfl, rfl⟩ := Prod.mk.inj h
    rw [readEscape?_append hp hrest]
    rfl
  · obtain ⟨p, hp, h⟩ := Option.map_eq_some_iff.mp h
    rw [hp]
    exact some_append (congrArg some h)
  iterate 3 exact some_append h

@[simp] theorem readAll?_nil (fuel : Nat) (r : Reader) : readAll? fuel r [] = some r := by
  rw [readAll?, r.flags.skip_nil]

theorem readAll?_dollar (hverbose : r.flags.verbose = false) (h : r.flags.skip t = [])
    (fuel : Nat) :
    readAll? (fuel + 1) r (t ++ ['$']) = some (r.push (.look (endLook r.flags))) := by
  have hskip : ∀ u, r.flags.skip u = u := by
    intro u
    refine if_neg ?_
    rw [hverbose]
    exact Bool.false_ne_true
  rw [hskip] at h
  rw [h, List.nil_append, readAll?, hskip]
  exact readAll?_nil fuel _

/-- A pattern's text that is read to its end without verbose mode being on is read with a dollar
sign behind it, and the sign is an item of its own. -/
theorem readAll?_append {fuel : Nat} (h : readAll? fuel r t = some r')
    (hverbose : r'.flags.verbose = false) :
    readAll? (fuel + 1) r (t ++ ['$']) = some (r'.push (.look (endLook r'.flags))) := by
  induction fuel generalizing r t with
  | zero =>
    rw [readAll?] at h
    split at h
    · rename_i hnil
      obtain rfl := Option.some.inj h
      exact readAll?_dollar hverbose hnil 0
    · exact absurd h nofun
  | succ fuel ih =>
    rw [readAll?] at h
    split at h
    · rename_i hnil
      obtain rfl := Option.some.inj h
      exact readAll?_dollar hverbose hnil (fuel + 1)
    · rename_i c cs hcs
      obtain ⟨⟨r₁, mid⟩, hstep, h⟩ := Option.bind_eq_some_iff.mp h
      have hmid : r₁.flags.Leaves mid := by
        rintro htrue rfl
        dsimp only at h
        rw [readAll?_nil, Option.some.injEq] at h
        rw [← h, htrue] at hverbose
        exact Bool.false_ne_true hverbose.symm
      rw [readAll?, Flags.skip_append_of_cons hcs]
      exact Option.bind_eq_some_iff.mpr ⟨(r₁, mid ++ ['$']), step?_append hstep hmid, ih h⟩

end Reader
end PacketFilter.Regex
