import PacketFilter.Text.Blank
import PacketFilter.Text.Lines
import Mathlib.Data.List.DropRight
import Mathlib.Data.List.Induction

/-!
# Pieces of texts

Texts are cut at separators and put together again in three ways: into words, into lines and, by
the readers of notations, at single characters. All three are the one function `splitBy`, which is
the library's `List.splitOnP`; what is added here is how cutting and joining undo each other.

## Words

A word is a nonempty text without blanks. Squeezing a text keeps its words and forgets the rest.
That is what makes commands comparable: the blanks around an option that is left out do not matter.
-/

namespace PacketFilter.Text

/-! ## Runs -/

theorem exists_span (p : Char → Bool) (t : Text) :
    ∃ w u, t = w ++ u ∧ (∀ a ∈ w, p a = true) ∧ ∀ a ∈ u.head?, p a = false := by
  refine ⟨t.takeWhile p, t.dropWhile p, List.takeWhile_append_dropWhile.symm,
    fun a ha ↦ List.all_eq_true.mp List.all_takeWhile a ha, ?_⟩
  intro a ha
  have hstop := List.head?_dropWhile_not p t
  rw [Option.mem_def.mp ha] at hstop
  exact hstop

theorem takeWhile_of_head? {p : Char → Bool} {u : Text} (hu : ∀ a ∈ u.head?, p a = false) :
    u.takeWhile p = [] := by
  cases u with
  | nil => rfl
  | cons a u => rw [List.takeWhile_cons, hu a rfl, if_neg Bool.false_ne_true]

/-- Nothing that starts with another character, or not at all, goes on with a run. -/
theorem takeWhile_append_left {p : Char → Bool} (w : Text) {u : Text}
    (hu : ∀ a ∈ u.head?, p a = false) : (w ++ u).takeWhile p = w.takeWhile p := by
  rw [List.takeWhile_append, takeWhile_of_head? hu, List.append_nil]
  split
  · rename_i hall
    exact ((List.takeWhile_prefix p).eq_of_length hall).symm
  · rfl

theorem takeWhile_append_of_head? {p : Char → Bool} {w u : Text} (hw : ∀ a ∈ w, p a = true)
    (hu : ∀ a ∈ u.head?, p a = false) : (w ++ u).takeWhile p = w := by
  rw [takeWhile_append_left w hu, List.takeWhile_eq_self_iff.mpr hw]

/-! ## Cutting -/

theorem splitBy_eq_splitOnP (p : Char → Bool) (t : Text) : splitBy p t = t.splitOnP p := by
  induction t with
  | nil => rw [splitBy, List.splitOnP_nil]
  | cons c t ih =>
    rw [splitBy, List.splitOnP_cons_eq_if_modifyHead, ih]
    cases hp : p c with
    | true => rfl
    | false =>
      obtain ⟨piece, rest, h⟩ := List.exists_cons_of_ne_nil (List.splitOnP_ne_nil p t)
      rw [h]
      rfl

theorem exists_splitBy_eq_cons (p : Char → Bool) (t : Text) :
    ∃ first rest, splitBy p t = first :: rest := by
  rw [splitBy_eq_splitOnP]
  exact List.exists_cons_of_ne_nil (List.splitOnP_ne_nil p t)

theorem eq_of_splitBy {d : Char} {t first : Text} {rest : List Text}
    (h : splitBy (· = d) t = first :: rest) : first ++ rest.flatMap (d :: ·) = t := by
  induction t generalizing first rest with
  | nil =>
    cases h
    rfl
  | cons c t ih =>
    obtain ⟨piece, pieces, hpieces⟩ := exists_splitBy_eq_cons (· = d) t
    rw [splitBy, hpieces] at h
    by_cases hc : c = d
    · rw [if_pos (decide_eq_true hc)] at h
      cases h
      rw [List.nil_append, List.flatMap_cons, List.cons_append, ih hpieces, hc]
    · rw [if_neg (by simpa using hc)] at h
      cases h
      rw [List.cons_append, ih hpieces]

theorem splitBy_append_cons {p : Char → Bool} {c : Char} (hc : p c = true) (a b : Text) :
    splitBy p (a ++ c :: b) = splitBy p a ++ splitBy p b := by
  simp only [splitBy_eq_splitOnP]
  exact List.splitOnP_append_cons a b hc

theorem splitBy_eq_singleton {p : Char → Bool} {t : Text} (h : ∀ c ∈ t, p c = false) :
    splitBy p t = [t] := by
  rw [splitBy_eq_splitOnP]
  exact List.splitOnP_eq_singleton h

/-- No piece has a separator in it, and every character of a piece comes from the text. -/
theorem mem_splitBy {p : Char → Bool} {t piece : Text} (h : piece ∈ splitBy p t) :
    ∀ c ∈ piece, p c = false ∧ c ∈ t := by
  induction t generalizing piece with
  | nil =>
    rw [splitBy, List.mem_singleton] at h
    intro c hc
    rw [h] at hc
    exact absurd hc List.not_mem_nil
  | cons a t ih =>
    rw [splitBy_eq_splitOnP, List.splitOnP_cons_eq_if_modifyHead, ← splitBy_eq_splitOnP] at h
    cases ha : p a with
    | true =>
      rw [if_pos ha] at h
      rcases List.mem_cons.mp h with rfl | h
      · exact fun c hc ↦ absurd hc List.not_mem_nil
      · exact fun c hc ↦ (ih h c hc).imp_right (List.mem_cons_of_mem _)
    | false =>
      rw [if_neg (by simp [ha])] at h
      cases hs : splitBy p t with
      | nil =>
        rw [hs] at h
        exact absurd h List.not_mem_nil
      | cons first rest =>
        rw [hs] at ih h
        intro c hc
        rcases List.mem_cons.mp h with rfl | h
        · rcases List.mem_cons.mp hc with rfl | hc
          · exact ⟨ha, List.mem_cons_self⟩
          · exact (ih List.mem_cons_self c hc).imp_right (List.mem_cons_of_mem _)
        · exact (ih (List.mem_cons_of_mem _ h) c hc).imp_right (List.mem_cons_of_mem _)

/-! ## Beginnings and ends -/

theorem eq_append_of_cut? {sep : Char} {t front back : Text} (h : cut? sep t = some (front, back)) :
    t = front ++ sep :: back := by
  induction t generalizing front with
  | nil => cases h
  | cons c t ih =>
    rw [cut?] at h
    by_cases hc : c = sep
    · rw [if_pos hc] at h
      cases h
      rw [hc]
      rfl
    · rw [if_neg hc, Option.map_eq_some_iff] at h
      obtain ⟨⟨front', back'⟩, hcut, heq⟩ := h
      cases heq
      rw [ih hcut]
      rfl

/-- What holds no separator is part of what stands before the first one. -/
theorem cut?_append {sep : Char} {front : Text} (h : sep ∉ front) (t : Text) :
    cut? sep (front ++ t) = (cut? sep t).map fun x ↦ (front ++ x.1, x.2) := by
  induction front with
  | nil => exact Option.map_id'.symm
  | cons c front ih =>
    rw [List.mem_cons, not_or] at h
    rw [List.cons_append, cut?, if_neg (Ne.symm h.1), ih h.2, Option.map_map]
    rfl

theorem cut?_append_cons {sep : Char} {front : Text} (h : sep ∉ front) (back : Text) :
    cut? sep (front ++ sep :: back) = some (front, back) := by
  rw [cut?_append h, cut?, if_pos rfl, Option.map_some, List.append_nil]

@[simp] theorem cut?_eq_none_iff {sep : Char} {t : Text} : cut? sep t = none ↔ sep ∉ t := by
  constructor
  · intro h hmem
    obtain ⟨front, back, rfl, hfront⟩ := List.eq_append_cons_of_mem hmem
    rw [cut?_append_cons hfront] at h
    exact absurd h nofun
  · intro h
    have hcut := cut?_append h []
    rwa [List.append_nil] at hcut

@[simp] theorem after?_eq_some_iff {opening t rest : Text} :
    after? opening t = some rest ↔ t = opening ++ rest := by
  induction opening generalizing t with
  | nil => rw [after?, Option.some_inj, List.nil_append]
  | cons o opening ih =>
    cases t with
    | nil => simp [after?]
    | cons c t =>
      rw [after?, List.cons_append, List.cons.injEq]
      by_cases h : o = c
      · rw [if_pos h, ih]
        simp [h]
      · rw [if_neg h]
        simp [Ne.symm h]

@[simp] theorem beforeEnd?_eq_some_iff {ending t front : Text} :
    beforeEnd? ending t = some front ↔ t = front ++ ending := by
  rw [beforeEnd?, Option.map_eq_some_iff]
  constructor
  · rintro ⟨rest, hrest, rfl⟩
    have h := congrArg List.reverse (after?_eq_some_iff.mp hrest)
    rwa [List.reverse_reverse, List.reverse_append, List.reverse_reverse] at h
  · rintro rfl
    refine ⟨front.reverse, ?_, List.reverse_reverse front⟩
    rw [after?_eq_some_iff, List.reverse_append]

/-- What does not hold the first character of a text is left alone when the text is replaced. -/
theorem replaceUpTo_append {o : Char} {old new front : Text} (h : o ∉ front) (t : Text)
    (fuel : Nat) :
    replaceUpTo (o :: old) new (front.length + fuel) (front ++ t) =
      front ++ replaceUpTo (o :: old) new fuel t := by
  induction front with
  | nil => rw [List.length_nil, Nat.zero_add, List.nil_append, List.nil_append]
  | cons c front ih =>
    rw [List.mem_cons, not_or] at h
    have hnone : after? (o :: old) (c :: (front ++ t)) = none := if_neg h.1
    rw [List.length_cons, Nat.succ_add, List.cons_append, replaceUpTo, hnone]
    exact congrArg (c :: ·) (ih h.2)

/-! ## Blanks at the ends -/

theorem trimEnd_concat {c : Char} (hc : isBlank c = true) (t : Text) :
    trimEnd (t ++ [c]) = trimEnd t := List.rdropWhile_concat_pos _ _ _ hc

theorem trim_concat {c : Char} (hc : isBlank c = true) (t : Text) : trim (t ++ [c]) = trim t := by
  rw [trim, trim, trimStart, trimStart, List.dropWhile_append]
  split
  · rename_i hnil
    rw [List.isEmpty_iff.mp hnil, List.dropWhile_cons_of_pos hc, List.dropWhile_nil]
  · exact trimEnd_concat hc _

/-- Trimming leaves nothing of a text exactly if the text is blank, so one end is enough. -/
theorem trim_eq_nil_iff {t : Text} : trim t = [] ↔ trimEnd t = [] := by
  show (t.dropWhile isBlank).rdropWhile isBlank = [] ↔ t.rdropWhile isBlank = []
  rw [List.rdropWhile_eq_nil_iff, ← List.dropWhile_eq_nil_iff, List.dropWhile_idempotent,
    List.dropWhile_eq_nil_iff, List.rdropWhile_eq_nil_iff]

@[simp] theorem trimEnd_trimEnd (t : Text) : trimEnd (trimEnd t) = trimEnd t :=
  List.rdropWhile_idempotent isBlank t

theorem trim_append_of_isBlank {back : Text} (h : ∀ c ∈ back, isBlank c = true) (t : Text) :
    trim (t ++ back) = trim t := by
  induction back using List.reverseRecOn with
  | nil => rw [List.append_nil]
  | append_singleton back c ih =>
    rw [List.forall_mem_append] at h
    rw [← List.append_assoc, trim_concat (h.2 c (List.mem_singleton_self c)), ih h.1]

theorem trim_isBlank_append {front : Text} (h : ∀ c ∈ front, isBlank c = true) (t : Text) :
    trim (front ++ t) = trim t := by
  rw [trim, trimStart, List.dropWhile_append_of_pos h]
  rfl

theorem exists_trimEnd_append (t : Text) :
    ∃ back, t = trimEnd t ++ back ∧ ∀ c ∈ back, isBlank c = true :=
  ⟨t.rtakeWhile isBlank, (List.rdropWhile_append_rtakeWhile ..).symm,
    fun _ hc ↦ List.mem_rtakeWhile_imp hc⟩

theorem not_isBlank_of_getLast?_trimEnd (t : Text) :
    ∀ c ∈ (trimEnd t).getLast?, isBlank c = false := by
  intro c hc
  rw [trimEnd, List.getLast?_reverse] at hc
  have hstop := List.head?_dropWhile_not isBlank t.reverse
  rwa [Option.mem_def.mp hc] at hstop

@[simp] theorem trim_trim (t : Text) : trim (trim t) = trim t := by
  obtain ⟨back, hback, hblank⟩ := exists_trimEnd_append (trimStart t)
  calc trim (trim t) = trim (trim t ++ back) := (trim_append_of_isBlank hblank _).symm
    _ = trim (trimStart t) := congrArg trim hback.symm
    _ = trim t := by rw [trim, trimStart, trimStart, List.dropWhile_idempotent, trim, trimStart]

/-! ## Words -/

/-- A nonempty text without blanks. -/
def Solid (t : Text) : Prop := t ≠ [] ∧ ∀ c ∈ t, isBlank c = false

instance (t : Text) : Decidable (Solid t) :=
  decidable_of_iff (t ≠ [] ∧ t.all (fun c ↦ !isBlank c) = true) (by simp [Solid])

theorem solid_of_mem_words {t w : Text} (h : w ∈ words t) : Solid w := by
  rw [words, List.mem_filter, decide_eq_true_eq] at h
  exact ⟨h.2, fun c hc ↦ (mem_splitBy h.1 c hc).1⟩

theorem mem_of_mem_words {t w : Text} (h : w ∈ words t) {c : Char} (hc : c ∈ w) : c ∈ t := by
  rw [words, List.mem_filter] at h
  exact (mem_splitBy h.1 c hc).2

theorem trim_eq_self_iff {t : Text} :
    trim t = t ↔ (∀ c ∈ t.head?, isBlank c = false) ∧ ∀ c ∈ t.getLast?, isBlank c = false := by
  have hstart : trimStart t = t ↔ ∀ c ∈ t.head?, isBlank c = false := by
    cases t with
    | nil => simp [trimStart]
    | cons c t => simp [trimStart, List.dropWhile_eq_self_iff]
  have hend : trimEnd t = t ↔ ∀ c ∈ t.getLast?, isBlank c = false := by
    show t.rdropWhile isBlank = t ↔ _
    rcases List.eq_nil_or_concat t with rfl | ⟨t, c, rfl⟩
    · simp
    · simp [List.rdropWhile_eq_self_iff]
  rw [← hstart, ← hend]
  constructor
  · intro h
    -- Nothing is lost at the end, and so nothing was lost at the start.
    have hle : t.length ≤ (trimStart t).length :=
      calc t.length = (trim t).length := by rw [h]
        _ ≤ (trimStart t).length := (List.rdropWhile_prefix isBlank _).length_le
    have hsuffix : trimStart t <:+ t := List.dropWhile_suffix isBlank
    have heq : trimStart t = t := hsuffix.eq_of_length (Nat.le_antisymm hsuffix.length_le hle)
    rw [trim, heq] at h
    exact ⟨heq, h⟩
  · rintro ⟨hs, he⟩
    rw [trim, hs, he]

theorem trim_of_forall {t : Text} (h : ∀ c ∈ t, isBlank c = false) : trim t = t :=
  trim_eq_self_iff.mpr
    ⟨fun c hc ↦ h c (List.mem_of_mem_head? hc), fun c hc ↦ h c (List.mem_of_getLast? hc)⟩

theorem trim_of_solid {t : Text} (h : Solid t) : trim t = t := trim_of_forall h.2

theorem words_append_cons {c : Char} (hc : isBlank c = true) (a b : Text) :
    words (a ++ c :: b) = words a ++ words b := by
  rw [words, splitBy_append_cons hc, List.filter_append]
  rfl

theorem words_of_solid {t : Text} (h : Solid t) : words t = [t] := by
  rw [words, splitBy_eq_singleton h.2]
  exact List.filter_cons_of_pos (by simp [h.1])

theorem words_append_of_isBlank {gap : Text} (hgap : ∀ c ∈ gap, isBlank c = true) (t : Text) :
    words (gap ++ t) = words t := by
  induction gap with
  | nil => rfl
  | cons c gap ih =>
    have hcut := words_append_cons (hgap c List.mem_cons_self) [] (gap ++ t)
    rw [List.nil_append] at hcut
    rw [List.cons_append, hcut, ih fun a ha ↦ hgap a (List.mem_cons_of_mem c ha)]
    rfl

/-- A word ends at the next blank. -/
theorem words_append_of_head? {w t : Text} (hw : Solid w) (ht : ∀ c ∈ t.head?, isBlank c = true) :
    words (w ++ t) = w :: words t := by
  cases t with
  | nil => rw [List.append_nil, words_of_solid hw]; rfl
  | cons c t =>
    have hc : isBlank c = true := ht c rfl
    have hgap : ∀ a ∈ [c], isBlank a = true := fun a ha ↦ List.mem_singleton.mp ha ▸ hc
    have hrest : words (c :: t) = words t := words_append_of_isBlank hgap t
    rw [words_append_cons hc, words_of_solid hw, hrest]
    rfl

@[simp] theorem words_joinWith (ts : List Text) : words (joinWith " " ts) = ts.flatMap words := by
  induction ts with
  | nil => rfl
  | cons t rest ih =>
    cases rest with
    | nil => rw [joinWith, List.flatMap_singleton]
    | cons u rest =>
      rw [joinWith, List.append_assoc]
      show words (t ++ ' ' :: joinWith " " (u :: rest)) = _
      rw [words_append_cons rfl, ih]
      exact List.flatMap_cons.symm

@[simp] theorem words_squeeze (t : Text) : words (squeeze t) = words t := by
  have h : ∀ ws : List Text, (∀ w ∈ ws, Solid w) → ws.flatMap words = ws := by
    intro ws hws
    induction ws with
    | nil => rfl
    | cons w ws ih =>
      rw [List.flatMap_cons, words_of_solid (hws w List.mem_cons_self),
        ih fun v hv ↦ hws v (List.mem_cons_of_mem _ hv), List.singleton_append]
  rw [squeeze, words_joinWith]
  exact h _ fun w ↦ solid_of_mem_words

@[simp] theorem words_trimEnd (t : Text) : words (trimEnd t) = words t := by
  induction t using List.reverseRecOn with
  | nil => rfl
  | append_singleton t c ih =>
    cases hc : isBlank c with
    | true =>
      rw [trimEnd_concat hc, ih, words_append_cons hc]
      exact (List.append_nil _).symm
    | false =>
      have hkeep : trimEnd (t ++ [c]) = t ++ [c] :=
        List.rdropWhile_concat_neg _ _ _ (by simp [hc])
      rw [hkeep]

/-- What can be read at each side of a blank can be read word by word. -/
theorem eq_flatMap_words {β : Type} {g : Text → List β} (hnil : g [] = [])
    (hcut : ∀ a c b, isBlank c = true → g (a ++ c :: b) = g a ++ g b) (t : Text) :
    g t = (words t).flatMap g := by
  induction hlength : t.length using Nat.strong_induction_on generalizing t with
  | _ n ih =>
    -- Up to the first blank there is one word, or nothing.
    have hword : ∀ w : Text, (∀ c ∈ w, isBlank c = false) → g w = (words w).flatMap g := by
      intro w hw
      by_cases hne : w = []
      · rw [hne, hnil]
        rfl
      · rw [words_of_solid ⟨hne, hw⟩, List.flatMap_singleton]
    obtain ⟨w, u, rfl, hw, hu⟩ := exists_span (!isBlank ·) t
    have hfirst : ∀ c ∈ w, isBlank c = false := fun c hc ↦ by simpa using hw c hc
    cases u with
    | nil =>
      rw [List.append_nil]
      exact hword w hfirst
    | cons c rest =>
      have hc : isBlank c = true := by simpa using hu c rfl
      have hlt : rest.length < n := by
        rw [List.length_append, List.length_cons] at hlength
        omega
      rw [hcut w c rest hc, words_append_cons hc, List.flatMap_append, ← hword w hfirst,
        ← ih rest.length hlt rest rfl]

/-! ### Words inside a text

What stands in a text is still there, in one piece, once the text is squeezed, as long as its own
blanks are single spaces. It may stand inside a longer word, so the words of the text are not
enough to say so: the pieces at either end have to be followed. -/

/-- Two texts are cut together: the last piece of the first and the first piece of the second become
one. -/
theorem splitBy_append (p : Char → Bool) (s t : Text) :
    ∃ front x y back, splitBy p s = front ++ [x] ∧ splitBy p t = y :: back ∧
      splitBy p (s ++ t) = front ++ (x ++ y) :: back := by
  obtain ⟨y, back, ht⟩ := exists_splitBy_eq_cons p t
  -- Only the front changes as the first text grows on the left.
  induction s with
  | nil => exact ⟨[], [], y, back, rfl, ht, ht⟩
  | cons c s ih =>
    obtain ⟨front, x, y', back', hs, ht', hst⟩ := ih
    rw [List.cons_append, splitBy, splitBy, hs, hst]
    by_cases hc : p c = true
    · rw [if_pos hc, if_pos hc]
      exact ⟨[] :: front, x, y', back', rfl, ht', rfl⟩
    · rw [if_neg hc, if_neg hc]
      cases front with
      | nil => exact ⟨[], c :: x, y', back', rfl, ht', rfl⟩
      | cons piece front => exact ⟨(c :: piece) :: front, x, y', back', rfl, ht', rfl⟩

theorem words_append_solid {w : Text} (hw : Solid w) (s : Text) :
    ∃ front x, words (s ++ w) = front ++ [x ++ w] := by
  obtain ⟨front, x, y, back, -, hy, h⟩ := splitBy_append isBlank s w
  rw [splitBy_eq_singleton hw.2] at hy
  obtain ⟨rfl, rfl⟩ := List.cons.inj hy
  refine ⟨front.filter (· ≠ []), x, ?_⟩
  rw [words, h, List.filter_append, List.filter_singleton]
  simp [hw.1]

private theorem splitBy_solid_append {w : Text} (hw : Solid w) (t : Text) :
    ∃ y back, splitBy isBlank (w ++ t) = (w ++ y) :: back := by
  obtain ⟨front, x, y, back, hx, -, h⟩ := splitBy_append isBlank w t
  rw [splitBy_eq_singleton hw.2] at hx
  cases front with
  | nil =>
    obtain ⟨rfl, -⟩ := List.cons.inj hx
    exact ⟨y, back, h⟩
  | cons piece front => exact absurd (List.cons.inj hx).2 (by simp)

theorem words_solid_append {w : Text} (hw : Solid w) (t : Text) :
    ∃ y back, words (w ++ t) = (w ++ y) :: back := by
  obtain ⟨y, back, h⟩ := splitBy_solid_append hw t
  refine ⟨y, back.filter (· ≠ []), ?_⟩
  rw [words, h, List.filter_cons_of_pos (by simp [hw.1])]

theorem joinWith_append (sep : Text) {ts us : List Text} (ht : ts ≠ []) (hu : us ≠ []) :
    joinWith sep (ts ++ us) = joinWith sep ts ++ sep ++ joinWith sep us := by
  induction ts with
  | nil => exact absurd rfl ht
  | cons t ts ih =>
    cases ts with
    | nil =>
      obtain ⟨u, us, rfl⟩ := List.exists_cons_of_ne_nil hu
      rfl
    | cons t' ts =>
      show t ++ sep ++ joinWith sep (t' :: ts ++ us) = t ++ sep ++ joinWith sep (t' :: ts) ++ _ ++ _
      rw [ih (by simp)]
      simp only [List.append_assoc]

theorem joinWith_cons (sep t : Text) (ts : List Text) :
    joinWith sep (t :: ts) = t ++ ts.flatMap (sep ++ ·) := by
  induction ts generalizing t with
  | nil => exact (List.append_nil t).symm
  | cons u ts ih => rw [joinWith, ih u, List.flatMap_cons, List.append_assoc, List.append_assoc]

theorem splitBy_joinWith {d : Char} {ts : List Text} (hne : ts ≠ []) (h : ∀ t ∈ ts, d ∉ t) :
    splitBy (· = d) (joinWith [d] ts) = ts := by
  have hone : ∀ t ∈ ts, splitBy (· = d) t = [t] := fun t ht ↦
    splitBy_eq_singleton fun c hc ↦ decide_eq_false fun heq ↦ h t ht (heq ▸ hc)
  induction ts with
  | nil => exact absurd rfl hne
  | cons t ts ih =>
    obtain ⟨ht, hts⟩ := List.forall_mem_cons.mp hone
    cases ts with
    | nil => exact ht
    | cons u ts =>
      rw [joinWith, List.append_assoc]
      show splitBy (· = d) (t ++ d :: joinWith [d] (u :: ts)) = _
      rw [splitBy_append_cons (decide_eq_true rfl), ht,
        ih (List.cons_ne_nil u ts) (List.forall_mem_cons.mp h).2 hts]
      rfl

theorem forall_mem_joinWith {P : Char → Prop} {sep : Text} {ts : List Text}
    (hsep : ∀ c ∈ sep, P c) (hts : ∀ t ∈ ts, ∀ c ∈ t, P c) : ∀ c ∈ joinWith sep ts, P c := by
  induction ts with
  | nil => exact fun c hc ↦ absurd hc List.not_mem_nil
  | cons t ts ih =>
    obtain ⟨ht, hts⟩ := List.forall_mem_cons.mp hts
    cases ts with
    | nil => exact ht
    | cons u ts =>
      rw [joinWith, List.forall_mem_append, List.forall_mem_append]
      exact ⟨⟨ht, hsep⟩, ih hts⟩

theorem prefix_joinWith (sep t : Text) (ts : List Text) : t <+: joinWith sep (t :: ts) := by
  cases ts with
  | nil => exact List.prefix_rfl
  | cons u ts =>
    rw [joinWith, List.append_assoc]
    exact List.prefix_append _ _

theorem suffix_joinWith (sep t : Text) (ts : List Text) : t <:+ joinWith sep (ts ++ [t]) := by
  by_cases h : ts = []
  · rw [h]
    exact List.suffix_rfl
  · rw [joinWith_append sep h (by simp)]
    exact List.suffix_append _ _

theorem infix_joinWith (sep : Text) {t : Text} {ts : List Text} (h : t ∈ ts) :
    t <:+: joinWith sep ts := by
  obtain ⟨front, back, rfl⟩ := List.append_of_mem h
  by_cases hf : front = []
  · rw [hf]
    exact (prefix_joinWith sep t back).isInfix
  · rw [joinWith_append sep hf (by simp)]
    exact (prefix_joinWith sep t back).isInfix.trans (List.suffix_append _ _).isInfix

/-- A word stays in one piece. -/
theorem infix_squeeze {w : Text} (hw : Solid w) (s t : Text) :
    w <:+: squeeze (s ++ (w ++ t)) := by
  obtain ⟨y, back, ht⟩ := splitBy_solid_append hw t
  obtain ⟨front, x, y', back', -, hy, h⟩ := splitBy_append isBlank s (w ++ t)
  rw [ht] at hy
  obtain ⟨rfl, rfl⟩ := List.cons.inj hy
  have hmem : x ++ (w ++ y) ∈ words (s ++ (w ++ t)) := by
    rw [words, h, List.mem_filter]
    exact ⟨List.mem_append_right _ List.mem_cons_self, by simp [hw.1]⟩
  have hpiece : w <:+: x ++ (w ++ y) :=
    (List.prefix_append w y).isInfix.trans (List.suffix_append x _).isInfix
  exact hpiece.trans (infix_joinWith " " hmem)

/-- Two words with a space between them stay as they are. -/
theorem pair_infix_squeeze {v w : Text} (hv : Solid v) (hw : Solid w) (s t : Text) :
    v ++ ' ' :: w <:+: squeeze (s ++ ((v ++ ' ' :: w) ++ t)) := by
  obtain ⟨front, x, hx⟩ := words_append_solid hv s
  obtain ⟨y, back, hy⟩ := words_solid_append hw t
  have hwords : words (s ++ ((v ++ ' ' :: w) ++ t)) = (front ++ [x ++ v]) ++ (w ++ y) :: back := by
    rw [← hx, ← hy, ← words_append_cons (show isBlank ' ' = true from rfl)]
    simp only [List.append_assoc, List.cons_append]
  obtain ⟨a, ha⟩ := (List.suffix_append x v).trans (suffix_joinWith " " (x ++ v) front)
  obtain ⟨b, hb⟩ := (List.prefix_append w y).trans (prefix_joinWith " " (w ++ y) back)
  refine ⟨a, b, ?_⟩
  rw [squeeze, hwords, joinWith_append " " (by simp) (by simp), ← ha, ← hb]
  show a ++ (v ++ ' ' :: w) ++ b = a ++ v ++ [' '] ++ (w ++ b)
  simp only [List.append_assoc, List.cons_append, List.nil_append]

/-! ## Lines -/

theorem lineRuns_append_cons {l : Text} (h : '\n' ∉ l) (t : Text) :
    lineRuns (l ++ '\n' :: t) = (l, true) :: lineRuns t := by
  induction l with
  | nil => rw [List.nil_append, lineRuns, if_pos rfl]
  | cons c l ih =>
    rw [List.mem_cons, not_or] at h
    rw [List.cons_append, lineRuns, if_neg (Ne.symm h.1), ih h.2]

theorem dropReturn_spec (t : Text) : dropReturn t = t ∨ t = dropReturn t ++ "\r" := by
  rw [dropReturn]
  cases h : beforeEnd? "\r" t with
  | none => exact Or.inl rfl
  | some front => exact Or.inr (beforeEnd?_eq_some_iff.mp h)

@[simp] theorem trim_dropReturn (t : Text) : trim (dropReturn t) = trim t := by
  rcases dropReturn_spec t with h | h
  · rw [h]
  · conv_rhs => rw [h]
    exact (trim_concat (by decide) _).symm

theorem dropReturn_of_getLast? {t : Text} (h : t.getLast? ≠ some '\r') : dropReturn t = t := by
  refine (dropReturn_spec t).resolve_right fun hreturn ↦ h ?_
  rw [hreturn]
  exact List.getLast?_concat

/-- Without line breaks of either kind. -/
def OneLine (t : Text) : Prop := ∀ c ∈ t, c ≠ '\n' ∧ c ≠ '\r'

instance (t : Text) : Decidable (OneLine t) :=
  decidable_of_iff (t.all (fun c ↦ c ≠ '\n' && c ≠ '\r') = true) (by simp [OneLine])

@[simp] theorem oneLine_append {s t : Text} : OneLine (s ++ t) ↔ OneLine s ∧ OneLine t :=
  List.forall_mem_append

theorem Solid.oneLine {t : Text} (h : Solid t) : OneLine t := by
  intro c hc
  refine ⟨?_, ?_⟩
  · rintro rfl
    exact absurd (h.2 _ hc) (by decide)
  · rintro rfl
    exact absurd (h.2 _ hc) (by decide)

/-- Lines that are written out one by one are read back. -/
theorem lines_flatMap {ls : List Text} (h : ∀ l ∈ ls, OneLine l) :
    lines (ls.flatMap (· ++ "\n")) = ls := by
  have hruns : lineRuns (ls.flatMap (· ++ "\n")) = ls.map fun l ↦ (l, true) := by
    induction ls with
    | nil => rfl
    | cons l ls ih =>
      rw [List.flatMap_cons, List.append_assoc]
      show lineRuns (l ++ '\n' :: ls.flatMap (· ++ "\n")) = _
      rw [lineRuns_append_cons fun hc ↦ (h l List.mem_cons_self _ hc).1 rfl, List.map_cons]
      exact congrArg _ (ih fun m hm ↦ h m (List.mem_cons_of_mem _ hm))
  rw [lines, hruns, List.map_map]
  refine (List.map_congr_left fun l hl ↦ ?_).trans (List.map_id ls)
  exact dropReturn_of_getLast? fun hlast ↦ (h l hl _ (List.mem_of_getLast? hlast)).2 rfl

end PacketFilter.Text
