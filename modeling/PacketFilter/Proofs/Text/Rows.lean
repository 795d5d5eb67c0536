import PacketFilter.Proofs.Text.Numeral
import PacketFilter.Text.Quoted

/-!
# Rows

A script is read row by row: whatever stands between two line feeds is a command or a comment to the
shell, no matter how the text was put together. `rows` is that reading. A text that was written as
one line is one row exactly if it holds no line feed, so the question for everything that is put
into a line is whether it can hold one.
-/

namespace PacketFilter.Text

/-- The pieces of a text between line feeds. -/
def rows (t : Text) : List Text := splitBy (· = '\n') t

theorem rows_eq_singleton {t : Text} (h : '\n' ∉ t) : rows t = [t] :=
  splitBy_eq_singleton fun _ hc ↦ decide_eq_false fun heq ↦ h (heq ▸ hc)

@[simp] theorem rows_append_cons (s t : Text) : rows (s ++ '\n' :: t) = rows s ++ rows t :=
  splitBy_append_cons (decide_eq_true rfl) s t

/-- The rows are the runs between line feeds, and an empty row after a line feed at the end. -/
theorem rows_eq_map_lineRuns (t : Text) :
    rows t = (lineRuns t).map Prod.fst ∨ rows t = (lineRuns t).map Prod.fst ++ [[]] := by
  induction t with
  | nil => exact Or.inr rfl
  | cons c t ih =>
    rw [rows] at ih ⊢
    rw [splitBy, lineRuns]
    by_cases hc : c = '\n'
    · rw [if_pos (decide_eq_true hc), if_pos hc, List.map_cons]
      exact ih.imp (congrArg _) (congrArg _)
    · rw [if_neg (by simpa using hc), if_neg hc]
      cases hr : lineRuns t with
      | nil =>
        rw [hr] at ih
        rcases ih with ih | ih
        · exact absurd ih (by rw [splitBy_eq_splitOnP]; exact List.splitOnP_ne_nil _ t)
        · rw [ih]
          exact Or.inl rfl
      | cons first rest =>
        rw [hr] at ih
        rcases ih with ih | ih
        · rw [ih]
          exact Or.inl rfl
        · rw [ih]
          exact Or.inr rfl

theorem rows_append {s : Text} (h : '\n' ∉ s) (t : Text) :
    ∃ row rest, rows t = row :: rest ∧ rows (s ++ t) = (s ++ row) :: rest := by
  obtain ⟨front, x, row, rest, hs, ht, hst⟩ := splitBy_append (· = '\n') s t
  rw [show splitBy (· = '\n') s = [s] from rows_eq_singleton h] at hs
  cases front with
  | nil =>
    obtain ⟨rfl, -⟩ := List.cons.inj hs
    exact ⟨row, rest, ht, hst⟩
  | cons piece front => exact absurd (List.cons.inj hs).2 (by simp)

theorem rows_joinWith {ls : List Text} (h : ls ≠ []) :
    rows (joinWith "\n" ls ++ "\n") = ls.flatMap rows ++ [[]] := by
  induction ls with
  | nil => exact absurd rfl h
  | cons l ls ih =>
    cases ls with
    | nil =>
      show rows (l ++ '\n' :: []) = _
      rw [rows_append_cons, List.flatMap_singleton]
      rfl
    | cons m ls =>
      rw [joinWith, List.append_assoc, List.append_assoc]
      show rows (l ++ '\n' :: (joinWith "\n" (m :: ls) ++ "\n")) = _
      rw [rows_append_cons, ih (by simp)]
      simp only [List.flatMap_cons, List.append_assoc]

@[simp] theorem tail_rows_eq_nil_iff {t : Text} : (rows t).tail = [] ↔ '\n' ∉ t := by
  constructor
  · intro htail hmem
    obtain ⟨s, u, rfl⟩ := List.append_of_mem hmem
    obtain ⟨x, xs, hs⟩ := exists_splitBy_eq_cons (· = '\n') s
    obtain ⟨y, ys, hu⟩ := exists_splitBy_eq_cons (· = '\n') u
    rw [rows_append_cons, rows, rows, hs, hu] at htail
    simp at htail
  · intro h
    rw [rows_eq_singleton h]
    rfl

/-! ## What holds no line feed -/

theorem not_mem_of_solid {t : Text} (h : Solid t) : '\n' ∉ t := fun hmem ↦ (h.oneLine _ hmem).1 rfl

theorem not_mem_decimal (n : Nat) : '\n' ∉ decimal n := not_mem_of_solid (solid_decimal n)

theorem not_mem_squeeze (t : Text) : '\n' ∉ squeeze t := by
  intro h
  refine forall_mem_joinWith (P := (· ≠ '\n')) (by simp) (fun w hw c hc ↦ ?_) _ h rfl
  exact ((solid_of_mem_words hw).oneLine c hc).1

theorem mem_of_mem_trimEnd {t : Text} {c : Char} (h : c ∈ trimEnd t) : c ∈ t := by
  rw [trimEnd, List.mem_reverse] at h
  exact List.mem_reverse.mp ((List.dropWhile_sublist _).subset h)

theorem mem_of_mem_trim {t : Text} {c : Char} (h : c ∈ trim t) : c ∈ t :=
  (List.dropWhile_sublist _).subset (mem_of_mem_trimEnd h)

theorem not_mem_of_mem_lineRuns {t run : Text} {ended : Bool} (h : (run, ended) ∈ lineRuns t) :
    '\n' ∉ run := by
  induction t generalizing run ended with
  | nil => exact absurd h List.not_mem_nil
  | cons c t ih =>
    rw [lineRuns] at h
    by_cases hc : c = '\n'
    · rw [if_pos hc] at h
      rcases List.mem_cons.mp h with heq | h
      · cases heq
        exact List.not_mem_nil
      · exact ih h
    · rw [if_neg hc] at h
      cases hr : lineRuns t with
      | nil =>
        rw [hr] at h
        cases List.mem_singleton.mp h
        simpa using Ne.symm hc
      | cons first rest =>
        rw [hr] at ih h
        rcases List.mem_cons.mp h with heq | h
        · cases heq
          rw [List.mem_cons, not_or]
          exact ⟨Ne.symm hc, ih List.mem_cons_self⟩
        · exact ih (List.mem_cons_of_mem _ h)

theorem mem_of_mem_dropReturn {t : Text} {c : Char} (h : c ∈ dropReturn t) : c ∈ t := by
  rcases dropReturn_spec t with heq | heq
  · rwa [heq] at h
  · rw [heq]
    exact List.mem_append_left _ h

theorem not_mem_of_mem_lines {t l : Text} (h : l ∈ lines t) : '\n' ∉ l := by
  obtain ⟨⟨run, ended⟩, hrun, rfl⟩ := List.mem_map.mp h
  intro hmem
  refine not_mem_of_mem_lineRuns hrun ?_
  cases ended with
  | true => exact mem_of_mem_dropReturn hmem
  | false => exact hmem

/-! ## Leaving lines out

A run and its flag say how a line stands in the text, so lines can be left out of a text with the
others as they were written, line endings included. -/

/-- A run as it stands in a text. -/
def runText (r : Text × Bool) : Text := if r.2 then r.1 ++ "\n" else r.1

/-- The line of a run. -/
def runLine (r : Text × Bool) : Text := if r.2 then dropReturn r.1 else r.1

/-- A text without the lines that `p` refuses. -/
def keepLines (p : Text → Bool) (t : Text) : Text :=
  ((lineRuns t).filter fun r ↦ p (runLine r)).flatMap runText

/-- Runs that can be those of a text: only the last one may go on to the end of the text, and it is
not empty then. -/
structure IsRuns (rs : List (Text × Bool)) : Prop where
  ended : rs.Pairwise fun r _ ↦ r.2 = true
  nonempty : ∀ r ∈ rs, r.2 = false → r.1 ≠ []
  not_mem : ∀ r ∈ rs, '\n' ∉ r.1

theorem IsRuns.filter {rs : List (Text × Bool)} (h : IsRuns rs) (p : Text × Bool → Bool) :
    IsRuns (rs.filter p) where
  ended := h.ended.sublist List.filter_sublist
  nonempty r hr := h.nonempty r (List.mem_of_mem_filter hr)
  not_mem r hr := h.not_mem r (List.mem_of_mem_filter hr)

theorem isRuns_lineRuns (t : Text) : IsRuns (lineRuns t) := by
  refine ⟨?_, ?_, fun r ↦ not_mem_of_mem_lineRuns⟩
  · induction t with
    | nil => exact List.Pairwise.nil
    | cons c t ih =>
      rw [lineRuns]
      by_cases hc : c = '\n'
      · rw [if_pos hc]
        exact List.pairwise_cons.mpr ⟨fun _ _ ↦ rfl, ih⟩
      · rw [if_neg hc]
        cases hr : lineRuns t with
        | nil => exact List.pairwise_singleton _ _
        | cons first rest =>
          rw [hr] at ih
          exact List.pairwise_cons.mpr (List.pairwise_cons.mp ih)
  · induction t with
    | nil => exact fun r hr ↦ absurd hr List.not_mem_nil
    | cons c t ih =>
      rw [lineRuns]
      by_cases hc : c = '\n'
      · rw [if_pos hc]
        exact List.forall_mem_cons.mpr ⟨fun h ↦ Bool.noConfusion h, ih⟩
      · rw [if_neg hc]
        cases hr : lineRuns t with
        | nil => simp
        | cons first rest =>
          rw [hr] at ih
          exact List.forall_mem_cons.mpr
            ⟨fun _ ↦ List.cons_ne_nil _ _, (List.forall_mem_cons.mp ih).2⟩

theorem lineRuns_of_not_mem {l : Text} (h : '\n' ∉ l) (hne : l ≠ []) :
    lineRuns l = [(l, false)] := by
  induction l with
  | nil => exact absurd rfl hne
  | cons c l ih =>
    rw [List.mem_cons, not_or] at h
    rw [lineRuns, if_neg (Ne.symm h.1)]
    cases l with
    | nil => rfl
    | cons d l => rw [ih h.2 (List.cons_ne_nil d l)]

/-- Runs are read back from the text that they are put together to. -/
theorem lineRuns_flatMap {rs : List (Text × Bool)} (h : IsRuns rs) :
    lineRuns (rs.flatMap runText) = rs := by
  obtain ⟨hended, hnonempty, hmem⟩ := h
  induction rs with
  | nil => rfl
  | cons r rs ih =>
    obtain ⟨run, ended⟩ := r
    rw [List.pairwise_cons] at hended
    rw [List.forall_mem_cons] at hnonempty hmem
    cases ended with
    | true =>
      have hcons : ((run, true) :: rs).flatMap runText = run ++ '\n' :: rs.flatMap runText := by
        rw [List.flatMap_cons, runText, if_pos rfl, List.append_assoc]
        rfl
      rw [hcons, lineRuns_append_cons hmem.1, ih hended.2 hnonempty.2 hmem.2]
    | false =>
      have hlast : rs = [] := List.eq_nil_iff_forall_not_mem.mpr fun r hr ↦
        Bool.noConfusion (hended.1 r hr)
      rw [hlast, List.flatMap_singleton]
      exact lineRuns_of_not_mem hmem.1 (hnonempty.1 rfl)

theorem lines_keepLines (p : Text → Bool) (t : Text) :
    lines (keepLines p t) = (lines t).filter p := by
  have hlines : ∀ u : Text, lines u = (lineRuns u).map runLine := fun _ ↦ rfl
  rw [hlines, keepLines, lineRuns_flatMap ((isRuns_lineRuns t).filter _), hlines, List.filter_map]
  rfl

/-! ## Quoting -/

theorem not_mem_quoteChar (c : Char) : '\n' ∉ quoteChar c := by
  rw [quoteChar]
  -- One case for each character that is escaped by a letter, then the visible ones and the rest.
  split_ifs with hnul htab hfeed hreturn hquote hbackslash hvisible
  · decide
  · decide
  · decide
  · decide
  · decide
  · decide
  · simpa using Ne.symm hfeed
  · have hopen : '\n' ∉ "\\u\x7b".toList := by decide
    have hclose : '\n' ∉ "\x7d".toList := by decide
    rw [List.mem_append, List.mem_append, not_or, not_or]
    exact ⟨⟨hopen, not_mem_of_solid (solid_hex _)⟩, hclose⟩

theorem not_mem_quoted (t : Text) : '\n' ∉ quoted t := by
  have hquote : '\n' ∉ "\"".toList := by decide
  rw [quoted, List.mem_append, List.mem_append, not_or, not_or]
  refine ⟨⟨hquote, fun h ↦ ?_⟩, hquote⟩
  obtain ⟨c, -, hc⟩ := List.mem_flatMap.mp h
  exact not_mem_quoteChar c hc

end PacketFilter.Text
