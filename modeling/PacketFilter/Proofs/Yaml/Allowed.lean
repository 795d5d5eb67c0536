import PacketFilter.Proofs.Yaml.Block
import PacketFilter.Proofs.Yaml.Quoted

/-!
# Characters of what was written

A text is only read if all of its characters are allowed. Those that can stand for themselves are,
and any other is written as an escape, in ASCII. Only double quotes have escapes, so the other
styles are chosen for texts without such characters.
-/

namespace PacketFilter.Yaml

variable {t u : Text} {c : Char}

/-- A text that may be read. -/
def Allowed (t : Text) : Prop := ∀ a ∈ t, isAllowed a = true

instance (t : Text) : Decidable (Allowed t) := List.decidableBAll _ t

@[simp] theorem allowed_nil : Allowed [] := fun _ h ↦ nomatch h

@[simp] theorem allowed_append : Allowed (t ++ u) ↔ Allowed t ∧ Allowed u := List.forall_mem_append

@[simp]
theorem allowed_cons : Allowed (c :: t) ↔ isAllowed c = true ∧ Allowed t := List.forall_mem_cons

theorem allowed_flatMap {α : Type} {f : α → Text} {xs : List α} (h : ∀ x ∈ xs, Allowed (f x)) :
    Allowed (xs.flatMap f) := by
  intro a ha
  obtain ⟨x, hx, ha⟩ := List.mem_flatMap.mp ha
  exact h x hx a ha

theorem allowed_indentation (n : Nat) : Allowed (indentation n) := by
  intro a ha
  rw [List.eq_of_mem_replicate ha]
  decide

/-! ## Characters -/

theorem isAllowed_of_isVisible (h : isVisible c = true) : isAllowed c = true := by
  simp only [isVisible, Bool.or_eq_true, Bool.and_eq_true, beq_iff_eq, decide_eq_true_eq] at h
  simp only [isAllowed, Bool.or_eq_true, Bool.and_eq_true, beq_iff_eq, decide_eq_true_eq]
  obtain ((hline | hascii) | ⟨hwide, -⟩) | hlast := h
  · simp [hline]
  · simp [hascii]
  · simp [hwide]
  · simp [hlast]

theorem allowed_hexDigits (width n : Nat) : Allowed (hexDigits width n) := by
  intro a ha
  rw [hexDigits, Text.padZero, List.mem_append] at ha
  obtain hzero | hdigit := ha
  · rw [List.eq_of_mem_replicate hzero]
    decide
  · obtain ⟨b, hb, rfl⟩ := List.mem_map.mp hdigit
    obtain ⟨d, hd, rfl⟩ := Text.exists_digitChar_of_mem_toDigits (by decide) hb
    have hdigits : ∀ d < 16, isAllowed d.digitChar.toUpper = true := by decide
    exact hdigits d hd

theorem allowed_escape (c : Char) : Allowed (escape c) := by
  rw [escape]
  repeat' refine iteInduction (motive := Allowed) (fun _ ↦ ?_) fun _ ↦ ?_
  all_goals first
    | decide
    | exact allowed_append.mpr ⟨by decide, allowed_hexDigits _ _⟩

/-! ## Scalars -/

theorem allowed_indentLines {f : Char → Text} {n : Nat} {fresh : Bool}
    (hf : ∀ a ∈ t, Allowed (f a)) (ht : ∀ a ∈ t, isVisible a = true) :
    Allowed (indentLines n f fresh t) := by
  induction t generalizing fresh with
  | nil => exact allowed_nil
  | cons a t ih =>
    obtain ⟨hfa, hf⟩ := List.forall_mem_cons.mp hf
    obtain ⟨ha, ht⟩ := List.forall_mem_cons.mp ht
    rw [indentLines]
    split_ifs
    · exact allowed_cons.mpr ⟨isAllowed_of_isVisible ha, ih hf ht⟩
    · exact allowed_append.mpr ⟨allowed_append.mpr ⟨allowed_indentation n, hfa⟩, ih hf ht⟩
    · exact allowed_append.mpr ⟨allowed_append.mpr ⟨allowed_nil, hfa⟩, ih hf ht⟩

theorem allowed_singleQuoted (n : Nat) (ht : ∀ a ∈ t, isVisible a = true) :
    Allowed (singleQuoted n t) := by
  have hbody : Allowed (quotedBody n t) := by
    refine allowed_append.mpr ⟨allowed_indentLines (fun a ha ↦ ?_) ht, ?_⟩
    · rw [doubledQuote]
      split_ifs
      · decide
      · exact allowed_cons.mpr ⟨isAllowed_of_isVisible (ht a ha), allowed_nil⟩
    · split_ifs
      · exact allowed_indentation n
      · exact allowed_nil
  rw [singleQuoted_eq]
  exact allowed_cons.mpr ⟨by decide, allowed_append.mpr ⟨hbody, by decide⟩⟩

theorem allowed_doubleQuoted (t : Text) : Allowed (doubleQuoted t) := by
  rw [doubleQuoted_eq]
  refine allowed_cons.mpr ⟨by decide, allowed_append.mpr ⟨allowed_flatMap fun c _ ↦ ?_, by decide⟩⟩
  rw [escaped]
  split_ifs with h
  · exact allowed_escape c
  · simp only [Bool.or_eq_true, not_or, Bool.not_eq_true, Bool.not_eq_false'] at h
    exact allowed_cons.mpr ⟨isAllowed_of_isVisible h.1.1.1, allowed_nil⟩

theorem allowed_literal (n : Nat) (ht : ∀ a ∈ t, isVisible a = true) : Allowed (literal n t) := by
  have hhints : Allowed (blockHints t) := by
    rw [blockHints_eq]
    cases givesIndent t <;> cases chompingOf t <;> decide
  have hlines : Allowed (indentLines n ([·]) true t) := by
    refine allowed_indentLines (fun a ha ↦ ?_) ht
    exact allowed_cons.mpr ⟨isAllowed_of_isVisible (ht a ha), allowed_nil⟩
  exact allowed_cons.mpr
    ⟨by decide, allowed_append.mpr ⟨hhints, allowed_cons.mpr ⟨by decide, hlines⟩⟩⟩

/-! ## Styles -/

theorem isVisible_of_allowsQuotes (h : allowsQuotes t = true) : ∀ a ∈ t, isVisible a = true := by
  rw [allowsQuotes, Bool.and_eq_true, Bool.and_eq_true, List.all_eq_true] at h
  exact h.1.1

theorem isVisible_of_allowsBlock (h : allowsBlock t = true) : ∀ a ∈ t, isVisible a = true := by
  rw [allowsBlock, Bool.and_eq_true, Bool.and_eq_true, Bool.and_eq_true, List.all_eq_true] at h
  exact h.1.1.2

theorem isVisible_of_allowsPlain (h : allowsPlain t = true) : ∀ a ∈ t, isVisible a = true := by
  simp only [allowsPlain, Bool.and_eq_true] at h
  exact isVisible_of_allowsQuotes h.1.1.1.1.1.1

theorem allowsPlain_of_styleOf (h : styleOf t = .plain) :
    isAmbiguous t = false ∧ allowsPlain t = true := by
  rw [styleOf] at h
  split_ifs at h with _ _ hplain
  rwa [Bool.and_eq_true, Bool.not_eq_true'] at hplain

theorem allowsQuotes_of_styleOf (h : styleOf t = .singleQuoted) :
    '\n' ∉ t ∧ allowsQuotes t = true := by
  rw [styleOf] at h
  split_ifs at h with hline _ _ hquotes
  exact ⟨hline, hquotes⟩

theorem allowsBlock_of_styleOf (h : styleOf t = .literal) : allowsBlock t = true := by
  rw [styleOf] at h
  split_ifs at h with _ hblock
  exact hblock

theorem styleOf_ne_folded (t : Text) : styleOf t ≠ .folded := by
  intro h
  rw [styleOf] at h
  split_ifs at h

/-- Every text is written with characters that may be read. -/
theorem allowed_writeScalar (n : Nat) (t : Text) : Allowed (writeScalar n t) := by
  have hline : Allowed ['\n'] := by decide
  rw [writeScalar]
  cases hstyle : styleOf t with
  | plain =>
    have hvisible := isVisible_of_allowsPlain (allowsPlain_of_styleOf hstyle).2
    exact allowed_append.mpr ⟨fun a ha ↦ isAllowed_of_isVisible (hvisible a ha), hline⟩
  | singleQuoted =>
    have hvisible := isVisible_of_allowsQuotes (allowsQuotes_of_styleOf hstyle).2
    exact allowed_append.mpr ⟨allowed_singleQuoted n hvisible, hline⟩
  | doubleQuoted => exact allowed_append.mpr ⟨allowed_doubleQuoted t, hline⟩
  | literal =>
    have hliteral := allowed_literal n (isVisible_of_allowsBlock (allowsBlock_of_styleOf hstyle))
    refine iteInduction (motive := Allowed) (fun _ ↦ hliteral) fun _ ↦ ?_
    exact allowed_append.mpr ⟨hliteral, hline⟩
  | folded => exact absurd hstyle (styleOf_ne_folded t)

end PacketFilter.Yaml
