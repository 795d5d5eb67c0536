import PacketFilter.Proofs.Text.Numeral
import PacketFilter.Text.Property

/-!
# Blanks and word characters

No blank is a word character, and every digit is one. Beyond ASCII the first is a fact about the
tables: no span of theirs holds one of the blanks. A table is gone through once, span by span,
instead of once for each blank.

A table stands in the library as a string, and a string is its bytes, which would have to be decoded
character by character. `Text.not_contains_of_avoids` takes the characters of the table as they are
written instead, which is what the string is made from.
-/

namespace PacketFilter

namespace Spans

/-- Whether no code point is in a span of each. -/
def avoids (s t : Spans) : Bool :=
  s.all fun (lo, hi) ↦ t.all fun (lo', hi') ↦ hi < lo' || hi' < lo

theorem exists_span_of_mem {n : Nat} {s : Spans} (h : mem n s = true) :
    ∃ span ∈ s, span.1 ≤ n ∧ n ≤ span.2 := by
  induction s with
  | nil => cases h
  | cons span s ih =>
    obtain ⟨lo, hi⟩ := span
    rw [mem] at h
    split at h
    · cases h
    · rename_i hlo
      rw [Bool.or_eq_true, decide_eq_true_eq] at h
      rcases h with hhi | hrest
      · exact ⟨(lo, hi), List.mem_cons_self, Nat.le_of_not_lt hlo, hhi⟩
      · obtain ⟨span, hspan, hn⟩ := ih hrest
        exact ⟨span, List.mem_cons_of_mem _ hspan, hn⟩

theorem not_mem_of_avoids {s t : Spans} (h : s.avoids t = true) {n : Nat}
    (ht : ∃ span ∈ t, span.1 ≤ n ∧ n ≤ span.2) : mem n s = false := by
  rw [Bool.eq_false_iff]
  intro hs
  obtain ⟨⟨lo, hi⟩, hspan, hn⟩ := exists_span_of_mem hs
  obtain ⟨⟨lo', hi'⟩, hspan', hn'⟩ := ht
  have hapart := List.all_eq_true.mp (List.all_eq_true.mp h _ hspan) _ hspan'
  simp only [Bool.or_eq_true, decide_eq_true_eq] at hapart hn hn'
  omega

end Spans

namespace Text

/-- The blanks. -/
def blankSpans : Spans :=
  [(0x9, 0xD), (0x20, 0x20), (0x85, 0x85), (0xA0, 0xA0), (0x1680, 0x1680), (0x2000, 0x200A),
    (0x2028, 0x2029), (0x202F, 0x202F), (0x205F, 0x205F), (0x3000, 0x3000)]

variable {c : Char}

theorem exists_blankSpan (h : isBlank c = true) :
    ∃ span ∈ blankSpans, span.1 ≤ c.toNat ∧ c.toNat ≤ span.2 := by
  simp only [isBlank, Bool.or_eq_true, Bool.and_eq_true, decide_eq_true_eq, beq_iff_eq] at h
  simp only [blankSpans, List.mem_cons, List.not_mem_nil, or_false, exists_eq_or_imp,
    exists_eq_left]
  omega

/-- A table whose spans hold no blank. -/
theorem not_contains_of_avoids {s : Spans} {table : List Char}
    (hs : s = .ofTable (String.toList (.ofList table)))
    (havoids : (Spans.ofTable table).avoids blankSpans = true) (h : isBlank c = true) :
    s.contains c = false := by
  rw [Spans.contains, hs, String.toList_ofList]
  exact Spans.not_mem_of_avoids havoids (exists_blankSpan h)

theorem not_isWord_of_ascii (h : isBlank c = true) (hascii : c.toNat < 128) :
    isWord c = false := by
  rw [Bool.eq_false_iff]
  intro hword
  rw [isWord, if_pos hascii] at hword
  simp only [isAlphanumeric, isLetter, isUpper, isLower, isDigit, Bool.or_eq_true,
    Bool.and_eq_true, decide_eq_true_eq, beq_iff_eq, Char.le_def, UInt32.le_iff_toNat_le] at hword
  have hlow : 48 ≤ c.toNat := by
    rcases hword with ((h | h) | h) | rfl
    · exact Nat.le_trans (by decide) h.1
    · exact Nat.le_trans (by decide) h.1
    · exact h.1
    · decide
  obtain ⟨span, hspan, hlo, hhi⟩ := exists_blankSpan h
  have hapart : ∀ span ∈ blankSpans, span.2 < 48 ∨ 128 ≤ span.1 := by decide
  rcases hapart span hspan with h | h <;> omega

theorem not_isJoiner_of_isBlank (h : isBlank c = true) : isJoiner c = false := by
  rw [Bool.eq_false_iff]
  intro hjoins
  simp only [isJoiner, Bool.or_eq_true, beq_iff_eq] at hjoins
  obtain ⟨span, hspan, hlo, hhi⟩ := exists_blankSpan h
  have hapart : ∀ span ∈ blankSpans, span.2 < 0x200C ∨ 0x200D < span.1 := by decide
  rcases hapart span hspan with h | h <;> omega

-- The longest table has eight thousand characters.
set_option maxRecDepth 50000 in
theorem not_isWord_of_isBlank (h : isBlank c = true) : isWord c = false := by
  by_cases hascii : c.toNat < 128
  · exact not_isWord_of_ascii h hascii
  have halphabetic : alphabeticSpans.contains c = false :=
    not_contains_of_avoids rfl (by decide +kernel) h
  have hdecimal : Category.decimalNumber.spans.contains c = false :=
    not_contains_of_avoids rfl (by decide +kernel) h
  have hconnector : Category.connectorPunctuation.spans.contains c = false :=
    not_contains_of_avoids rfl (by decide +kernel) h
  have hmarks : ∀ k ∈ Category.marks, k.spans.contains c = false := by
    intro k hk
    simp only [Category.marks, List.mem_cons, List.not_mem_nil, or_false] at hk
    rcases hk with rfl | rfl | rfl
    · exact not_contains_of_avoids rfl (by decide +kernel) h
    · exact not_contains_of_avoids rfl (by decide +kernel) h
    · exact not_contains_of_avoids rfl (by decide +kernel) h
  rw [isWord, if_neg hascii, halphabetic, not_isJoiner_of_isBlank h, Bool.false_or, Bool.false_or,
    Category.anyContains, List.any_eq_false]
  intro k hk
  rw [Bool.not_eq_true]
  rcases List.mem_cons.mp hk with rfl | hk
  · exact hdecimal
  rcases List.mem_cons.mp hk with rfl | hk
  · exact hconnector
  · exact hmarks k hk

/-! ## Digits -/

theorem isDecimal_of_isDigit (h : isDigit c = true) : isDecimal c = true := by
  have hascii : c.toNat < 128 := by have := (toNat_of_isDigit h).2; omega
  rwa [isDecimal, if_pos hascii]

theorem isWord_of_isDigit (h : isDigit c = true) : isWord c = true := by
  have hascii : c.toNat < 128 := by have := (toNat_of_isDigit h).2; omega
  rw [isWord, if_pos hascii, isAlphanumeric, h, Bool.or_true, Bool.true_or]

end Text
end PacketFilter
