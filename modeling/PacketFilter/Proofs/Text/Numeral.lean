import PacketFilter.Proofs.Text.Pieces
import Mathlib.Data.Nat.Digits.Defs

/-!
# Numerals

A numeral is a nonempty run of digits, so it is one word wherever it stands, and it determines the
number it denotes. Reading it back needs no more than the value of a single digit: a numeral grows
at its end, and so does the value of a run of digits.
-/

namespace PacketFilter.Text

theorem exists_digitChar_of_mem_toDigits {b : Nat} (hb : 1 < b) {n : Nat} {c : Char}
    (h : c ∈ Nat.toDigits b n) : ∃ d < b, c = Nat.digitChar d := by
  induction n using Nat.strongRecOn with
  | ind n ih =>
    rw [Nat.toDigits_eq_if hb] at h
    by_cases hn : n < b
    · rw [if_pos hn, List.mem_singleton] at h
      exact ⟨n, hn, h⟩
    · rw [if_neg hn, List.mem_append, List.mem_singleton] at h
      rcases h with h | h
      · exact ih (n / b) (Nat.div_lt_self (by omega) hb) h
      · exact ⟨n % b, Nat.mod_lt n (by omega), h⟩

private theorem isBlank_digitChar : ∀ d < 16, isBlank (Nat.digitChar d) = false := by decide

theorem solid_toDigits {b : Nat} (hb : 1 < b) (hb' : b ≤ 16) (n : Nat) :
    Solid (Nat.toDigits b n) := by
  refine ⟨Nat.toDigits_ne_nil, fun c hc ↦ ?_⟩
  obtain ⟨d, hd, rfl⟩ := exists_digitChar_of_mem_toDigits hb hc
  exact isBlank_digitChar d (by omega)

theorem solid_decimal (n : Nat) : Solid (decimal n) := solid_toDigits (by decide) (by decide) n

theorem solid_hex (n : Nat) : Solid (hex n) := solid_toDigits (by decide) (by decide) n

@[simp] theorem decimal_inj {m n : Nat} : decimal m = decimal n ↔ m = n := by
  refine ⟨fun h ↦ ?_, congrArg decimal⟩
  calc
    m = Nat.ofDigitChars 10 (decimal m) 0 := Nat.ofDigitChars_ten_toDigits.symm
    _ = Nat.ofDigitChars 10 (decimal n) 0 := by rw [h]
    _ = n := Nat.ofDigitChars_ten_toDigits

/-! ## Reading numerals back -/

private theorem digitValue?_digitChar_of_lt :
    ∀ b < 17, ∀ d < b, digitValue? b (Nat.digitChar d) = some d := by decide

theorem digitValue?_digitChar {b d : Nat} (hb : b ≤ 16) (hd : d < b) :
    digitValue? b (Nat.digitChar d) = some d := digitValue?_digitChar_of_lt b (by omega) d hd

theorem isSome_digitValue?_of_mem_toDigits {b : Nat} (hb : 1 < b) (hb' : b ≤ 16) {n : Nat}
    {c : Char} (h : c ∈ Nat.toDigits b n) : (digitValue? b c).isSome = true := by
  obtain ⟨d, hd, rfl⟩ := exists_digitChar_of_mem_toDigits hb h
  rw [digitValue?_digitChar hb' hd]
  rfl

theorem toNat_of_isDigit {c : Char} (h : isDigit c = true) : 48 ≤ c.toNat ∧ c.toNat ≤ 57 := by
  rw [isDigit, Bool.and_eq_true, decide_eq_true_eq, decide_eq_true_eq, Char.le_def,
    Char.le_def, UInt32.le_iff_toNat_le, UInt32.le_iff_toNat_le] at h
  exact h

/-- The letters have values too, but none below ten. -/
@[simp] theorem isSome_digitValue?_iff {c : Char} :
    (digitValue? 10 c).isSome = true ↔ isDigit c = true := by
  rw [digitValue?]
  cases hdigit : isDigit c with
  | true =>
    have hsmall : c.toNat - 48 < 10 := by have := (toNat_of_isDigit hdigit).2; omega
    simp [hsmall]
  | false =>
    refine iff_of_false ?_ Bool.false_ne_true
    rw [if_neg Bool.false_ne_true, Bool.not_eq_true, Option.isSome_eq_false_iff,
      Option.isNone_iff_eq_none, Option.filter_eq_none_iff]
    intro n hn
    have hlarge : 10 ≤ n := by
      simp only [Bool.and_eq_true, decide_eq_true_eq, Char.le_def, UInt32.le_iff_toNat_le] at hn
      split at hn
      · rename_i h
        have hlow : 97 ≤ c.toNat := h.1
        have heq := Option.some_inj.mp hn
        omega
      · split at hn
        · rename_i h
          have hlow : 65 ≤ c.toNat := h.1
          have heq := Option.some_inj.mp hn
          omega
        · cases hn
    simp only [decide_eq_true_eq]
    omega

theorem isDigit_of_mem_decimal {n : Nat} {c : Char} (h : c ∈ decimal n) : isDigit c = true :=
  isSome_digitValue?_iff.mp (isSome_digitValue?_of_mem_toDigits (by decide) (by decide) h)

@[simp] theorem digitsValue_concat (b : Nat) (t : Text) (c : Char) :
    digitsValue b (t ++ [c]) = digitsValue b t * b + (digitValue? b c).getD 0 := by
  rw [digitsValue, List.foldl_append]
  rfl

theorem digitsValue_toDigits {b : Nat} (hb : 1 < b) (hb' : b ≤ 16) (n : Nat) :
    digitsValue b (Nat.toDigits b n) = n := by
  induction n using Nat.strongRecOn with
  | ind n ih =>
    have hlast : (digitValue? b (Nat.digitChar (n % b))).getD 0 = n % b := by
      rw [digitValue?_digitChar hb' (Nat.mod_lt n (by omega))]
      rfl
    rw [Nat.toDigits_eq_if hb]
    by_cases hn : n < b
    · rw [Nat.mod_eq_of_lt hn] at hlast
      rw [if_pos hn, ← List.nil_append [Nat.digitChar n], digitsValue_concat, hlast]
      simp [digitsValue]
    · have hsmaller : n / b < n := Nat.div_lt_self (by omega) hb
      rw [if_neg hn, digitsValue_concat, ih (n / b) hsmaller, hlast]
      exact Nat.div_add_mod' n b

/-- Only the numeral of zero starts with a zero. -/
theorem head?_toDigits_ne_zero {b : Nat} (hb : 1 < b) (hb' : b ≤ 16) {n : Nat} (hn : 0 < n) :
    (Nat.toDigits b n).head? ≠ some '0' := by
  induction n using Nat.strongRecOn with
  | ind n ih =>
    rw [Nat.toDigits_eq_if hb]
    by_cases h : n < b
    · have hdigit : ∀ d < 16, 0 < d → Nat.digitChar d ≠ '0' := by decide
      rw [if_pos h, List.head?_cons, ne_eq, Option.some_inj]
      exact hdigit n (by omega) hn
    · have hpos : 0 < n / b := Nat.div_pos (by omega) (by omega)
      rw [if_neg h, List.head?_append_of_ne_nil _ Nat.toDigits_ne_nil]
      exact ih (n / b) (Nat.div_lt_self hn hb) hpos

@[simp] theorem number?_decimal (n : Nat) : number? 10 (decimal n) = some n := by
  have hdigits : (decimal n).all (fun c ↦ (digitValue? 10 c).isSome) = true := by
    rw [List.all_eq_true]
    intro c hc
    exact isSome_digitValue?_of_mem_toDigits (by decide) (by decide) hc
  rw [number?, if_pos ⟨(solid_decimal n).1, hdigits⟩]
  exact congrArg some (digitsValue_toDigits (by decide) (by decide) n)

end PacketFilter.Text
