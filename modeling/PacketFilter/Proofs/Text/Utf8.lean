import PacketFilter.Text.Utf8
import Mathlib.Data.List.Basic

/-!
# Reading back what was written in UTF-8

A text that was written in UTF-8 is read back as it was, also by the reading that accepts any bytes:
no piece of it is ill-formed. Characters take one to four bytes, so the proof has four cases; in
each the lead byte tells how many bytes follow, and the pieces of six bits make up the code point
again.

The classes of bytes are compared as numbers, which turns every side condition into arithmetic.
-/

namespace PacketFilter.Utf8

/-! ## Classes of bytes -/

private theorem toNat_byte {n : Nat} (h : n < 256) : (UInt8.ofNat n).toNat = n := by
  rw [UInt8.toNat_ofNat', Nat.mod_eq_of_lt h]

/-- The classes of continuation and lead bytes are given by their bounds. -/
private theorem between_iff {lo hi a : UInt8} :
    (decide (lo ≤ a) && decide (a ≤ hi)) = true ↔ lo.toNat ≤ a.toNat ∧ a.toNat ≤ hi.toNat := by
  rw [Bool.and_eq_true, decide_eq_true_eq, decide_eq_true_eq, UInt8.le_iff_toNat_le,
    UInt8.le_iff_toNat_le]

private theorem suits_iff {a b : UInt8} :
    suits a b = true ↔ 224 ≤ a.toNat ∧ a.toNat ≤ 244 ∧ 128 ≤ b.toNat ∧ b.toNat ≤ 191 ∧
      (a.toNat = 224 → 160 ≤ b.toNat) ∧ (a.toNat = 237 → b.toNat ≤ 159) ∧
      (a.toNat = 240 → 144 ≤ b.toNat) ∧ (a.toNat = 244 → b.toNat ≤ 143) := by
  simp only [suits, isContinuation, ← UInt8.toNat_inj, UInt8.le_iff_toNat_le, UInt8.reduceToNat]
  split_ifs <;> simp only [Bool.and_eq_true, decide_eq_true_eq] <;> omega

/-! ## Reading one character -/

private theorem runs_one {a : UInt8} (ha : a.toNat < 128) (bs : Bytes) :
    runs (a :: bs) = some (Char.ofNat a.toNat) :: runs bs := by
  rw [runs.eq_def]
  exact if_pos (UInt8.lt_iff_toNat_lt.mpr ha)

private theorem not_lt_128 {a : UInt8} (ha : 128 ≤ a.toNat) : ¬a < 0x80 := by
  rw [UInt8.lt_iff_toNat_lt]
  exact Nat.not_lt.mpr ha

private theorem runs_two {a b : UInt8} (ha : leadsTwo a = true) (hb : isContinuation b = true)
    (bs : Bytes) :
    runs (a :: b :: bs) =
      some (Char.ofNat (a.toNat % 32 * 64 + b.toNat % 64)) :: runs bs := by
  have hlead : 194 ≤ a.toNat ∧ a.toNat ≤ 223 := between_iff.mp ha
  have hnot := not_lt_128 (a := a) (by omega)
  rw [runs.eq_def]
  simp only [hnot, ha, hb, Bool.and_self, if_true]
  rfl

private theorem not_leadsTwo {a b : UInt8} (h : suits a b = true) : leadsTwo a = false := by
  have hsuits := suits_iff.mp h
  rw [← Bool.not_eq_true, leadsTwo, between_iff]
  simp only [UInt8.reduceToNat]
  omega

private theorem runs_three {a b c : UInt8} (ha : leadsThree a = true) (hb : suits a b = true)
    (hc : isContinuation c = true) (bs : Bytes) :
    runs (a :: b :: c :: bs) =
      some (Char.ofNat ((a.toNat % 16 * 64 + b.toNat % 64) * 64 + c.toNat % 64)) :: runs bs := by
  have hlead : 224 ≤ a.toNat ∧ a.toNat ≤ 239 := between_iff.mp ha
  have hnot := not_lt_128 (a := a) (by omega)
  rw [runs.eq_def]
  simp only [hnot, not_leadsTwo hb, hb, hc, ha, Bool.false_and, Bool.not_true, Bool.false_eq_true,
    if_false, if_true]
  rfl

private theorem runs_four {a b c d : UInt8} (ha : leadsThree a = false) (hb : suits a b = true)
    (hc : isContinuation c = true) (hd : isContinuation d = true) (bs : Bytes) :
    runs (a :: b :: c :: d :: bs) =
      some (Char.ofNat (((a.toNat % 8 * 64 + b.toNat % 64) * 64 + c.toNat % 64) * 64 +
        d.toNat % 64)) :: runs bs := by
  have hlead := suits_iff.mp hb
  have hnot := not_lt_128 (a := a) (by omega)
  rw [runs.eq_def]
  simp only [hnot, not_leadsTwo hb, hb, hc, hd, ha, Bool.false_and, Bool.not_true,
    Bool.false_eq_true, if_false, if_true]
  rfl

/-- What a character was written as is read as the character, whatever follows. -/
@[simp] theorem runs_encodeChar_append (c : Char) (bs : Bytes) :
    runs (encodeChar c ++ bs) = some c :: runs bs := by
  have hvalid : c.toNat < 0xD800 ∨ 0xDFFF < c.toNat ∧ c.toNat < 0x110000 := c.valid
  -- In each case the pieces of six bits make up the code point again.
  have hchar : ∀ {n : Nat}, n = c.toNat → some (Char.ofNat n) :: runs bs = some c :: runs bs := by
    rintro n rfl
    rw [Char.ofNat_toNat]
  rw [encodeChar]
  split_ifs with hone htwo hthree
  · rw [List.singleton_append, runs_one]
    · exact hchar (toNat_byte (by omega))
    · rwa [toNat_byte (by omega)]
  · rw [List.cons_append, List.singleton_append, runs_two]
    · simp (disch := omega) only [toNat_byte]
      exact hchar (by omega)
    · simp (disch := omega) only [leadsTwo, between_iff, UInt8.reduceToNat, toNat_byte]
      omega
    · simp (disch := omega) only [isContinuation, between_iff, UInt8.reduceToNat, toNat_byte]
      omega
  · rw [List.cons_append, List.cons_append, List.singleton_append, runs_three]
    · simp (disch := omega) only [toNat_byte]
      exact hchar (by omega)
    · simp (disch := omega) only [leadsThree, between_iff, UInt8.reduceToNat, toNat_byte]
      omega
    · simp (disch := omega) only [suits_iff, toNat_byte]
      omega
    · simp (disch := omega) only [isContinuation, between_iff, UInt8.reduceToNat, toNat_byte]
      omega
  · rw [List.cons_append, List.cons_append, List.cons_append, List.singleton_append, runs_four]
    · simp (disch := omega) only [toNat_byte]
      exact hchar (by omega)
    · simp (disch := omega) only [← Bool.not_eq_true, leadsThree, between_iff,
        UInt8.reduceToNat, toNat_byte]
      omega
    · simp (disch := omega) only [suits_iff, toNat_byte]
      omega
    · simp (disch := omega) only [isContinuation, between_iff, UInt8.reduceToNat, toNat_byte]
      omega
    · simp (disch := omega) only [isContinuation, between_iff, UInt8.reduceToNat, toNat_byte]
      omega

/-! ## Reading a text -/

@[simp] theorem size_append (t u : Text) : size (t ++ u) = size t + size u := by
  rw [size, encode, List.flatMap_append, List.length_append]
  rfl

theorem size_cons (c : Char) (t : Text) : size (c :: t) = size [c] + size t := size_append [c] t

@[simp] theorem runs_encode (t : Text) : runs (encode t) = t.map some := by
  induction t with
  | nil => rfl
  | cons c t ih =>
    show runs (encodeChar c ++ encode t) = some c :: t.map some
    rw [runs_encodeChar_append, ih]

@[simp] theorem decodeLossy_encode (t : Text) : decodeLossy (encode t) = t := by
  rw [decodeLossy, runs_encode, List.map_map]
  exact List.map_id t

@[simp] theorem decode?_encode (t : Text) : decode? (encode t) = some t := by
  rw [decode?, runs_encode]
  induction t with
  | nil => rfl
  | cons c t ih =>
    rw [List.map_cons, List.mapM_cons, ih]
    rfl

theorem zero_not_mem_encodeChar {c : Char} (h : c ≠ '\x00') : 0 ∉ encodeChar c := by
  have hpos : c.toNat ≠ 0 := fun hn ↦ h (Char.toNat_inj.mp hn)
  have hlt : c.toNat < 0x110000 := by
    have : c.toNat < 0xD800 ∨ 0xDFFF < c.toNat ∧ c.toNat < 0x110000 := c.valid
    omega
  have hbyte : ∀ {n : Nat}, 0 < n → n < 256 → (0 : UInt8) ≠ UInt8.ofNat n := by
    intro n hn hn' heq
    have hzero : 0 = n := by rw [← toNat_byte hn', ← heq, UInt8.toNat_zero]
    omega
  rw [encodeChar]
  split_ifs with hone htwo hthree <;> simp only [List.mem_cons, List.not_mem_nil, or_false, not_or]
  · exact hbyte (by omega) (by omega)
  · exact ⟨hbyte (by omega) (by omega), hbyte (by omega) (by omega)⟩
  · exact ⟨hbyte (by omega) (by omega), hbyte (by omega) (by omega), hbyte (by omega) (by omega)⟩
  · exact ⟨hbyte (by omega) (by omega), hbyte (by omega) (by omega), hbyte (by omega) (by omega),
      hbyte (by omega) (by omega)⟩

theorem zero_not_mem_encode {t : Text} (h : '\x00' ∉ t) : 0 ∉ encode t := by
  rw [encode, List.mem_flatMap]
  rintro ⟨c, hc, hzero⟩
  exact zero_not_mem_encodeChar (fun heq ↦ h (heq ▸ hc)) hzero

end PacketFilter.Utf8
