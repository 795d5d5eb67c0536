import PacketFilter.Address.Range
import PacketFilter.Proofs.Text.Numeral

/-!
# Addresses as they are written

The written form of an address or a range is made of digits, dots, colons and a slash. What holds of
each of these holds of every character in it. No blank is among them, so it is one word and stands
whole between the blanks of a command; and the slash before the length is the only one, so a reader
finds the length.
-/

namespace PacketFilter

open Text

namespace Address

variable {P : Char → Prop}

theorem forall_mem_dotted (hdigit : ∀ d < 16, P (Nat.digitChar d)) (hdot : P '.') (a : Address) :
    ∀ c ∈ dotted a, P c := by
  refine forall_mem_joinWith (by simpa using hdot) fun t ht ↦ ?_
  obtain ⟨n, -, rfl⟩ := List.mem_map.mp ht
  intro c hc
  obtain ⟨d, hd, rfl⟩ := exists_digitChar_of_mem_toDigits (by decide) hc
  exact hdigit d (by omega)

theorem forall_mem_hex (hdigit : ∀ d < 16, P (Nat.digitChar d)) (n : Nat) : ∀ c ∈ hex n, P c := by
  intro c hc
  obtain ⟨d, hd, rfl⟩ := exists_digitChar_of_mem_toDigits (by decide) hc
  exact hdigit d hd

theorem forall_mem_colons (hdigit : ∀ d < 16, P (Nat.digitChar d)) (hcolon : P ':')
    (groups : List Nat) : ∀ c ∈ colons groups, P c := by
  refine forall_mem_joinWith (by simpa using hcolon) fun t ht ↦ ?_
  obtain ⟨n, -, rfl⟩ := List.mem_map.mp ht
  exact forall_mem_hex hdigit n

theorem forall_mem_printGroups (hdigit : ∀ d < 16, P (Nat.digitChar d)) (hcolon : P ':')
    (groups : List Nat) : ∀ c ∈ printGroups groups, P c := by
  simp only [printGroups]
  split
  · exact forall_mem_colons hdigit hcolon groups
  · rw [List.forall_mem_append, List.forall_mem_append]
    exact ⟨⟨forall_mem_colons hdigit hcolon _, by simpa using hcolon⟩,
      forall_mem_colons hdigit hcolon _⟩

theorem forall_mem_print (hdigit : ∀ d < 16, P (Nat.digitChar d)) (hdot : P '.') (hcolon : P ':')
    (a : Address) : ∀ c ∈ a.print, P c := by
  rw [print]
  cases a.family with
  | v4 => exact forall_mem_dotted hdigit hdot a
  | v6 =>
    have hf : P 'f' := hdigit 15 (by decide)
    show ∀ c ∈ (if a.isMapped then "::ffff:".toList ++ dotted a else printGroups a.groups), P c
    by_cases h : a.isMapped = true
    · rw [if_pos h, List.forall_mem_append]
      exact ⟨by simp [hf, hcolon], forall_mem_dotted hdigit hdot a⟩
    · rw [if_neg h]
      exact forall_mem_printGroups hdigit hcolon a.groups

theorem not_blank_print (a : Address) : ∀ c ∈ a.print, isBlank c = false :=
  forall_mem_print (by decide) (by decide) (by decide) a

theorem slash_not_mem_print (a : Address) : '/' ∉ a.print := by
  have hother : ∀ c ∈ a.print, c ≠ '/' := forall_mem_print (by decide) (by decide) (by decide) a
  exact fun h ↦ hother '/' h rfl

end Address

namespace Range

theorem solid_print (r : Range) : Solid r.print := by
  have hslash : Solid "/" := by decide
  refine ⟨by simp [print], ?_⟩
  rw [print, List.forall_mem_append, List.forall_mem_append]
  exact ⟨⟨r.address.not_blank_print, hslash.2⟩, (solid_decimal r.length).2⟩

end Range
end PacketFilter
