import PacketFilter.Proofs.Address.Grammar

/-!
# Addresses with and without their full length

A range of one address may be written as the address alone or with the length of its family behind
it. The two forms are read by different grammars, and they do not accept the same addresses. With a
length behind it an octet may be padded with zeros, and two colons may stand among eight groups,
where they stand for none; the address alone is then refused. Nothing else tells the forms apart:
what is read without the length is read with it, as the same range, and an address that is read
with its length only has a padded octet or an empty run.

Both are seen in the text itself, without reading it. Octets stand behind the last colon with dots
between them, and groups are counted by what stands between the colons.
-/

namespace PacketFilter

namespace Address

open Text

variable {g : Grammar} {t w : Text}

/-! ## Padding and empty runs -/

/-- What stands between the colons of a text. -/
def fields (t : Text) : List Text := splitBy (· = ':') t

/-- The octets of a text: what stands between the dots behind its last colon, if there are dots. -/
def octetTexts (t : Text) : List Text :=
  if '.' ∈ t then splitBy (· = '.') ((fields t).getLast?.getD []) else []

/-- The number of groups that are written. Octets take the place of two. -/
def groupCount (t : Text) : Nat :=
  (fields t).countP (· ≠ []) + if '.' ∈ t then 1 else 0

/-- Some octet has a zero in front of further digits. -/
def PadsOctet (t : Text) : Prop := ∃ w ∈ octetTexts t, IsPadded w

/-- Two colons stand beside all eight groups. -/
def HasEmptyRun (t : Text) : Prop := groupCount t = 8 ∧ "::".toList <:+: t

instance (w : Text) : Decidable (IsPadded w) :=
  inferInstanceAs (Decidable (2 ≤ w.length ∧ w.head? = some '0'))

instance (t : Text) : Decidable (PadsOctet t) :=
  inferInstanceAs (Decidable (∃ w ∈ octetTexts t, IsPadded w))

@[simp] theorem fields_append_cons (s t : Text) : fields (s ++ ':' :: t) = fields s ++ fields t :=
  splitBy_append_cons rfl s t

/-- Two colons in a row leave an empty field between them. -/
theorem nil_mem_fields (h : "::".toList <:+: t) : [] ∈ fields t := by
  obtain ⟨front, back, rfl⟩ := h
  have htext : front ++ "::".toList ++ back = front ++ ':' :: ([] ++ ':' :: back) := by simp
  rw [htext, fields_append_cons, fields_append_cons]
  exact List.mem_append_right _ (List.mem_append_left _ List.mem_cons_self)

/-! ## Octets -/

namespace IsOctets

variable {ws : List Text}

theorem not_mem (h : IsOctets g ws) {c : Char} (hc : digitValue? 10 c = none) :
    ∀ w ∈ ws, c ∉ w := fun w hw ↦ not_mem_of_isNumeral hc (h.octets w hw).numeral

theorem splitBy_eq (h : IsOctets g ws) : splitBy (· = '.') (joinWith "." ws) = ws := by
  refine splitBy_joinWith (fun hnil ↦ ?_) (h.not_mem rfl)
  have hlength := h.length_eq
  rw [hnil] at hlength
  exact absurd hlength (by decide)

theorem dot_mem (h : IsOctets g ws) : '.' ∈ joinWith "." ws := by
  obtain ⟨w, x, y, z, rfl⟩ := List.length_eq_four.mp h.length_eq
  simp [joinWith]

theorem colon_not_mem (h : IsOctets g ws) : ':' ∉ joinWith "." ws := by
  have hother : ∀ c ∈ joinWith "." ws, c ≠ ':' := by
    refine forall_mem_joinWith (List.forall_mem_singleton.mpr (by decide)) fun w hw c hc ↦ ?_
    rintro rfl
    exact h.not_mem rfl w hw hc
  exact fun hmem ↦ hother ':' hmem rfl

end IsOctets

/-! ## Rows -/

namespace Row

variable {row : Row}

/-- The octets at the end of the row. -/
def octetPart : Row → List Text
  | stop => []
  | octets ws => ws
  | group _ row => row.octetPart

theorem mem_pieces (h : row.Suits g) : ∀ p ∈ row.pieces, p ≠ [] ∧ ':' ∉ p := by
  induction row with
  | stop => exact fun p hp ↦ absurd hp List.not_mem_nil
  | octets ws =>
    exact List.forall_mem_singleton.mpr ⟨List.ne_nil_of_mem h.dot_mem, h.colon_not_mem⟩
  | group w row ih =>
    exact List.forall_mem_cons.mpr ⟨⟨h.1.ne_nil, not_mem_of_isNumeral rfl h.1⟩, ih h.2⟩

theorem pieces_ne_nil (hne : row ≠ stop) : row.pieces ≠ [] := by
  cases row with
  | stop => exact absurd rfl hne
  | octets ws => exact List.cons_ne_nil _ _
  | group w row => exact List.cons_ne_nil _ _

theorem fields_text (h : row.Suits g) (hne : row ≠ stop) : fields row.text = row.pieces :=
  splitBy_joinWith (pieces_ne_nil hne) fun p hp ↦ (mem_pieces h p hp).2

theorem countP_fields_text (h : row.Suits g) :
    (fields row.text).countP (· ≠ []) = row.pieces.length := by
  by_cases hstop : row = stop
  · rw [hstop]
    rfl
  · rw [fields_text h hstop, List.countP_eq_length]
    exact fun p hp ↦ decide_eq_true (mem_pieces h p hp).1

theorem not_infix_text (h : row.Suits g) (hne : row ≠ stop) : ¬"::".toList <:+: row.text := by
  intro hinfix
  have hnil := nil_mem_fields hinfix
  rw [fields_text h hne] at hnil
  exact (mem_pieces h [] hnil).1 rfl

theorem getLast?_pieces (hdotted : row.isDotted = true) :
    row.pieces.getLast? = some (joinWith "." row.octetPart) := by
  induction row with
  | stop => exact absurd hdotted Bool.false_ne_true
  | octets ws => rfl
  | group w row ih => rw [pieces, List.getLast?_cons, ih hdotted, octetPart, Option.getD_some]

theorem isOctets_octetPart (h : row.Suits g) (hdotted : row.isDotted = true) :
    IsOctets g row.octetPart := by
  induction row with
  | stop => exact absurd hdotted Bool.false_ne_true
  | octets ws => exact h
  | group w row ih => exact ih h.2 hdotted

theorem octetPart_of_not_isDotted (hplain : row.isDotted = false) : row.octetPart = [] := by
  induction row with
  | stop => rfl
  | octets ws => exact Bool.noConfusion hplain
  | group w row ih => exact ih hplain

theorem dot_not_mem_pieces (h : row.Suits g) (hplain : row.isDotted = false) :
    ∀ p ∈ row.pieces, '.' ∉ p := by
  induction row with
  | stop => exact fun p hp ↦ absurd hp List.not_mem_nil
  | octets ws => exact Bool.noConfusion hplain
  | group w row ih =>
    exact List.forall_mem_cons.mpr ⟨not_mem_of_isNumeral rfl h.1, ih h.2 hplain⟩

theorem dot_mem_text_iff (h : row.Suits g) : '.' ∈ row.text ↔ row.isDotted = true := by
  constructor
  · intro hmem
    by_contra hplain
    have hpieces := dot_not_mem_pieces h (Bool.eq_false_iff.mpr hplain)
    have hother : ∀ c ∈ row.text, c ≠ '.' := by
      refine forall_mem_joinWith (List.forall_mem_singleton.mpr (by decide)) fun p hp c hc ↦ ?_
      rintro rfl
      exact hpieces p hp hc
    exact hother '.' hmem rfl
  · intro hdotted
    have hlast := List.mem_of_getLast? (getLast?_pieces hdotted)
    exact (infix_joinWith ":" hlast).subset (isOctets_octetPart h hdotted).dot_mem

/-- Octets take the place of two groups, but are one piece. -/
theorem size_eq (row : Row) : row.size = row.pieces.length + if row.isDotted then 1 else 0 := by
  induction row with
  | stop => rfl
  | octets ws => rfl
  | group w row ih =>
    rw [size, ih, pieces, List.length_cons, isDotted]
    omega

theorem octetTexts_eq (h : row.Suits g) (hdot : '.' ∈ t ↔ row.isDotted = true)
    (hlast : row.isDotted = true → (fields t).getLast? = row.pieces.getLast?) :
    octetTexts t = row.octetPart := by
  rw [octetTexts]
  by_cases hdotted : row.isDotted = true
  · rw [if_pos (hdot.mpr hdotted), hlast hdotted, getLast?_pieces hdotted, Option.getD_some,
      (isOctets_octetPart h hdotted).splitBy_eq]
  · rw [if_neg (hdot.not.mpr hdotted), octetPart_of_not_isDotted (Bool.eq_false_iff.mpr hdotted)]

theorem octetTexts_text (h : row.Suits g) : octetTexts row.text = row.octetPart := by
  refine octetTexts_eq h (dot_mem_text_iff h) fun hdotted ↦ ?_
  rw [fields_text h]
  rintro rfl
  exact Bool.noConfusion hdotted

theorem suits_bare_iff :
    row.Suits .bare ↔ row.Suits .ranged ∧ ∀ w ∈ row.octetPart, ¬IsPadded w := by
  have hoctet : ∀ w, IsOctet .bare w ↔ IsOctet .ranged w ∧ ¬IsPadded w := by
    refine fun w ↦ ⟨fun h ↦ ?_, fun h ↦ ⟨h.1.numeral, h.1.lt, Or.inr h.2⟩⟩
    exact ⟨⟨h.numeral, h.lt, Or.inl rfl⟩, h.unpadded.resolve_left Bool.false_ne_true⟩
  induction row with
  | stop => exact ⟨fun _ ↦ ⟨trivial, fun w hw ↦ absurd hw List.not_mem_nil⟩, fun _ ↦ trivial⟩
  | octets ws =>
    constructor
    · intro h
      exact ⟨⟨h.length_eq, fun w hw ↦ ((hoctet w).mp (h.octets w hw)).1⟩,
        fun w hw ↦ ((hoctet w).mp (h.octets w hw)).2⟩
    · rintro ⟨h, hunpadded⟩
      exact ⟨h.length_eq, fun w hw ↦ (hoctet w).mpr ⟨h.octets w hw, hunpadded w hw⟩⟩
  | group w row ih =>
    show IsNumeral 16 4 w ∧ row.Suits .bare ↔ (IsNumeral 16 4 w ∧ row.Suits .ranged) ∧ _
    rw [and_assoc]
    exact and_congr_right fun _ ↦ ih

end Row

/-! ## Spellings -/

namespace Spelling

variable {x : Spelling}

/-- The octets of a spelling. -/
def octetPart : Spelling → List Text
  | dotted ws => ws
  | full row => row.octetPart
  | shortened _ tail => tail.octetPart

/-- Whether two colons stand for no group. -/
def IsEmptyRun : Spelling → Prop
  | shortened head tail => head.size + tail.size = 8
  | _ => False

theorem suits_bare_iff :
    x.Suits .bare ↔ x.Suits .ranged ∧ (∀ w ∈ x.octetPart, ¬IsPadded w) ∧ ¬x.IsEmptyRun := by
  cases x with
  | dotted ws =>
    have hrow : (Row.octets ws).Suits .bare ↔ (Row.octets ws).Suits .ranged ∧ _ :=
      Row.suits_bare_iff
    exact ⟨fun h ↦ ⟨(hrow.mp h).1, (hrow.mp h).2, id⟩, fun h ↦ hrow.mpr ⟨h.1, h.2.1⟩⟩
  | full row =>
    rw [Suits, Suits, Row.suits_bare_iff]
    exact ⟨fun h ↦ ⟨⟨h.1.1, h.2⟩, h.1.2, id⟩, fun h ↦ ⟨⟨h.1.1, h.2.1⟩, h.1.2⟩⟩
  | shortened head tail =>
    have hbare : Grammar.bare.shortestRun = 1 := rfl
    have hranged : Grammar.ranged.shortestRun = 0 := rfl
    constructor
    · rintro ⟨hhead, hplain, hlt, htail, hroom⟩
      rw [hbare] at hroom
      obtain ⟨htail, hunpadded⟩ := Row.suits_bare_iff.mp htail
      have hsome : ¬head.size + tail.size = 8 := by omega
      exact ⟨⟨(Row.suits_bare_iff.mp hhead).1, hplain, hlt, htail, by omega⟩, hunpadded, hsome⟩
    · rintro ⟨⟨hhead, hplain, hlt, htail, hroom⟩, hunpadded, hsome⟩
      have hsome : ¬head.size + tail.size = 8 := hsome
      refine ⟨Row.suits_bare_iff.mpr ⟨hhead, ?_⟩, hplain, hlt,
        Row.suits_bare_iff.mpr ⟨htail, hunpadded⟩, by omega⟩
      rw [Row.octetPart_of_not_isDotted hplain]
      exact fun w hw ↦ absurd hw List.not_mem_nil

theorem fields_shortened (head tail : Row) :
    fields (shortened head tail).text = fields head.text ++ [] :: fields tail.text := by
  rw [text, fields_append_cons, show ':' :: tail.text = [] ++ ':' :: tail.text from rfl,
    fields_append_cons]
  rfl

theorem dot_mem_shortened_iff {head tail : Row} (h : SuitAround g head tail) :
    '.' ∈ (shortened head tail).text ↔ tail.isDotted = true := by
  have hhead : '.' ∉ head.text := by
    rw [Row.dot_mem_text_iff h.suits_head, h.plain]
    exact Bool.false_ne_true
  rw [text, List.mem_append, or_iff_right hhead, List.mem_cons, or_iff_right (by decide),
    List.mem_cons, or_iff_right (by decide), Row.dot_mem_text_iff h.suits_tail]

theorem octetTexts_text (h : x.Suits g) : octetTexts x.text = x.octetPart := by
  cases x with
  | dotted ws =>
    have hrow : (Row.octets ws).Suits g := h
    exact Row.octetTexts_text hrow
  | full row => exact Row.octetTexts_text h.1
  | shortened head tail =>
    refine Row.octetTexts_eq h.suits_tail (dot_mem_shortened_iff h) fun hdotted ↦ ?_
    have hne : tail ≠ .stop := by
      rintro rfl
      exact Bool.noConfusion hdotted
    rw [fields_shortened, Row.fields_text h.suits_tail hne, List.getLast?_append,
      List.getLast?_cons, Row.getLast?_pieces hdotted]
    rfl

theorem groupCount_shortened {head tail : Row} (h : SuitAround g head tail) :
    groupCount (shortened head tail).text = head.size + tail.size := by
  rw [groupCount, fields_shortened, List.countP_append, List.countP_cons_of_neg (by simp),
    Row.countP_fields_text h.suits_head, Row.countP_fields_text h.suits_tail, Row.size_eq,
    Row.size_eq, h.plain]
  simp only [dot_mem_shortened_iff h, Bool.false_eq_true, if_false]
  omega

theorem hasEmptyRun_text_iff (h : x.Suits g) : HasEmptyRun x.text ↔ x.IsEmptyRun := by
  cases x with
  | dotted ws =>
    have hrow : (Row.octets ws).Suits g := h
    exact iff_of_false (fun hrun ↦ Row.not_infix_text hrow Row.noConfusion hrun.2) id
  | full row =>
    have hne : row ≠ .stop := by
      rintro rfl
      exact absurd h.2 (by decide)
    exact iff_of_false (fun hrun ↦ Row.not_infix_text h.1 hne hrun.2) id
  | shortened head tail =>
    have hinfix : "::".toList <:+: (shortened head tail).text :=
      ⟨head.text, tail.text, by simp [text]⟩
    rw [HasEmptyRun, and_iff_left hinfix, groupCount_shortened h, IsEmptyRun]

end Spelling

/-- The two grammars differ in padding and in empty runs only, and both are seen in the text. -/
theorem parse?_eq_some_iff {a : Address} :
    parse? t = some a ↔ read? .ranged t = some a ∧ ¬PadsOctet t ∧ ¬HasEmptyRun t := by
  -- What a text shows is what its spelling has, whichever grammar the spelling suits.
  have hshown : ∀ {g : Grammar} {x : Spelling}, x.Suits g →
      ((∀ w ∈ x.octetPart, ¬IsPadded w) ∧ ¬x.IsEmptyRun ↔
        ¬PadsOctet x.text ∧ ¬HasEmptyRun x.text) := by
    intro g x hx
    rw [PadsOctet, Spelling.octetTexts_text hx, Spelling.hasEmptyRun_text_iff hx]
    simp only [not_exists, not_and]
  rw [parse?, read?_eq_some_iff_spelling, read?_eq_some_iff_spelling]
  constructor
  · rintro ⟨x, hx, rfl, rfl⟩
    obtain ⟨hranged, hbare⟩ := Spelling.suits_bare_iff.mp hx
    exact ⟨⟨x, hranged, rfl, rfl⟩, (hshown hx).mp hbare⟩
  · rintro ⟨⟨x, hx, rfl, rfl⟩, hbare⟩
    exact ⟨x, Spelling.suits_bare_iff.mpr ⟨hx, (hshown hx).mpr hbare⟩, rfl, rfl⟩

end Address

namespace Range

open Text Address

variable {t : Text} {r : Range}

theorem parse_eq_ok_iff : parse t = .ok r ↔ read? (trim t) = some r := by
  rw [← toOption_parse]
  cases parse t with
  | error cause => exact iff_of_false nofun nofun
  | ok s => exact ⟨fun h ↦ congrArg _ (Except.ok.inj h), fun h ↦ congrArg _ (Option.some.inj h)⟩

/-- A length does not end with a blank, and an address does not start with one. -/
theorem trim_append_length (ht : trim t = t) (n : Nat) :
    trim (t ++ '/' :: decimal n) = t ++ '/' :: decimal n := by
  have hsolid := solid_decimal n
  refine trim_eq_self_iff.mpr ⟨fun c hc ↦ ?_, fun c hc ↦ ?_⟩
  · cases t with
    | nil => exact Option.some.inj hc ▸ rfl
    | cons d t => exact (trim_eq_self_iff.mp ht).1 c hc
  · rw [List.getLast?_append_of_ne_nil _ (List.cons_ne_nil _ _),
      List.getLast?_cons_of_ne_nil hsolid.1] at hc
    exact hsolid.2 c (List.mem_of_getLast? hc)

@[simp] theorem cut_width (a : Address) : cut a a.family.width (Nat.le_refl _) = host a :=
  cut_address (host a)

theorem read?_full_length (hslash : '/' ∉ t) :
    read? (t ++ '/' :: decimal r.family.width) = some r ↔
      ∃ a, Address.read? .ranged t = some a ∧ r = host a := by
  have hlength : readLength? (decimal r.family.width) = some r.family.width :=
    readLength?_decimal (by cases r.family <;> decide)
  rw [read?_append_cons_eq_some_iff hslash]
  constructor
  · rintro ⟨a, n, ha, hn, hle, heq⟩
    obtain rfl : r.family.width = n := Option.some.inj (hlength.symm.trans hn)
    have hfamily : r.family = a.family := congrArg family heq
    refine ⟨a, ha, heq.trans ?_⟩
    rw [← cut_width a]
    congr 2
  · rintro ⟨a, ha, rfl⟩
    exact ⟨a, a.family.width, ha, hlength, Nat.le_refl _, (cut_width a).symm⟩

/-- **The length of a single address may be left out, with two exceptions.** An address on its own
is read as a range exactly if it is read so with the length of the range's family behind it, and it
has neither a padded octet nor two colons beside eight groups. -/
theorem parse_eq_ok_iff_full_length (ht : trim t = t) (hslash : '/' ∉ t) (r : Range) :
    parse t = .ok r ↔ parse (t ++ "/" ++ decimal r.family.width) = .ok r ∧
      ¬PadsOctet t ∧ ¬HasEmptyRun t := by
  have htext : t ++ "/".toList ++ decimal r.family.width = t ++ '/' :: decimal r.family.width :=
    List.append_assoc _ _ _
  rw [htext, parse_eq_ok_iff, parse_eq_ok_iff, trim_append_length ht, ht, read?_of_not_mem hslash,
    read?_full_length hslash, Option.map_eq_some_iff]
  simp only [Address.parse?_eq_some_iff]
  constructor
  · rintro ⟨a, ⟨ha, hshown⟩, rfl⟩
    exact ⟨⟨a, ha, rfl⟩, hshown⟩
  · rintro ⟨⟨a, ha, rfl⟩, hshown⟩
    exact ⟨a, ⟨ha, hshown⟩, rfl⟩

/-- Seven groups, and two colons that stand for the eighth. -/
theorem parse_eq_ok_iff_full_length_seven :
    trim "1:2:3::4:5:6:7" = "1:2:3::4:5:6:7" ∧ '/' ∉ "1:2:3::4:5:6:7".toList ∧
    parse "1:2:3::4:5:6:7/128" = .ok (host (ofGroups [1, 2, 3, 0, 4, 5, 6, 7])) ∧
    parse "1:2:3::4:5:6:7" = .ok (host (ofGroups [1, 2, 3, 0, 4, 5, 6, 7])) := by
  have htrim : trim "1:2:3::4:5:6:7" = "1:2:3::4:5:6:7" := by decide
  have hslash : '/' ∉ "1:2:3::4:5:6:7".toList := by decide
  have hlong : parse "1:2:3::4:5:6:7/128" = .ok (host (ofGroups [1, 2, 3, 0, 4, 5, 6, 7])) := by
    decide +kernel
  have hrun : ¬HasEmptyRun "1:2:3::4:5:6:7" := fun h ↦ absurd h.1 (by decide)
  exact ⟨htrim, hslash, hlong, (parse_eq_ok_iff_full_length htrim hslash _).mpr
    ⟨hlong, by decide, hrun⟩⟩

/-- A padded octet and an empty run, each read with the full length only. -/
theorem parse_refuses_without_length :
    trim "01.2.3.4" = "01.2.3.4" ∧ '/' ∉ "01.2.3.4".toList ∧
    parse "01.2.3.4/32" = .ok (host (ofOctets [1, 2, 3, 4])) ∧
    parse "01.2.3.4" = .error (.malformedAddress "01.2.3.4") ∧
    trim "1:2:3:4::5:6:7:8" = "1:2:3:4::5:6:7:8" ∧ '/' ∉ "1:2:3:4::5:6:7:8".toList ∧
    parse "1:2:3:4::5:6:7:8/128" = .ok (host (ofGroups [1, 2, 3, 4, 5, 6, 7, 8])) ∧
    parse "1:2:3:4::5:6:7:8" = .error (.malformedAddress "1:2:3:4::5:6:7:8") := by
  refine ⟨?_, ?_, ?_, ?_, ?_, ?_, ?_, ?_⟩
  all_goals decide +kernel

end Range
end PacketFilter
