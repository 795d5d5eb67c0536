import PacketFilter.Proofs.Template.Segments

/-!
# Templates word by word

No token has a blank in it, so a line can be cut at its blanks before its tokens are replaced or
after, with the same words. What is put in for a token may hold blanks itself, and then becomes
several words; what never happens is that two words of a line run together, or that a word of the
line is touched by a token in another.

The cut is made for readings of segments in general. A character that is neither a dollar sign nor
part of a token's name ends the token before it, and so any reading of a text is a reading of what
stands before such a character, of the character, and of what stands after it.
-/

namespace PacketFilter.Template

/-! ## Readings cut in two -/

namespace Segment

theorem name_of_ofName? {t : Text} {k : Token} (h : Token.ofName? t = some k) : k.name = t :=
  have hfound := List.find?_some (p := fun k : Token ↦ decide (k.name = t)) h
  of_decide_eq_true hfound

/-- A part is written as it stands, after its dollar sign. -/
@[simp] theorem flatMap_print_ofPart (part : Text) : (ofPart part).flatMap print = '$' :: part := by
  have hsplit : part.takeWhile Token.isNameChar ++
      part.drop (part.takeWhile Token.isNameChar).length = part := by
    rw [List.prefix_iff_eq_append.mp (List.takeWhile_prefix _)]
  rw [ofPart]
  cases hname : Token.ofName? (part.takeWhile Token.isNameChar) with
  | none => exact List.flatMap_singleton print _
  | some k =>
    show (('$' :: k.name) ++ (part.drop _ ++ [])) = '$' :: part
    rw [List.append_nil, List.cons_append, name_of_ofName? hname, hsplit]

variable {α : Type} {f : Segment → List α}
  (hf : ∀ t u, f (text (t ++ u)) = f (text t) ++ f (text u))
include hf

/-- What does not go on with the name of a token is literal text behind a part. -/
theorem flatMap_ofPart_append (part : Text) {tail : Text}
    (htail : ∀ c, tail.head? = some c → Token.isNameChar c = false) :
    (ofPart (part ++ tail)).flatMap f = (ofPart part).flatMap f ++ f (text tail) := by
  have hname : (part ++ tail).takeWhile Token.isNameChar = part.takeWhile Token.isNameChar :=
    Text.takeWhile_append_left part htail
  have hle : (part.takeWhile Token.isNameChar).length ≤ part.length :=
    (List.takeWhile_prefix _).length_le
  rw [ofPart, ofPart]
  simp only [hname]
  cases Token.ofName? (part.takeWhile Token.isNameChar) with
  | none =>
    rw [List.flatMap_singleton, List.flatMap_singleton, ← List.cons_append, hf]
  | some k =>
    rw [List.drop_append_of_le_length hle, List.flatMap_cons, List.flatMap_singleton, hf,
      List.flatMap_cons, List.flatMap_singleton, List.append_assoc]

/-- A reading of a text is one of its parts. -/
theorem flatMap_segments {t first : Text} {parts : List Text}
    (h : Text.splitBy (· = '$') t = first :: parts) :
    (segments t).flatMap f = f (text first) ++ parts.flatMap fun p ↦ (ofPart p).flatMap f := by
  rw [segments, h]
  show List.flatMap f ((text first :: parts.flatMap ofPart).foldr push []) = _
  rw [flatMap_foldr_push hf, List.flatMap_cons, List.flatMap_assoc]

/-- A text may be cut at a character that belongs to no token. -/
theorem flatMap_segments_append_cons {x : Char} (hdollar : x ≠ '$')
    (hname : Token.isNameChar x = false) (a b : Text) :
    (segments (a ++ x :: b)).flatMap f =
      (segments a).flatMap f ++ f (text [x]) ++ (segments b).flatMap f := by
  have hx : Text.splitBy (· = '$') [x] = [[x]] :=
    Text.splitBy_eq_singleton fun c hc ↦ by simpa [List.mem_singleton.mp hc] using hdollar
  obtain ⟨start, z', y, back, hone, hb, hxb⟩ := Text.splitBy_append (· = '$') [x] b
  obtain ⟨rfl, rfl⟩ : start = [] ∧ z' = [x] := by
    rw [hx] at hone
    cases start with
    | nil => exact ⟨rfl, (List.singleton_inj.mp hone).symm⟩
    | cons piece start => exact absurd (List.cons.inj hone).2 (by simp)
  obtain ⟨front, z, y', back', ha, hxb', hab⟩ := Text.splitBy_append (· = '$') a ([x] ++ b)
  rw [hxb] at hxb'
  obtain ⟨rfl, rfl⟩ := List.cons.inj hxb'
  rw [List.singleton_append, List.singleton_append] at hab
  have htail : f (text (x :: y)) = f (text [x]) ++ f (text y) := hf [x] y
  rw [flatMap_segments hf hb]
  -- The cut is in the first part, which is literal, or in one that may start with a token.
  cases front with
  | nil =>
    rw [flatMap_segments hf ha, flatMap_segments hf hab, hf, htail, List.flatMap_nil,
      List.append_nil]
    simp only [List.append_assoc]
  | cons first front =>
    have hlast : (ofPart (z ++ x :: y)).flatMap f =
        (ofPart z).flatMap f ++ (f (text [x]) ++ f (text y)) := by
      rw [flatMap_ofPart_append hf z, htail]
      intro c hc
      rwa [← Option.some_inj.mp hc]
    rw [List.cons_append] at ha hab
    rw [flatMap_segments hf ha, flatMap_segments hf hab, List.flatMap_append, List.flatMap_append,
      List.flatMap_cons, List.flatMap_singleton, hlast]
    simp only [List.append_assoc]

end Segment

@[simp] theorem flatMap_print_segments (t : Text) : (segments t).flatMap Segment.print = t := by
  obtain ⟨first, parts, hparts⟩ := Text.exists_splitBy_eq_cons (· = '$') t
  rw [Segment.flatMap_segments (fun _ _ ↦ rfl) hparts]
  simp only [Segment.flatMap_print_ofPart]
  exact Text.eq_of_splitBy hparts

/-! ## Words of a line -/

theorem Token.not_isNameChar_of_isBlank {x : Char} (hx : Text.isBlank x = true) :
    x ≠ '$' ∧ isNameChar x = false := by
  constructor
  · rintro rfl
    exact absurd hx (by decide)
  · rw [Bool.eq_false_iff]
    intro h
    simp only [isNameChar, Text.isUpper, Text.isDigit, Bool.or_eq_true, Bool.and_eq_true,
      decide_eq_true_eq, beq_iff_eq, Char.le_def, UInt32.le_iff_toNat_le] at h
    have hbounds : 48 ≤ x.toNat ∧ x.toNat ≤ 95 := by
      rcases h with (h | h) | rfl
      · exact ⟨le_trans (by decide) h.1, le_trans h.2 (by decide)⟩
      · exact ⟨le_trans (by decide) h.1, le_trans h.2 (by decide)⟩
      · decide
    simp only [Text.isBlank, Bool.or_eq_true, Bool.and_eq_true, decide_eq_true_eq,
      beq_iff_eq] at hx
    omega

/-- A text with its tokens replaced. -/
def Context.expand (c : Context) (family : Option Family) (port : Option Port) (t : Text) : Text :=
  (segments t).flatMap (c.fill family port)

variable {c : Context} {family : Option Family} {port : Option Port}

theorem words_expand (t : Text) :
    Text.words (c.expand family port t) =
      (Text.words t).flatMap fun w ↦ Text.words (c.expand family port w) := by
  refine Text.eq_flatMap_words (g := fun t ↦ Text.words (c.expand family port t)) rfl ?_ t
  intro a x b hx
  obtain ⟨hdollar, hname⟩ := Token.not_isNameChar_of_isBlank hx
  simp only [Context.expand]
  rw [Segment.flatMap_segments_append_cons (fun _ _ ↦ rfl) hdollar hname, List.append_assoc]
  exact Text.words_append_cons hx _ _

theorem expand_of_no_tokens {t : Text} (h : (Line.parse t).tokens = []) :
    c.expand family port t = t := by
  rw [Line.tokens_eq_flatMap, List.flatMap_eq_nil_iff] at h
  conv_rhs => rw [← flatMap_print_segments t]
  refine List.flatMap_congr fun s hs ↦ ?_
  cases s with
  | text u => rfl
  | token k => exact absurd (h _ hs) (List.cons_ne_nil k [])

/-- Two families make no difference to what is put in for other tokens than `$IPTABLES`. -/
theorem expand_family {t : Text} (h : (Line.parse t).has .iptables = false)
    (family' : Option Family) : c.expand family port t = c.expand family' port t := by
  refine List.flatMap_congr fun s hs ↦ ?_
  cases s with
  | text u => rfl
  | token k =>
    cases k with
    | iptables => exact absurd hs (of_decide_eq_false h)
    | _ => rfl

theorem Line.words_substitute (raw : Text) :
    Text.words ((Line.parse raw).substitute c family port) =
      (Text.words raw).flatMap fun w ↦ Text.words (c.expand family port w) := by
  rw [← words_expand, substitute]
  split
  · exact Text.words_squeeze _
  · rename_i h
    have hnone : (Line.parse raw).tokens = [] := by simpa [hasTokens] using h
    rw [expand_of_no_tokens hnone]
    exact Text.words_trimEnd raw

end PacketFilter.Template
