import PacketFilter.Proofs.Template.Words

/-!
# Where tokens stand in a line

A line is read as a list of signs: characters that stand for themselves, and tokens. Reading goes
from left to right, and a dollar sign always starts afresh, because no name of a token contains one.
What is read at a dollar sign is therefore decided by the text behind it.

The name behind a dollar sign is the longest run of *name characters*: upper-case letters, digits
and underscores. So a token is read where its name stands and no name character goes on with it. A
token that is bounded as a word has more after it to rule out: the other letters, which are word
characters but no name characters. `$SRCX` is a variable of the shell by either rule, but in
`$PORTx` a token is read.

What counts as a word character, the letters of ASCII or all of Unicode, makes no difference to
where the two rules part, so it is left open.
-/

namespace PacketFilter.Template

/-! ## Signs -/

/-- What is read in a line at a time. -/
inductive Sign where
  /-- A character that stands for itself. -/
  | char (c : Char)
  | token (k : Token)
  deriving DecidableEq

namespace Sign

/-- The sign as templates write it. -/
def print : Sign → Text
  | char c => [c]
  | token k => k.print

theorem print_ne_nil (s : Sign) : s.print ≠ [] := by
  rcases s with c | k
  · exact List.cons_ne_nil c []
  · exact List.cons_ne_nil '$' k.name

end Sign

/-- The signs of a segment. -/
def Segment.signs : Segment → List Sign
  | text t => t.map .char
  | token k => [.token k]

/-- The signs of a line. -/
def signs (line : Text) : List Sign := (segments line).flatMap Segment.signs

/-- Whether a line is read, behind a first part of it, as certain signs. -/
def ReadAt (line before : Text) (ss : List Sign) : Prop :=
  ∃ front back, signs line = front ++ (ss ++ back) ∧ front.flatMap Sign.print = before

namespace Token

/-- Whether a text starts with the name of the token, and no character that `p` accepts goes on
with it. -/
def IsBoundedBy (p : Char → Bool) (k : Token) (t : Text) : Prop :=
  ∃ tail, t = k.name ++ tail ∧ ∀ c, tail.head? = some c → p c = false

/-- Letters of ASCII, digits and underscores. -/
def isWordChar (c : Char) : Bool := Text.isAlphanumeric c || c == '_'

variable {k : Token} {t : Text}

theorem ofName?_takeWhile_iff :
    ofName? (t.takeWhile isNameChar) = some k ↔ k.IsBoundedBy isNameChar t := by
  constructor
  · intro h
    have hname : k.name = t.takeWhile isNameChar := Segment.name_of_ofName? h
    refine ⟨t.dropWhile isNameChar, ?_, fun c hc ↦ ?_⟩
    · rw [hname, List.takeWhile_append_dropWhile]
    · have hstop := List.head?_dropWhile_not isNameChar t
      rw [hc] at hstop
      simpa using hstop
  · rintro ⟨tail, rfl, htail⟩
    rw [Text.takeWhile_append_of_head? isNameChar_of_mem_name htail, ofName?_name]

end Token

/-! ## Reading from the left -/

@[simp] private theorem signs_text_append (t u : Text) :
    Segment.signs (.text (t ++ u)) = Segment.signs (.text t) ++ Segment.signs (.text u) :=
  List.map_append

theorem signs_cons {c : Char} (hc : c ≠ '$') (t : Text) : signs (c :: t) = .char c :: signs t := by
  obtain ⟨first, parts, ht⟩ := Text.exists_splitBy_eq_cons (· = '$') t
  have hct : Text.splitBy (· = '$') (c :: t) = (c :: first) :: parts := by
    rw [Text.splitBy, if_neg (by simpa using hc), ht]
  rw [signs, signs, Segment.flatMap_segments signs_text_append hct,
    Segment.flatMap_segments signs_text_append ht]
  rfl

theorem signs_append {t : Text} (ht : '$' ∉ t) (u : Text) :
    signs (t ++ u) = t.map .char ++ signs u := by
  induction t with
  | nil => rfl
  | cons c t ih =>
    rw [List.mem_cons, not_or] at ht
    rw [List.cons_append, signs_cons (Ne.symm ht.1), ih ht.2, List.map_cons, List.cons_append]

/-- What is read at a dollar sign is decided by the part between it and the next one. -/
private theorem signs_dollar_eq {t first : Text} {parts : List Text}
    (ht : Text.splitBy (· = '$') t = first :: parts) :
    signs ('$' :: t) = (Segment.ofPart first).flatMap Segment.signs ++
      parts.flatMap fun p ↦ (Segment.ofPart p).flatMap Segment.signs := by
  have hdollar : Text.splitBy (· = '$') ('$' :: t) = [] :: first :: parts := by
    rw [Text.splitBy, if_pos (decide_eq_true rfl), ht]
  rw [signs, Segment.flatMap_segments signs_text_append hdollar]
  rfl

theorem signs_token (k : Token) {tail : Text}
    (htail : ∀ c, tail.head? = some c → Token.isNameChar c = false) :
    signs ('$' :: (k.name ++ tail)) = .token k :: signs tail := by
  obtain ⟨front, x, y, back, hname, hy, hsplit⟩ := Text.splitBy_append (· = '$') k.name tail
  obtain ⟨rfl, rfl⟩ : front = [] ∧ x = k.name := by
    have hone : Text.splitBy (· = '$') k.name = [k.name] :=
      Text.splitBy_eq_singleton fun c hc ↦ decide_eq_false fun h ↦ k.not_mem_name (h ▸ hc)
    rw [hone] at hname
    rcases front with _ | ⟨piece, front⟩
    · exact ⟨rfl, (List.singleton_inj.mp hname).symm⟩
    · exact absurd (List.cons.inj hname).2 (by simp)
  have hreadable : Stretch.IsReadable ⟨k, y⟩ := by
    refine ⟨fun h ↦ ?_, fun c hc ↦ htail c ?_⟩
    · have hdollar := (Text.mem_splitBy (by rw [hy]; exact List.mem_cons_self) _ h).1
      exact absurd hdollar (by decide)
    · rw [← Text.eq_of_splitBy hy, List.head?_append, show y.head? = some c from hc]
      rfl
  rw [signs_dollar_eq hsplit, signs, Segment.flatMap_segments signs_text_append hy,
    Stretch.ofPart_eq hreadable]
  simp only [List.flatMap_cons, List.flatMap_nil, List.append_nil, List.append_assoc]
  rfl

theorem signs_dollar {t : Text} (h : ∀ k : Token, ¬k.IsBoundedBy Token.isNameChar t) :
    signs ('$' :: t) = .char '$' :: signs t := by
  obtain ⟨first, parts, ht⟩ := Text.exists_splitBy_eq_cons (· = '$') t
  have hrun : first.takeWhile Token.isNameChar = t.takeWhile Token.isNameChar := by
    rw [← Text.eq_of_splitBy ht]
    refine (Text.takeWhile_append_left first fun c hc ↦ ?_).symm
    rcases parts with _ | ⟨p, parts⟩
    · cases hc
    · obtain rfl : '$' = c := Option.some_inj.mp hc
      decide
  have hnone : Token.ofName? (first.takeWhile Token.isNameChar) = none := by
    rw [hrun, Option.eq_none_iff_forall_ne_some]
    exact fun k hk ↦ h k (Token.ofName?_takeWhile_iff.mp hk)
  have hpart : Segment.ofPart first = [.text ('$' :: first)] := by
    rw [Segment.ofPart]
    simp only [hnone]
  rw [signs_dollar_eq ht, signs, Segment.flatMap_segments signs_text_append ht, hpart,
    List.flatMap_singleton]
  rfl

/-- What holds of a text holds of one with one sign more in front, and so of every text. -/
theorem signs_induction {motive : Text → Prop} (nil : motive [])
    (char : ∀ c t, c ≠ '$' → motive t → motive (c :: t))
    (token : ∀ (k : Token) tail, (∀ c, tail.head? = some c → Token.isNameChar c = false) →
      motive tail → motive ('$' :: (k.name ++ tail)))
    (dollar : ∀ t, (∀ k : Token, ¬k.IsBoundedBy Token.isNameChar t) → motive t →
      motive ('$' :: t)) (t : Text) : motive t := by
  -- A token takes several characters at once, so the induction is on the length.
  induction hlength : t.length using Nat.strong_induction_on generalizing t with
  | _ n ih =>
    rcases t with _ | ⟨c, t⟩
    · exact nil
    rw [List.length_cons] at hlength
    by_cases hc : c = '$'
    · subst hc
      by_cases htoken : ∃ k : Token, k.IsBoundedBy Token.isNameChar t
      · obtain ⟨k, tail, rfl, htail⟩ := htoken
        rw [List.length_append] at hlength
        exact token k tail htail (ih tail.length (by omega) tail rfl)
      · exact dollar t (not_exists.mp htoken) (ih t.length (by omega) t rfl)
    · exact char c t hc (ih t.length (by omega) t rfl)

/-! ## Reading at a position -/

@[simp] theorem flatMap_print_signs (t : Text) : (signs t).flatMap Sign.print = t := by
  rw [signs, List.flatMap_assoc]
  calc (segments t).flatMap (fun s ↦ s.signs.flatMap Sign.print)
      = (segments t).flatMap Segment.print := List.flatMap_congr fun s _ ↦ ?_
    _ = t := flatMap_print_segments t
  rcases s with u | k
  · exact (List.flatMap_map ..).trans (List.flatMap_singleton' u)
  · exact List.flatMap_singleton _ _

/-- No name goes on over a dollar sign. -/
theorem Token.IsBoundedBy.of_append_dollar {t after : Text} {k : Token}
    (h : k.IsBoundedBy isNameChar (t ++ '$' :: after)) : k.IsBoundedBy isNameChar t := by
  obtain ⟨tail, heq, htail⟩ := h
  rcases List.append_eq_append_iff.mp heq with ⟨u, hname, hu⟩ | ⟨u, rfl, rfl⟩
  · rcases u with _ | ⟨d, u⟩
    · exact ⟨[], by simpa using hname.symm, nofun⟩
    · refine absurd ?_ k.not_mem_name
      rw [hname, (List.cons.inj hu).1]
      exact List.mem_append_right t List.mem_cons_self
  · refine ⟨u, rfl, fun c hc ↦ htail c ?_⟩
    rw [List.head?_append, hc]
    rfl

/-- Whatever stands in front of a dollar sign is read without it. -/
theorem exists_signs_append_dollar (before after : Text) :
    ∃ front, signs (before ++ '$' :: after) = front ++ signs ('$' :: after) ∧
      front.flatMap Sign.print = before := by
  induction before using signs_induction with
  | nil => exact ⟨[], rfl, rfl⟩
  | char c t hc ih =>
    obtain ⟨front, hfront, hprint⟩ := ih
    refine ⟨.char c :: front, ?_, congrArg (c :: ·) hprint⟩
    rw [List.cons_append, signs_cons hc, hfront, List.cons_append]
  | token k tail htail ih =>
    obtain ⟨front, hfront, hprint⟩ := ih
    have hstop : ∀ c, (tail ++ '$' :: after).head? = some c → Token.isNameChar c = false := by
      intro c hc
      rcases tail with _ | ⟨d, tail⟩
      · obtain rfl : '$' = c := Option.some_inj.mp hc
        decide
      · exact htail c hc
    refine ⟨.token k :: front, ?_, ?_⟩
    · rw [List.cons_append, List.append_assoc, signs_token k hstop, hfront, List.cons_append]
    · rw [List.flatMap_cons, hprint]
      rfl
  | dollar t hnone ih =>
    obtain ⟨front, hfront, hprint⟩ := ih
    refine ⟨.char '$' :: front, ?_, congrArg ('$' :: ·) hprint⟩
    rw [List.cons_append, signs_dollar fun k hk ↦ hnone k hk.of_append_dollar, hfront,
      List.cons_append]

/-- Two beginnings of one list of signs are the same if they are written alike. -/
private theorem eq_of_flatMap_print {front front' rest rest' : List Sign}
    (h : front ++ rest = front' ++ rest')
    (hprint : front.flatMap Sign.print = front'.flatMap Sign.print) : front = front' := by
  have hnil : ∀ ss : List Sign, ss.flatMap Sign.print = [] → ss = [] := by
    intro ss hss
    rcases ss with _ | ⟨s, ss⟩
    · rfl
    · exact absurd (List.append_eq_nil_iff.mp hss).1 s.print_ne_nil
  rcases List.append_eq_append_iff.mp h with ⟨more, rfl, -⟩ | ⟨more, rfl, -⟩
  · rw [List.flatMap_append, List.self_eq_append_right] at hprint
    rw [hnil more hprint, List.append_nil]
  · rw [List.flatMap_append, eq_comm, List.self_eq_append_right] at hprint
    rw [hnil more hprint, List.append_nil]

/-- What is read at a dollar sign does not depend on what stands in front of it. -/
theorem readAt_dollar_iff {before after : Text} {ss : List Sign} :
    ReadAt (before ++ '$' :: after) before ss ↔ ss <+: signs ('$' :: after) := by
  obtain ⟨front, hfront, hprint⟩ := exists_signs_append_dollar before after
  rw [ReadAt, hfront]
  constructor
  · rintro ⟨front', back, heq, hprint'⟩
    have hsame : front = front' := eq_of_flatMap_print heq (hprint.trans hprint'.symm)
    rw [hsame] at heq
    exact ⟨back, (List.append_cancel_left heq).symm⟩
  · rintro ⟨back, hback⟩
    exact ⟨front, back, by rw [hback], hprint⟩

variable {before after : Text} {k : Token}

theorem readAt_token_iff :
    ReadAt (before ++ '$' :: after) before [.token k] ↔ k.IsBoundedBy Token.isNameChar after := by
  rw [readAt_dollar_iff]
  constructor
  · intro h
    by_contra hk
    by_cases hother : ∃ k' : Token, k'.IsBoundedBy Token.isNameChar after
    · obtain ⟨k', tail, rfl, htail⟩ := hother
      rw [signs_token k' htail, List.cons_prefix_cons] at h
      obtain rfl : k = k' := Sign.token.inj h.1
      exact hk ⟨tail, rfl, htail⟩
    · rw [signs_dollar (not_exists.mp hother), List.cons_prefix_cons] at h
      exact Sign.noConfusion h.1
  · rintro ⟨tail, rfl, htail⟩
    rw [signs_token k htail]
    exact ⟨signs tail, rfl⟩

/-- Where no token is read, the dollar sign and what follows it stand for themselves, up to the next
dollar sign. -/
theorem readAt_literal {t rest : Text} (ht : '$' ∉ t)
    (h : ∀ k : Token, ¬k.IsBoundedBy Token.isNameChar (t ++ rest)) :
    ReadAt (before ++ '$' :: (t ++ rest)) before (('$' :: t).map .char) := by
  rw [readAt_dollar_iff, signs_dollar h, signs_append ht]
  exact ⟨signs rest, rfl⟩

/-! ## Lines with tokens -/

theorem Line.tokens_eq_flatMap_signs (raw : Text) :
    (Line.parse raw).tokens = (signs raw).flatMap fun
      | .char _ => []
      | .token k => [k] := by
  rw [Line.tokens_eq_flatMap, signs, List.flatMap_assoc]
  refine List.flatMap_congr fun s _ ↦ ?_
  rcases s with t | k
  · exact (List.flatMap_eq_nil_iff.mpr fun s hs ↦ by
      obtain ⟨c, -, rfl⟩ := List.mem_map.mp hs
      rfl).symm
  · rfl

theorem mem_tokens_parse_iff {raw : Text} : k ∈ (Line.parse raw).tokens ↔ .token k ∈ signs raw := by
  rw [Line.tokens_eq_flatMap_signs, List.mem_flatMap]
  constructor
  · rintro ⟨s, hs, hk⟩
    rcases s with c | k'
    · exact absurd hk List.not_mem_nil
    · rwa [List.mem_singleton.mp hk]
  · exact fun h ↦ ⟨.token k, h, List.mem_singleton_self k⟩

theorem hasTokens_parse_iff {raw : Text} :
    (Line.parse raw).hasTokens = true ↔ ∃ before after, raw = before ++ '$' :: after ∧
      ∃ k : Token, k.IsBoundedBy Token.isNameChar after := by
  rw [Line.hasTokens, decide_eq_true_eq]
  constructor
  · intro hne
    obtain ⟨k, hk⟩ := List.exists_mem_of_ne_nil _ hne
    obtain ⟨front, back, hsplit⟩ := List.append_of_mem (mem_tokens_parse_iff.mp hk)
    have hraw : raw = front.flatMap Sign.print ++ '$' :: (k.name ++ back.flatMap Sign.print) := by
      rw [← flatMap_print_signs raw, hsplit, List.flatMap_append, List.flatMap_cons]
      rfl
    have hread : ReadAt raw (front.flatMap Sign.print) [.token k] := ⟨front, back, hsplit, rfl⟩
    rw [hraw] at hread
    exact ⟨_, _, hraw, k, readAt_token_iff.mp hread⟩
  · rintro ⟨before, after, rfl, k, hk⟩
    obtain ⟨front, back, hsplit, -⟩ := readAt_token_iff.mpr hk
    refine List.ne_nil_of_mem (mem_tokens_parse_iff.mpr ?_ : k ∈ _)
    rw [hsplit]
    exact List.mem_append_right front List.mem_cons_self

/-! ## Names and words -/

/-- Whether a character goes on with the name as a word, but not as a name. -/
def Token.IsCutShort (word : Char → Bool) (k : Token) (t : Text) : Prop :=
  ∃ c rest, t = k.name ++ c :: rest ∧ word c = true ∧ Token.isNameChar c = false

/-- The names that are bounded as words are those that are read, unless one is cut short. -/
theorem forall_isBoundedBy_iff {word : Char → Bool}
    (hword : ∀ c, Token.isNameChar c = true → word c = true) {t : Text} :
    (∀ k : Token, k.IsBoundedBy Token.isNameChar t ↔ k.IsBoundedBy word t) ↔
      ∀ k : Token, ¬k.IsCutShort word t := by
  constructor
  · rintro h k ⟨c, rest, rfl, hc, hname⟩
    have hread : k.IsBoundedBy Token.isNameChar (k.name ++ c :: rest) := by
      refine ⟨c :: rest, rfl, fun d hd ↦ ?_⟩
      rwa [← Option.some_inj.mp hd]
    obtain ⟨tail, heq, hstop⟩ := (h k).mp hread
    rw [← List.append_cancel_left heq] at hstop
    rw [hstop c rfl] at hc
    exact Bool.noConfusion hc
  · intro h k
    constructor
    · rintro ⟨tail, rfl, hstop⟩
      refine ⟨tail, rfl, fun c hc ↦ ?_⟩
      obtain ⟨rest, rfl⟩ := List.head?_eq_some_iff.mp hc
      by_contra hgoes
      rw [Bool.not_eq_false] at hgoes
      exact h k ⟨c, rest, rfl, hgoes, hstop c rfl⟩
    · rintro ⟨tail, rfl, hstop⟩
      refine ⟨tail, rfl, fun c hc ↦ ?_⟩
      by_contra hgoes
      rw [Bool.not_eq_false] at hgoes
      have hmore := hword c hgoes
      rw [hstop c hc] at hmore
      exact Bool.noConfusion hmore

/-- **Where tokens are read.** At a dollar sign a token is read exactly if its name stands behind
it and no name character goes on with the name. Everywhere else the dollar sign and the text behind
it stand for themselves. So a line has tokens exactly if some dollar sign has a name behind it that
ends there, whatever word the name begins. The names that end there are those that end there as
words if, and only if, no name is cut short. -/
theorem readAt_dollar_spec (word : Char → Bool)
    (hword : ∀ c, Token.isNameChar c = true → word c = true) (line : Text) :
    (∀ before after, line = before ++ '$' :: after →
      (∀ k, ReadAt line before [.token k] ↔ k.IsBoundedBy Token.isNameChar after) ∧
      (∀ t rest, after = t ++ rest → '$' ∉ t → (∀ k, ¬ReadAt line before [.token k]) →
        ReadAt line before (('$' :: t).map .char)) ∧
      ((∀ k, ReadAt line before [.token k] ↔ k.IsBoundedBy word after) ↔
        ∀ k : Token, ¬k.IsCutShort word after)) ∧
    ((Line.parse line).hasTokens = true ↔ ∃ before after, line = before ++ '$' :: after ∧
      ∃ k : Token, k.IsBoundedBy Token.isNameChar after) := by
  refine ⟨?_, hasTokens_parse_iff⟩
  rintro before after rfl
  refine ⟨fun k ↦ readAt_token_iff, ?_, ?_⟩
  · rintro t rest rfl ht hnone
    exact readAt_literal ht fun k hk ↦ hnone k (readAt_token_iff.mpr hk)
  · simp only [readAt_token_iff]
    exact forall_isBoundedBy_iff hword

theorem Token.isWordChar_of_isNameChar {c : Char} (h : Token.isNameChar c = true) :
    Token.isWordChar c = true := by
  simp only [isNameChar, isWordChar, Text.isAlphanumeric, Text.isLetter, Bool.or_eq_true] at h ⊢
  tauto

theorem Token.isCutShort_port (rest : Text) :
    Token.port.IsCutShort Token.isWordChar ("PORTx" ++ rest) :=
  ⟨'x', rest, rfl, by decide, by decide⟩

/-- In one line the first name is cut short, and the second is not. -/
theorem readAt_dollar_spec_variable :
    (∀ c, Token.isNameChar c = true → Token.isWordChar c = true) ∧
    ReadAt "echo $PORTx $SRC" "echo $PORTx " [.token .src] ∧
    ¬∀ k : Token, ReadAt "echo $PORTx $SRC" "echo " [.token k] ↔
      k.IsBoundedBy Token.isWordChar "PORTx $SRC" := by
  have hword : ∀ c, Token.isNameChar c = true → Token.isWordChar c = true :=
    fun _ ↦ Token.isWordChar_of_isNameChar
  have hline := (readAt_dollar_spec Token.isWordChar hword "echo $PORTx $SRC").1
  refine ⟨hword, ((hline "echo $PORTx " "SRC" rfl).1 .src).mpr ⟨[], rfl, by simp⟩, fun h ↦ ?_⟩
  exact (hline "echo " "PORTx $SRC" rfl).2.2.mp h .port (Token.isCutShort_port " $SRC")

/-- The name of the variable begins with the name of a token, which does not end there as a word.
The token is read all the same, and the line has tokens. -/
theorem readAt_port_of_variable :
    ReadAt "echo $PORTx" "echo " [.token .port] ∧
    (∃ c rest, ("PORTx" : Text) = Token.port.name ++ c :: rest ∧ Token.isWordChar c = true) ∧
    ¬Token.port.IsBoundedBy Token.isWordChar "PORTx" ∧
    (Line.parse "echo $PORTx").hasTokens = true := by
  have hbounded : Token.port.IsBoundedBy Token.isNameChar "PORTx" := by
    refine ⟨"x", rfl, fun c hc ↦ ?_⟩
    rw [← Option.some_inj.mp hc]
    decide
  have hread : ReadAt (("echo " : Text) ++ '$' :: "PORTx") "echo " [.token .port] :=
    readAt_token_iff.mpr hbounded
  refine ⟨hread, ⟨'x', [], rfl, by decide⟩, ?_,
    hasTokens_parse_iff.mpr ⟨"echo ", "PORTx", rfl, .port, hbounded⟩⟩
  rintro ⟨tail, heq, hstop⟩
  have htail : Token.port.name ++ "x" = Token.port.name ++ tail := heq
  obtain rfl : ("x" : Text) = tail := List.append_cancel_left htail
  exact absurd (hstop 'x' rfl) (by decide)

end PacketFilter.Template
