import PacketFilter.Proofs.Template.Boundary
import PacketFilter.Proofs.Template.Emission
import Mathlib.Data.List.Chain

/-!
# A line is read once and filled in once

`Reads` is what it means to go through a line from left to right: at a dollar sign a token is taken
if its name stands there in full, and everything else stands for itself. What was read is left
behind, so every character of the line is used once, and there is one way to read a line.

The segments of a line are that reading, with the characters between two tokens put together. They
are the only such list: what is literal in a line is cut at its tokens and nowhere else
(`segments_eq_iff`). The values of the tokens come in after the reading. A dollar sign in a value is
therefore a character like any other, even if the name of a token stands behind it.

What is filled in is then squeezed. Squeezing was defined by the words of a text; here it is shown
to do what its name says, character by character, as `collapse` does.
-/

namespace PacketFilter

/-! ## Squeezing -/

namespace Text

/-- Every run of blanks becomes one space. -/
def collapse : Text → Text
  | [] => []
  | c :: t =>
    if isBlank c then if t.head?.any isBlank then collapse t else ' ' :: collapse t
    else c :: collapse t

variable {c : Char} {t : Text}

theorem collapse_cons_of_not (hc : isBlank c = false) (t : Text) :
    collapse (c :: t) = c :: collapse t := by rw [collapse, if_neg (by simp [hc])]

/-- A run of blanks ends where no blank follows. -/
theorem collapse_cons_of_isBlank (hc : isBlank c = true) (t : Text) :
    collapse (c :: t) = if t.head?.any isBlank then collapse t else ' ' :: collapse t := by
  rw [collapse, if_pos hc]

theorem trimEnd_cons (c : Char) (t : Text) :
    trimEnd (c :: t) = if trimEnd t = [] then trimEnd [c] else c :: trimEnd t := by
  have hnil : (t.reverse.dropWhile isBlank).isEmpty = true ↔ trimEnd t = [] := by
    rw [List.isEmpty_iff, trimEnd, List.reverse_eq_nil_iff]
  rw [trimEnd, List.reverse_cons, List.dropWhile_append]
  by_cases h : trimEnd t = []
  · rw [if_pos h, if_pos (hnil.mpr h)]
    rfl
  · rw [if_neg h, if_neg (hnil.not.mpr h), List.reverse_append]
    rfl

theorem trimEnd_cons_of_not (hc : isBlank c = false) (t : Text) :
    trimEnd (c :: t) = c :: trimEnd t := by
  have hone : trimEnd [c] = [c] := List.rdropWhile_concat_neg isBlank [] c (by simp [hc])
  rw [trimEnd_cons]
  split
  · rename_i h
    rw [hone, h]
  · rfl

/-- The words of a text, each behind a space. -/
def spaced (t : Text) : Text := (words t).flatMap (' ' :: ·)

theorem words_cons_of_isBlank (hc : isBlank c = true) (t : Text) : words (c :: t) = words t := by
  have hgap : ∀ a ∈ [c], isBlank a = true := fun a ha ↦ List.mem_singleton.mp ha ▸ hc
  exact words_append_of_isBlank hgap t

theorem squeeze_cons_of_isBlank (hc : isBlank c = true) (t : Text) :
    squeeze (c :: t) = squeeze t := by rw [squeeze, words_cons_of_isBlank hc, squeeze]

theorem squeeze_append {w u : Text} (hw : Solid w) (hu : ∀ a ∈ u.head?, isBlank a = true) :
    squeeze (w ++ u) = w ++ spaced u := by
  rw [squeeze, words_append_of_head? hw hu, joinWith_cons]
  rfl

/-- Squeezing goes on with the word that a text starts with. -/
theorem squeeze_cons_of_not (hc : isBlank c = false) (ht : ∀ a ∈ t.head?, isBlank a = false) :
    squeeze (c :: t) = c :: squeeze t := by
  obtain ⟨w, u, rfl, hw, hu⟩ := exists_span (!isBlank ·) t
  have hword : ∀ a ∈ w, isBlank a = false := fun a ha ↦ by simpa using hw a ha
  have hgap : ∀ a ∈ u.head?, isBlank a = true := fun a ha ↦ by simpa using hu a ha
  have hlonger : Solid (c :: w) := ⟨List.cons_ne_nil c w, List.forall_mem_cons.mpr ⟨hc, hword⟩⟩
  rw [← List.cons_append, squeeze_append hlonger hgap]
  cases w with
  | cons d w => rw [squeeze_append ⟨List.cons_ne_nil d w, hword⟩ hgap, List.cons_append]
  | nil =>
    -- No word and no blank follows, so nothing does.
    cases u with
    | nil => rfl
    | cons a u => exact absurd ((hgap a rfl).symm.trans (ht a rfl)) (by decide)

theorem trimEnd_space_cons {u : Text} (h : trimEnd u = squeeze t) :
    trimEnd (' ' :: u) = spaced t := by
  rw [trimEnd_cons, h, squeeze, spaced]
  cases hw : words t with
  | nil => rfl
  | cons w ws =>
    have hne : joinWith " " (w :: ws) ≠ [] := by
      rw [joinWith_cons]
      exact List.append_ne_nil_of_left_ne_nil
        (solid_of_mem_words (hw ▸ List.mem_cons_self)).1 _
    rw [if_neg hne, joinWith_cons]
    rfl

/-- What is left behind the first blanks of a text is squeezed. If there were any, they have become
a space in front of the first word. -/
theorem trimEnd_collapse (t : Text) :
    trimEnd (collapse t) = if t.head?.any isBlank then spaced t else squeeze t := by
  induction t with
  | nil => rfl
  | cons c t ih =>
    rw [List.head?_cons, Option.any_some]
    cases hc : isBlank c with
    | true =>
      have hspaced : spaced (c :: t) = spaced t := by rw [spaced, words_cons_of_isBlank hc, spaced]
      rw [if_pos rfl, hspaced, collapse_cons_of_isBlank hc]
      cases ht : t.head?.any isBlank with
      | true => rwa [ht] at ih
      | false =>
        rw [ht] at ih
        exact trimEnd_space_cons ih
    | false =>
      rw [if_neg Bool.false_ne_true, collapse_cons_of_not hc, trimEnd_cons_of_not hc, ih]
      cases ht : t.head?.any isBlank with
      | true =>
        have hone : Solid [c] := ⟨List.cons_ne_nil c [], by simpa using hc⟩
        have hgap : ∀ a ∈ t.head?, isBlank a = true := by
          intro a ha
          rwa [Option.mem_def.mp ha] at ht
        exact (squeeze_append hone hgap).symm
      | false =>
        refine (squeeze_cons_of_not hc fun a ha ↦ ?_).symm
        rwa [Option.mem_def.mp ha] at ht

/-- Squeezing a text leaves one space of every run of blanks inside it, and none at its ends. -/
theorem squeeze_eq_trim_collapse (t : Text) : squeeze t = trim (collapse t) := by
  induction t with
  | nil => rfl
  | cons c t ih =>
    cases hc : isBlank c with
    | true =>
      rw [squeeze_cons_of_isBlank hc, ih, collapse_cons_of_isBlank hc]
      split
      · rfl
      · have hspace : ∀ a ∈ [' '], isBlank a = true := List.all_eq_true.mp rfl
        exact (trim_isBlank_append hspace _).symm
    | false =>
      have hstart : trimStart (collapse (c :: t)) = collapse (c :: t) := by
        rw [collapse_cons_of_not hc]
        exact List.dropWhile_cons_of_neg (by simp [hc])
      rw [trim, hstart, trimEnd_collapse, List.head?_cons, Option.any_some, hc,
        if_neg Bool.false_ne_true]

end Text

namespace Template

/-! ## One reading from left to right -/

/-- A line is read as certain signs, from left to right and each character once. -/
inductive Reads : Text → List Sign → Prop where
  | nil : Reads [] []
  | char {c : Char} {t : Text} {ss : List Sign} : c ≠ '$' → Reads t ss →
      Reads (c :: t) (.char c :: ss)
  /-- A token is read where its name stands and no character of names goes on with it. -/
  | token {k : Token} {tail : Text} {ss : List Sign} :
      (∀ c, tail.head? = some c → Token.isNameChar c = false) → Reads tail ss →
      Reads ('$' :: (k.name ++ tail)) (.token k :: ss)
  /-- Any other dollar sign stands for itself. -/
  | dollar {t : Text} {ss : List Sign} : (∀ k : Token, ¬k.IsBoundedBy Token.isNameChar t) →
      Reads t ss → Reads ('$' :: t) (.char '$' :: ss)

variable {t : Text} {ss : List Sign}

theorem Reads.signs_eq (h : Reads t ss) : signs t = ss := by
  induction h with
  | nil => rfl
  | char hc _ ih => rw [signs_cons hc, ih]
  | token htail _ ih => rw [signs_token _ htail, ih]
  | dollar hnone _ ih => rw [signs_dollar hnone, ih]

theorem reads_signs (t : Text) : Reads t (signs t) := by
  induction t using signs_induction with
  | nil => exact .nil
  | char c t hc ih =>
    rw [signs_cons hc]
    exact .char hc ih
  | token k tail htail ih =>
    rw [signs_token k htail]
    exact .token htail ih
  | dollar t hnone ih =>
    rw [signs_dollar hnone]
    exact .dollar hnone ih

theorem reads_iff : Reads t ss ↔ signs t = ss :=
  ⟨Reads.signs_eq, fun h ↦ h ▸ reads_signs t⟩

/-! ## Segments of a reading -/

/-- Whether the sign is a character. -/
def Sign.isChar : Sign → Bool
  | char _ => true
  | token _ => false

namespace Segment

/-- Whether the segment is literal text. -/
def isText : Segment → Bool
  | text _ => true
  | token _ => false

/-- Segments of which none is empty text and no two neighbours are both text. -/
structure IsReduced (ss : List Segment) : Prop where
  ne_nil : ∀ t, .text t ∈ ss → t ≠ []
  apart : ss.IsChain fun s s' ↦ ¬(s.isText = true ∧ s'.isText = true)

variable {s : Segment} {rest ss ss' : List Segment}

@[simp] theorem isReduced_nil : IsReduced [] := ⟨fun _ ht ↦ absurd ht List.not_mem_nil, .nil⟩

theorem isReduced_cons : IsReduced (s :: rest) ↔
    s ≠ .text [] ∧ (s.isText = true → ∀ s' ∈ rest.head?, s'.isText = false) ∧ IsReduced rest := by
  constructor
  · intro h
    obtain ⟨hhead, htail⟩ := List.isChain_cons.mp h.apart
    refine ⟨?_, fun hs s' hs' ↦ ?_, fun t ht ↦ h.ne_nil t (List.mem_cons_of_mem s ht), htail⟩
    · rintro rfl
      exact h.ne_nil [] List.mem_cons_self rfl
    · exact Bool.eq_false_iff.mpr fun htext ↦ hhead s' hs' ⟨hs, htext⟩
  · rintro ⟨hs, hhead, hrest⟩
    refine ⟨fun t ht ↦ ?_, List.isChain_cons.mpr ⟨fun s' hs' ⟨htext, htext'⟩ ↦ ?_, hrest.apart⟩⟩
    · rcases List.mem_cons.mp ht with rfl | ht
      · rintro rfl
        exact hs rfl
      · exact hrest.ne_nil t ht
    · rw [hhead htext s' hs'] at htext'
      cases htext'

theorem IsReduced.push (h : IsReduced rest) (s : Segment) : IsReduced (push s rest) := by
  cases s with
  | token k => exact isReduced_cons.mpr ⟨nofun, nofun, h⟩
  | text t =>
    cases t with
    | nil => exact h
    | cons c t =>
      cases rest with
      | nil => exact isReduced_cons.mpr ⟨nofun, fun _ _ ↦ nofun, h⟩
      | cons r rest =>
        cases r with
        | token k =>
          refine isReduced_cons.mpr ⟨nofun, fun _ s' hs' ↦ ?_, h⟩
          rw [← Option.some_inj.mp hs']
          rfl
        | text u =>
          obtain ⟨-, hhead, hrest⟩ := isReduced_cons.mp h
          exact isReduced_cons.mpr ⟨nofun, fun _ ↦ hhead rfl, hrest⟩

theorem isReduced_foldr_push (ss : List Segment) : IsReduced (ss.foldr push []) := by
  induction ss with
  | nil => exact isReduced_nil
  | cons s ss ih => exact ih.push s

theorem isReduced_segments (line : Text) : IsReduced (segments line) := by
  rw [segments]
  split
  · exact isReduced_nil
  · exact isReduced_foldr_push _

/-- A literal segment holds all characters up to the next token. -/
theorem IsReduced.takeWhile_signs {t : Text} (h : IsReduced (text t :: rest)) :
    ((text t :: rest).flatMap signs).takeWhile Sign.isChar = t.map .char := by
  have hchars : ∀ x ∈ t.map Sign.char, x.isChar = true := by
    rw [List.forall_mem_map]
    exact fun _ _ ↦ rfl
  have hstop : (rest.flatMap signs).takeWhile Sign.isChar = [] := by
    cases rest with
    | nil => rfl
    | cons s rest =>
      cases s with
      | token k => rfl
      | text u => exact absurd ((isReduced_cons.mp h).2.1 rfl (text u) rfl) nofun
  rw [List.flatMap_cons]
  show (t.map Sign.char ++ _).takeWhile _ = _
  rw [List.takeWhile_append_of_pos hchars, hstop, List.append_nil]

theorem signs_ne_nil (h : s ≠ text []) : s.signs ≠ [] := by
  cases s with
  | token k => exact List.cons_ne_nil _ _
  | text t => exact fun hnil ↦ h (congrArg text (List.map_eq_nil_iff.mp hnil))

theorem IsReduced.eq_of_signs_eq (h : IsReduced ss) (h' : IsReduced ss')
    (heq : ss.flatMap signs = ss'.flatMap signs) : ss = ss' := by
  induction ss generalizing ss' with
  | nil =>
    cases ss' with
    | nil => rfl
    | cons s' ss' =>
      exact absurd (List.append_eq_nil_iff.mp heq.symm).1 (signs_ne_nil (isReduced_cons.mp h').1)
  | cons s ss ih =>
    cases ss' with
    | nil => exact absurd (List.append_eq_nil_iff.mp heq).1 (signs_ne_nil (isReduced_cons.mp h).1)
    | cons s' ss' =>
      obtain ⟨hs, -, hrest⟩ := isReduced_cons.mp h
      obtain ⟨hs', -, hrest'⟩ := isReduced_cons.mp h'
      have hsame : s = s' := by
        -- The two lists of signs start with the same token or with the same characters.
        have hlead := congrArg (List.takeWhile Sign.isChar) heq
        cases s with
        | token k =>
          cases s' with
          | token k' => rw [Sign.token.inj (List.cons.inj heq).1]
          | text t' =>
            rw [h'.takeWhile_signs] at hlead
            exact absurd (congrArg text (List.map_eq_nil_iff.mp hlead.symm)) hs'
        | text t =>
          rw [h.takeWhile_signs] at hlead
          cases s' with
          | token k' => exact absurd (congrArg text (List.map_eq_nil_iff.mp hlead)) hs
          | text t' =>
            rw [h'.takeWhile_signs] at hlead
            rw [List.map_injective_iff.mpr (fun _ _ ↦ Sign.char.inj) hlead]
      subst hsame
      rw [ih hrest hrest' (List.append_cancel_left heq)]

end Segment

/-- The segments of a line are its reading, with neighbouring characters put together. -/
theorem segments_eq_iff {ss : List Segment} :
    segments t = ss ↔ Segment.IsReduced ss ∧ Reads t (ss.flatMap Segment.signs) := by
  rw [reads_iff]
  constructor
  · rintro rfl
    exact ⟨Segment.isReduced_segments t, rfl⟩
  · rintro ⟨hreduced, hsigns⟩
    exact (Segment.isReduced_segments t).eq_of_signs_eq hreduced hsigns

/-! ## Filling in -/

/-- What is written for a sign: the character, or the value of the token. -/
def Sign.fill (value : Token → Text) : Sign → Text
  | char c => [c]
  | token k => value k

theorem flatMap_fill_segments (c : Context) (family : Option Family) (port : Option Port)
    (t : Text) : (segments t).flatMap (c.fill family port) =
      (signs t).flatMap (Sign.fill (c.value family port)) := by
  rw [signs, List.flatMap_assoc]
  refine List.flatMap_congr fun s _ ↦ ?_
  cases s with
  | text u => exact ((List.flatMap_map ..).trans (List.flatMap_singleton' u)).symm
  | token k => exact (List.flatMap_singleton _ _).symm

namespace Line

variable {c : Context} {family : Option Family} {port : Option Port}

theorem hasTokens_iff {l : Line} : l.hasTokens = true ↔ ∃ k, .token k ∈ l.segments := by
  constructor
  · intro h
    obtain ⟨k, hk⟩ := List.exists_mem_of_ne_nil _ (of_decide_eq_true h)
    exact ⟨k, of_decide_eq_true (has_iff.mpr hk)⟩
  · rintro ⟨k, hk⟩
    exact hasTokens_of_mem (has_iff.mp (decide_eq_true hk))

theorem substitute_of_reads {raw : Text} (h : ∃ k, .token k ∈ (Line.parse raw).segments)
    {ss : List Sign} (hss : Reads raw ss) :
    (Line.parse raw).substitute c family port =
      Text.trim (Text.collapse (ss.flatMap (Sign.fill (c.value family port)))) := by
  rw [substitute, if_pos (hasTokens_iff.mpr h), Text.squeeze_eq_trim_collapse, ← hss.signs_eq]
  exact congrArg _ (congrArg _ (flatMap_fill_segments c family port raw))

/-- A line without tokens loses the blanks at its end and nothing else. -/
theorem exists_substitute_append {raw : Text} (h : ∀ k, .token k ∉ (Line.parse raw).segments) :
    ∃ gap, raw = (Line.parse raw).substitute c family port ++ gap ∧
      (∀ a ∈ gap, Text.isBlank a = true) ∧
      ∀ a ∈ ((Line.parse raw).substitute c family port).getLast?, Text.isBlank a = false := by
  have hnone : (Line.parse raw).hasTokens = false :=
    Bool.eq_false_iff.mpr fun htokens ↦ not_exists.mpr h (hasTokens_iff.mp htokens)
  have hsubstitute : (Line.parse raw).substitute c family port = Text.trimEnd raw := by
    rw [substitute, hnone, if_neg Bool.false_ne_true]
    rfl
  obtain ⟨gap, hgap, hblank⟩ := Text.exists_trimEnd_append raw
  rw [hsubstitute]
  exact ⟨gap, hgap, hblank, Text.not_isBlank_of_getLast?_trimEnd raw⟩

/-- **A line loses nothing and is filled in once.** Written out again, the segments of a line are
the line. None of them is empty text and no two neighbours are both text, and of all such lists they
are the one that a single reading of the line from left to right gives. For every context, family
and port, a line with a token becomes what was read with the value in place of each token, once runs
of blanks are single spaces and the ends are trimmed. The values are no part of what was read, so
the name of a token in a chain or a device stays as it is. A line without tokens loses the blanks at
its end and no more. -/
theorem parse_read_once (raw : Text) :
    (Line.parse raw).segments.flatMap Segment.print = raw ∧
    (∀ t, .text t ∈ (Line.parse raw).segments → t ≠ []) ∧
    (Line.parse raw).segments.IsChain (fun s s' ↦ ¬(s.isText = true ∧ s'.isText = true)) ∧
    (∀ ss, Segment.IsReduced ss →
      (Reads raw (ss.flatMap Segment.signs) ↔ (Line.parse raw).segments = ss)) ∧
    ∀ (c : Context) (family : Option Family) (port : Option Port),
      ((∃ k, .token k ∈ (Line.parse raw).segments) → ∀ ss, Reads raw ss →
        (Line.parse raw).substitute c family port =
          Text.trim (Text.collapse (ss.flatMap (Sign.fill (c.value family port))))) ∧
      ((∀ k, .token k ∉ (Line.parse raw).segments) →
        ∃ gap, raw = (Line.parse raw).substitute c family port ++ gap ∧
          (∀ a ∈ gap, Text.isBlank a = true) ∧
          ∀ a ∈ ((Line.parse raw).substitute c family port).getLast?, Text.isBlank a = false) := by
  have hreduced : Segment.IsReduced (Line.parse raw).segments := Segment.isReduced_segments raw
  refine ⟨flatMap_print_segments raw, hreduced.ne_nil, hreduced.apart, fun ss hss ↦ ?_,
    fun c family port ↦ ⟨fun htoken ss hss ↦ ?_, exists_substitute_append⟩⟩
  · exact ⟨fun hreads ↦ segments_eq_iff.mpr ⟨hss, hreads⟩, fun h ↦ (segments_eq_iff.mp h).2⟩
  · exact substitute_of_reads htoken hss

/-- Two tokens side by side, one that runs into a letter, and two dollar signs that are none. -/
private def crowdedLine : Text := "  $IPTABLES -A $CHAIN $DEV\t-p $PROTOx $HOME $$PORT$SRC "

/-- The chain and the interface are called like tokens. -/
private def deceptive : Context where
  direction := .incoming
  chain := "$SRC"
  device := some "$PORT"

/-- The names of tokens that come in as values are still there. -/
theorem parse_read_once_deceptive :
    (∃ k, .token k ∈ (Line.parse crowdedLine).segments) ∧
    (Line.parse crowdedLine).substitute deceptive (some .v6) (some ⟨22, .tcp⟩) =
      "/sbin/ip6tables -A $SRC --in-interface $PORT -p tcpx $HOME $22" ∧
    (∀ k, .token k ∉ (Line.parse " echo  $HOME\t").segments) ∧
    ∃ gap, " echo  $HOME\t" =
      (Line.parse " echo  $HOME\t").substitute deceptive none none ++ gap := by
  have htoken : ∃ k, .token k ∈ (Line.parse crowdedLine).segments := ⟨.chain, by decide⟩
  have hnone : ∀ k, .token k ∉ (Line.parse " echo  $HOME\t").segments := by
    intro k
    cases k <;> decide
  have hreads : Reads crowdedLine ((Line.parse crowdedLine).segments.flatMap Segment.signs) :=
    reads_signs crowdedLine
  obtain ⟨-, -, -, -, hfilled⟩ := parse_read_once crowdedLine
  obtain ⟨gap, hgap, -⟩ := ((parse_read_once " echo  $HOME\t").2.2.2.2 deceptive none none).2 hnone
  refine ⟨htoken, ?_, hnone, gap, hgap⟩
  rw [(hfilled deceptive (some .v6) (some ⟨22, .tcp⟩)).1 htoken _ hreads]
  decide

end Line

end Template
end PacketFilter
