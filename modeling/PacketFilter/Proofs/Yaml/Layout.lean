import PacketFilter.Proofs.Yaml.Scanner

/-!
# Tokens of mappings

A mapping is written entry by entry. The invariant between two entries is that the scanner stands at
the next key with no key pending, and that the tokens so far are those of the entries so far. It is
the same between the items of a sequence, whose hyphens stand at the column of the keys.

The first key of a mapping stands right of the margin and opens it. The mappings that are open at
the end of the text are closed there, one token for each.
-/

namespace PacketFilter.Yaml

variable {t z key : Text} {i l k n m indent : Nat} {o : List Nat} {toks : List Token}

/-! ## Texts and tokens of values -/

/-- An item of a sequence, with the indentation before it. -/
def itemText (indent : Nat) (t : Text) : Text :=
  indentation indent ++ '-' :: ' ' :: writeScalar (indent + 2) t

/-- What is written behind the colon of a key. -/
def valueText (indent : Nat) : Value → Text
  | .null => " null\n"
  | .number n => ' ' :: Text.decimal n ++ ['\n']
  | .text t => ' ' :: writeScalar (indent + 2) t
  | .texts [] => " []\n"
  | .texts ts => '\n' :: ts.flatMap (itemText indent)

theorem writeEntry_eq (indent : Nat) (key : Text) (v : Value) :
    writeEntry indent key v = indentation indent ++ (key ++ ':' :: valueText indent v) := by
  cases v with
  | null => simp [writeEntry, valueText]
  | number n => simp [writeEntry, valueText]
  | text t => simp [writeEntry, valueText]
  | texts ts =>
    cases ts with
    | nil => simp [writeEntry, valueText]
    | cons t ts =>
      simp only [writeEntry, valueText, List.flatMap_cons, itemText]
      simp
      rfl

/-- A text in its style. -/
def textToken (t : Text) : Token := .scalar t (styleOf t)

/-- The tokens of a value. -/
def valueTokens : Value → List Token
  | .null => [.scalar "null" .plain]
  | .number n => [.scalar (Text.decimal n) .plain]
  | .text t => [textToken t]
  | .texts [] => [.flowSequence, .flowSequenceEnd]
  | .texts ts => ts.flatMap fun t ↦ [.item, textToken t]

/-- The tokens of the entries of a mapping. -/
def entryTokens (entries : List (Text × Value)) : List Token :=
  entries.flatMap fun (key, v) ↦ [.key, .scalar key .plain, .value] ++ valueTokens v

/-- The entries of a mapping, from the first key on. The further ones have their indentation before
them. -/
def entriesText (indent : Nat) (key : Text) (v : Value) (entries : List (Text × Value)) : Text :=
  key ++ ':' :: (valueText indent v ++ writeMapping indent entries)

/-! ## Values -/

theorem isWord_decimal (n : Nat) : IsWord (Text.decimal n) := by
  refine ⟨Nat.toDigits_ne_nil, fun c hc ↦ ?_⟩
  obtain ⟨d, hd, rfl⟩ := Text.exists_digitChar_of_mem_toDigits (by decide) hc
  have hdigits : ∀ d < 10, (Text.isAlphanumeric d.digitChar || d.digitChar == '_') = true := by
    decide
  exact hdigits d hd

namespace Scanner

theorem leads_item (y : Text) (toks : List Token) (o : List Nat) (i l k : Nat) :
    Leads (between toks (k + 1) o true ⟨'-' :: ' ' :: y, i, l, k⟩)
      (between (.item :: toks) (k + 1) o true ⟨' ' :: y, i + 1, l, k + 1⟩) := by
  have hstarts : StartsToken ('-' :: ' ' :: y) := startsToken_cons (by decide) _
  have hmark : Cursor.isAtMark '-' ⟨'-' :: ' ' :: y, i, l, k⟩ = false := by
    cases y <;> simp [Cursor.isAtMark]
  have hend : Cursor.isAtMark '.' ⟨'-' :: ' ' :: y, i, l, k⟩ = false :=
    Cursor.isAtMark_of_head? (by simp)
  have htoken : token? (between toks (k + 1) o true ⟨'-' :: ' ' :: y, i, l, k⟩) '-' =
      some (between (.item :: toks) (k + 1) o true ⟨' ' :: y, i + 1, l, k + 1⟩) := by
    have hitem : token? (between toks (k + 1) o true ⟨'-' :: ' ' :: y, i, l, k⟩) '-' =
        item? (between toks (k + 1) o true ⟨'-' :: ' ' :: y, i, l, k⟩) := by
      rw [token?]
      simp [between, hmark, hend, Cursor.second?, endsWord_space]
    rw [hitem]
    simp [item?, between, rollHere, roll, inFlow, dropPlace?, take, push, Cursor.advance]
  exact leads_of_spaces (n := 0) hstarts rfl (Nat.le_refl _) htoken (Nat.lt_succ_self _)

theorem leads_noItems (hz : StartsToken z) (hm : m ≤ k + 1) (n : Nat) (toks : List Token)
    (o : List Nat) (i l : Nat) :
    ∃ i' l', Leads (between toks m o false
        ⟨' ' :: '[' :: ']' :: '\n' :: (List.replicate n ' ' ++ z), i, l, k⟩)
      (between (.flowSequenceEnd :: .flowSequence :: toks) m o true ⟨z, i', l', n⟩) := by
  set line : Text := '\n' :: (List.replicate n ' ' ++ z) with hline
  set s : Scanner := { between (.flowSequence :: toks) m o true
    ⟨']' :: line, i + 1 + 1, l, k + 1 + 1⟩ with outerPlaces := [none] } with hs
  have hstarts : StartsToken ('[' :: ']' :: line) := startsToken_cons (by decide) _
  have hmark : ∀ mark z i l k, Cursor.isAtMark mark ⟨z, i, l, k + 1⟩ = false :=
    fun mark z i l k ↦ Cursor.isAtMark_of_column (Nat.succ_pos k) mark
  have hopen : token? (between toks m o false ⟨'[' :: ']' :: line, i + 1, l, k + 1⟩) '[' =
      some s := by
    rw [token?]
    simp [between, hmark, openFlow?, savePlace?, take, push, Cursor.advance, hs]
  have hsettle : settle? s = some s := by
    simp [settle?, toNext, hs, between, inFlow, skipSpace, Cursor.skipWhile, Cursor.span,
      Cursor.advance, Cursor.head?, refresh?, refreshPlace, isBreak]
  have hclose : token? s ']' = some (between (.flowSequenceEnd :: .flowSequence :: toks) m o false
      ⟨line, i + 1 + 1 + 1, l, k + 1 + 1 + 1⟩) := by
    rw [token?]
    simp [between, hmark, closeFlow?, dropPlace?, take, push, Cursor.advance, hs]
  have hunroll : unroll s s.cursor.column = s := rfl
  refine ⟨_, _, (leads_of_spaces (n := 1) hstarts rfl (by omega) hopen (Nat.lt_succ_self _)).trans
    ((leads_of_token? hsettle hunroll rfl hclose (Nat.lt_succ_self _)).trans
      (leads_break hz _ m o false n _ l _))⟩

theorem leads_items (hz : StartsToken z) (hn : n ≤ indent) (t : Text) (ts : List Text)
    (toks : List Token) (o : List Nat) (i l : Nat) :
    ∃ i' l', Leads (between toks (indent + 1) o true
        ⟨'-' :: ' ' :: (writeScalar (indent + 2) t ++ (ts.flatMap (itemText indent) ++
          (List.replicate n ' ' ++ z))), i, l, indent⟩)
      (between (((t :: ts).flatMap fun t ↦ [.item, textToken t]).reverse ++ toks) (indent + 1) o
        true ⟨z, i', l', n⟩) := by
  induction ts generalizing t toks i l with
  | nil =>
    obtain ⟨i', l', hscalar⟩ := leads_scalar t hz (Nat.lt_succ_of_le hn) (Nat.le_succ (indent + 1))
      (.item :: toks) o true (i + 1) l
    exact ⟨i', l', (leads_item _ toks o i l indent).trans hscalar⟩
  | cons u ts ih =>
    have hstarts : StartsToken ('-' :: ' ' :: (writeScalar (indent + 2) u ++
        (ts.flatMap (itemText indent) ++ (List.replicate n ' ' ++ z)))) :=
      startsToken_cons (by decide) _
    obtain ⟨i', l', hscalar⟩ := leads_scalar t hstarts (Nat.lt_succ_self indent)
      (Nat.le_succ (indent + 1)) (.item :: toks) o true (i + 1) l
    obtain ⟨i'', l'', hrest⟩ := ih u (textToken t :: .item :: toks) i' l'
    refine ⟨i'', l'', ?_⟩
    have hall := (leads_item _ toks o i l indent).trans (hscalar.trans hrest)
    simpa [itemText, indentation] using hall

/-- **A value is read back**, together with the indentation of the next line. -/
theorem leads_value (v : Value) (hz : StartsToken z) (hn : n ≤ indent) (hk : indent ≤ k)
    (toks : List Token) (o : List Nat) (i l : Nat) :
    ∃ i' l', Leads (between toks (indent + 1) o false
        ⟨valueText indent v ++ (List.replicate n ' ' ++ z), i, l, k⟩)
      (between ((valueTokens v).reverse ++ toks) (indent + 1) o true ⟨z, i', l', n⟩) := by
  have hm : indent + 1 ≤ k + 1 := Nat.succ_le_succ hk
  cases v with
  | null =>
    have hword : IsWord "null" := by decide
    exact leads_plain hword.plainText hz (Nat.lt_succ_of_le hn) hm toks o false i l
  | number n' =>
    have hplain := leads_plain (isWord_decimal n').plainText hz (Nat.lt_succ_of_le hn) hm toks o
      false i l
    simpa [valueText, valueTokens] using hplain
  | text t => exact leads_scalar t hz (Nat.lt_succ_of_le hn) hm toks o false i l
  | texts ts =>
    cases ts with
    | nil => exact leads_noItems hz hm n toks o i l
    | cons t ts =>
      have hstarts : StartsToken ('-' :: ' ' :: (writeScalar (indent + 2) t ++
          (ts.flatMap (itemText indent) ++ (List.replicate n ' ' ++ z)))) :=
        startsToken_cons (by decide) _
      obtain ⟨i', l', hitems⟩ := leads_items hz hn t ts toks o (i + 1 + indent) (l + 1)
      refine ⟨i', l', .trans ?_ hitems⟩
      have hline := leads_break hstarts toks (indent + 1) o false indent i l k
      simpa [valueText, itemText, indentation] using hline

/-- **An entry is read back.** The first of a mapping opens it. -/
theorem leads_entry (hkey : IsName key) (v : Value) (hz : StartsToken z) (hn : n ≤ indent)
    (hm : m ≤ indent + 1) (toks : List Token) (o : List Nat) (i l : Nat) :
    ∃ i' l', Leads (between toks m o true
        ⟨key ++ ':' :: (valueText indent v ++ (List.replicate n ' ' ++ z)), i, l, indent⟩)
      (between ((valueTokens v).reverse ++ ((keyTokens key m indent).reverse ++ toks)) (indent + 1)
        (if m ≤ indent then m :: o else o) true ⟨z, i', l', n⟩) := by
  have hends : endsWord (valueText indent v ++ (List.replicate n ' ' ++ z)).head? = true := by
    cases v with
    | null => rfl
    | number n => rfl
    | text t => rfl
    | texts ts => cases ts <;> rfl
  have hcolumn : indent ≤ indent + key.length + 1 :=
    Nat.le_succ_of_le (Nat.le_add_right indent key.length)
  obtain ⟨i', l', hvalue⟩ := leads_value v hz hn hcolumn ((keyTokens key m indent).reverse ++ toks)
    (if m ≤ indent then m :: o else o) (i + key.length + 1) l
  exact ⟨i', l', (leads_key hkey hends hm toks o i l).trans hvalue⟩

/-! ## Mappings -/

/-- **A mapping is read back**, entry by entry. -/
theorem leads_entries (hz : StartsToken z) (hn : n ≤ indent) (hm : m ≤ indent + 1)
    (hkey : IsName key) (v : Value) (entries : List (Text × Value))
    (hentries : ∀ e ∈ entries, IsName e.1) (toks : List Token) (o : List Nat) (i l : Nat) :
    ∃ i' l', Leads (between toks m o true
        ⟨entriesText indent key v entries ++ (List.replicate n ' ' ++ z), i, l, indent⟩)
      (between ((opening m indent ++ entryTokens ((key, v) :: entries)).reverse ++ toks)
        (indent + 1) (if m ≤ indent then m :: o else o) true ⟨z, i', l', n⟩) := by
  induction entries generalizing key v m toks o i l with
  | nil =>
    obtain ⟨i', l', hentry⟩ := leads_entry hkey v hz hn hm toks o i l
    refine ⟨i', l', ?_⟩
    simpa [entriesText, writeMapping, entryTokens, keyTokens, opening] using hentry
  | cons e entries ih =>
    obtain ⟨key', v'⟩ := e
    obtain ⟨hkey', hentries⟩ := List.forall_mem_cons.mp hentries
    have hnext :
        StartsToken (entriesText indent key' v' entries ++ (List.replicate n ' ' ++ z)) := by
      rw [entriesText, List.append_assoc]
      exact startsToken_of_isWord hkey'.1 _
    obtain ⟨i', l', hentry⟩ := leads_entry hkey v hnext (Nat.le_refl indent) hm toks o i l
    obtain ⟨i'', l'', hrest⟩ := ih (Nat.le_refl _) hkey' v' hentries
      ((valueTokens v).reverse ++ ((keyTokens key m indent).reverse ++ toks))
      (if m ≤ indent then m :: o else o) i' l'
    refine ⟨i'', l'', ?_⟩
    have hall := hentry.trans hrest
    simpa [entriesText, writeMapping, writeEntry_eq, indentation, entryTokens, keyTokens, opening]
      using hall

/-- An entry that is itself a mapping opens it at a deeper column. -/
theorem leads_inner (hname : IsName key) (hkey : IsName t) (v : Value)
    (entries : List (Text × Value)) (hentries : ∀ e ∈ entries, IsName e.1) (hz : StartsToken z)
    (hn : n ≤ indent + 2) (toks : List Token) (o : List Nat) (i l : Nat) :
    ∃ i' l', Leads (between toks (indent + 1) o true
        ⟨key ++ ':' :: '\n' :: (List.replicate (indent + 2) ' ' ++
          (entriesText (indent + 2) t v entries ++ (List.replicate n ' ' ++ z))), i, l, indent⟩)
      (between ((.key :: .scalar key .plain :: .value :: .blockMapping ::
          entryTokens ((t, v) :: entries)).reverse ++ toks) (indent + 3) ((indent + 1) :: o) true
        ⟨z, i', l', n⟩) := by
  set y : Text := entriesText (indent + 2) t v entries ++ (List.replicate n ' ' ++ z) with hy
  have hstarts : StartsToken y := by
    rw [hy, entriesText, List.append_assoc]
    exact startsToken_of_isWord hkey.1 _
  have hends : endsWord ('\n' :: (List.replicate (indent + 2) ' ' ++ y)).head? = true := rfl
  have hkeyed := leads_key hname hends (Nat.le_refl (indent + 1)) toks o i l
  rw [if_neg (Nat.not_succ_le_self indent)] at hkeyed
  have hbreak := leads_break hstarts ((keyTokens key (indent + 1) indent).reverse ++ toks)
    (indent + 1) o false (indent + 2) (i + key.length + 1) l (indent + key.length + 1)
  obtain ⟨i', l', hentries⟩ := leads_entries hz hn (Nat.le_add_right (indent + 1) 2) hkey v entries
    hentries ((keyTokens key (indent + 1) indent).reverse ++ toks) o
    (i + key.length + 1 + 1 + (indent + 2)) (l + 1)
  refine ⟨i', l', hkeyed.trans (hbreak.trans ?_)⟩
  simpa [opening, keyTokens] using hentries

/-! ## The end of the text -/

theorem length_closeBlocks (column m : Nat) (o : List Nat) :
    (closeBlocks column m o).1 + (closeBlocks column m o).2.2.length = o.length := by
  induction o generalizing m with
  | nil => rfl
  | cons m' o ih =>
    rw [closeBlocks]
    split_ifs
    · have hrest := ih m'
      rw [List.length_cons, ← hrest]
      exact Nat.add_right_comm _ _ _
    · exact Nat.zero_add _

theorem run?_end (toks : List Token) (m : Nat) (o : List Nat) (i l k fuel : Nat) :
    run? (fuel + 1) (between toks m o true ⟨[], i, l, k⟩) =
      some (toks.reverse ++ (List.replicate o.length .blockEnd ++ [.streamEnd])) := by
  have hsettle : settle? (between toks m o true ⟨[], i, l, k⟩) =
      some (between toks m o true ⟨[], i, l, k⟩) :=
    settle?_of_startsToken startsToken_nil
  rw [settle?] at hsettle
  rw [run?, hsettle]
  obtain ⟨closed, m', o', hclose⟩ : ∃ closed m' o', closeBlocks k m o = (closed, m', o') :=
    ⟨_, _, _, rfl⟩
  have hlength := length_closeBlocks k m o
  rw [hclose] at hlength
  simp only [between, unroll, unrollAll, inFlow, List.isEmpty_nil, Bool.not_true, hclose,
    Option.bind_eq_bind, Option.bind_some]
  rw [← hlength, List.replicate_add]
  simp [Cursor.head?, dropPlace?, push]

theorem Leads.run?_eq {s : Scanner} (h : Leads s (between toks m o true ⟨[], i, l, k⟩)) :
    run? (s.cursor.ahead.length + 1) s =
      some (toks.reverse ++ (List.replicate o.length .blockEnd ++ [.streamEnd])) := by
  obtain ⟨n, hn, hrun⟩ := h
  have hfuel : s.cursor.ahead.length + 1 = s.cursor.ahead.length - n + 1 + n := by omega
  rw [hfuel, hrun, run?_end]

end Scanner

/-! ## A mapping inside a mapping -/

open Scanner

/-- The text of a mapping whose last entry is itself a mapping. -/
def nestedText (entries : List (Text × Value)) (name : Text) (inner : List (Text × Value)) : Text :=
  writeMapping 0 entries ++ (name ++ (":\n" : Text) ++ writeMapping 2 inner)

/-- The tokens of a mapping. -/
def mappingTokens (entries : List (Text × Value)) : List Token :=
  .blockMapping :: entryTokens entries ++ [.blockEnd]

/-- The tokens of a mapping whose last entry is itself a mapping. -/
def nestedTokens (entries : List (Text × Value)) (name : Text) (inner : List (Text × Value)) :
    List Token :=
  .blockMapping :: entryTokens entries ++ .key :: .scalar name .plain :: .value ::
    mappingTokens inner ++ [.blockEnd]

theorem allowed_of_isWord (h : IsWord t) : Allowed t := by
  intro a ha
  have hword := h.2 a ha
  simp only [Text.isAlphanumeric, Text.isLetter, Text.isUpper, Text.isLower, Text.isDigit,
    Bool.or_eq_true, Bool.and_eq_true, decide_eq_true_eq, beq_iff_eq, Char.le_def,
    UInt32.le_iff_toNat_le] at hword
  have hascii : 0x20 ≤ a.toNat ∧ a.toNat ≤ 0x7E := by
    obtain ((hupper | hlower) | hdigit) | rfl := hword
    · exact ⟨le_trans (by decide) hupper.1, le_trans hupper.2 (by decide)⟩
    · exact ⟨le_trans (by decide) hlower.1, le_trans hlower.2 (by decide)⟩
    · exact ⟨le_trans (by decide) hdigit.1, le_trans hdigit.2 (by decide)⟩
    · decide
  simp [isAllowed, hascii]

theorem allowed_valueText (indent : Nat) (v : Value) : Allowed (valueText indent v) := by
  cases v with
  | null => exact (by decide : Allowed " null\n")
  | number n =>
    exact allowed_cons.mpr ⟨by decide,
      allowed_append.mpr ⟨allowed_of_isWord (isWord_decimal n), by decide⟩⟩
  | text t => exact allowed_cons.mpr ⟨by decide, allowed_writeScalar _ t⟩
  | texts ts =>
    cases ts with
    | nil => exact (by decide : Allowed " []\n")
    | cons t ts =>
      refine allowed_cons.mpr ⟨by decide, allowed_flatMap fun u _ ↦ ?_⟩
      exact allowed_append.mpr ⟨allowed_indentation indent,
        allowed_cons.mpr ⟨by decide, allowed_cons.mpr ⟨by decide, allowed_writeScalar _ u⟩⟩⟩

theorem allowed_writeMapping {entries : List (Text × Value)} (h : ∀ e ∈ entries, IsName e.1)
    (indent : Nat) : Allowed (writeMapping indent entries) := by
  refine allowed_flatMap fun e he ↦ ?_
  show Allowed (writeEntry indent e.1 e.2)
  rw [writeEntry_eq]
  exact allowed_append.mpr ⟨allowed_indentation indent, allowed_append.mpr
    ⟨allowed_of_isWord (h e he).1, allowed_cons.mpr ⟨by decide, allowed_valueText indent e.2⟩⟩⟩

/-- **The tokens of what was written.** -/
theorem tokens?_nestedText {entries inner : List (Text × Value)} {name : Text}
    (hentries : ∀ e ∈ entries, IsName e.1) (hname : IsName name) (hinner : ∀ e ∈ inner, IsName e.1)
    (hne : entries ≠ []) (hne' : inner ≠ []) :
    tokens? (nestedText entries name inner) =
      some (nestedTokens entries name inner ++ [.streamEnd]) := by
  have hallowed : Allowed (nestedText entries name inner) :=
    allowed_append.mpr ⟨allowed_writeMapping hentries 0, allowed_append.mpr
      ⟨allowed_append.mpr ⟨allowed_of_isWord hname.1, by decide⟩, allowed_writeMapping hinner 2⟩⟩
  obtain ⟨⟨key, v⟩, entries, rfl⟩ := List.exists_cons_of_ne_nil hne
  obtain ⟨⟨key', v'⟩, inner, rfl⟩ := List.exists_cons_of_ne_nil hne'
  obtain ⟨hkey, hentries⟩ := List.forall_mem_cons.mp hentries
  obtain ⟨hkey', hinner⟩ := List.forall_mem_cons.mp hinner
  have htext : nestedText ((key, v) :: entries) name ((key', v') :: inner) =
      entriesText 0 key v entries ++ (List.replicate 0 ' ' ++ (name ++ ':' :: '\n' ::
        (List.replicate 2 ' ' ++
          (entriesText 2 key' v' inner ++ (List.replicate 0 ' ' ++ []))))) := by
    simp [nestedText, entriesText, writeMapping, writeEntry_eq, indentation]
  obtain ⟨i, l, houter⟩ := leads_entries (n := 0) (startsToken_of_isWord hname.1 _) (Nat.le_refl 0)
    (Nat.zero_le 1) hkey v entries hentries [] [] 0 0
  obtain ⟨i', l', hnested⟩ := leads_inner (n := 0) hname hkey' v' inner hinner
    startsToken_nil (Nat.zero_le 2) _ [0] i l
  rw [tokens?, if_pos (List.all_eq_true.mpr hallowed), htext]
  refine (houter.trans hnested).run?_eq.trans ?_
  simp [nestedTokens, mappingTokens, opening]

end PacketFilter.Yaml
