import PacketFilter.Proofs.Service.Changes
import PacketFilter.Proofs.Text.Word

/-!
# The form of services files

A line of a services file is a name, a gap, a port number, a slash and a protocol, and then any
aliases, each behind a gap of its own. What is read is decided by the characters that follow the
protocol: they have to be name characters and blanks, and the first of them no word character, so
that the protocol ends where it stands.

A hyphen is a name character and no word character. So there is a second form: the line *runs on*
if its first alias starts with a hyphen and stands directly behind the protocol. `ssh 22/tcp-alt` is
read as a service `ssh` with the alias `-alt`, not skipped as a line for a protocol that is unknown.
Every line that is read has one of the two forms, no line has both, and how lines are read is what
the first form says for exactly those texts of which no line runs on.
-/

namespace PacketFilter

namespace Service.Line

/-! ## The form -/

/-- A name is made of name characters. -/
def IsName (t : Text) : Prop := t ≠ [] ∧ ∀ c ∈ t, isNameChar c = true

/-- A gap is made of blanks. -/
def IsGap (t : Text) : Prop := t ≠ [] ∧ ∀ c ∈ t, Text.isBlank c = true

/-- A numeral is made of the digits of ASCII. -/
structure IsNumeral (t : Text) (n : PortNumber) : Prop where
  ne_nil : t ≠ []
  digits : ∀ c ∈ t, Text.isDigit c = true
  value : Text.digitsValue 10 t = n.val

/-- A list of names, each behind a gap. -/
inductive IsAliases : Text → List Text → Prop where
  | nil : IsAliases [] []
  | cons {gap name rest : Text} {names : List Text} : IsGap gap → IsName name →
      IsAliases rest names → IsAliases (gap ++ (name ++ rest)) (name :: names)

/-- A line up to its protocol, and what follows. -/
def Opens (t name : Text) (port : Port) (rest : Text) : Prop :=
  ∃ gap numeral, IsName name ∧ IsGap gap ∧ IsNumeral numeral port.number ∧
    t = name ++ (gap ++ (numeral ++ '/' :: (port.protocol.name ++ rest)))

/-- The form of a line. -/
def IsEntry (t : Text) (line : Line) : Prop :=
  ∃ rest, Opens t line.name line.port rest ∧ IsAliases rest line.aliases

/-- A list of names of which the first starts with a hyphen and has no gap in front of it. -/
def RunsOn (t : Text) (names : List Text) : Prop :=
  ∃ first rest others, IsName first ∧ first.head? = some '-' ∧ IsAliases rest others ∧
    t = first ++ rest ∧ names = first :: others

/-- A line whose first alias is part of what stands behind the slash. -/
def IsRunOn (t : Text) (line : Line) : Prop :=
  ∃ rest, Opens t line.name line.port rest ∧ RunsOn rest line.aliases

/-! ## Characters -/

variable {c : Char} {t rest name : Text} {port : Port} {names : List Text} {line : Line}

theorem not_isNameChar_of_isBlank (h : Text.isBlank c = true) : isNameChar c = false := by
  rw [isNameChar, Text.not_isWord_of_isBlank h, Bool.false_or, beq_eq_false_iff_ne]
  rintro rfl
  exact absurd h (by decide)

theorem not_isBlank_of_isNameChar (h : isNameChar c = true) : Text.isBlank c = false := by
  rw [Bool.eq_false_iff]
  intro hblank
  rw [not_isNameChar_of_isBlank hblank] at h
  exact Bool.noConfusion h

/-- The only name character besides word characters is the hyphen. -/
theorem eq_hyphen_of_not_isWord (h : isNameChar c = true) (hword : Text.isWord c = false) :
    c = '-' := by
  rw [isNameChar, hword, Bool.false_or, beq_iff_eq] at h
  exact h

theorem isNameChar_of_isDigit (h : Text.isDigit c = true) : isNameChar c = true := by
  rw [isNameChar, Text.isWord_of_isDigit h, Bool.true_or]

theorem number?_eq_some_iff {n : PortNumber} : Port.number? t = some n ↔ IsNumeral t n := by
  have hall : (t.all fun c ↦ (Text.digitValue? 10 c).isSome) = true ↔
      ∀ c ∈ t, Text.isDigit c = true := by
    simp only [List.all_eq_true, Text.isSome_digitValue?_iff]
  rw [Port.number?, Text.number?]
  constructor
  · intro h
    obtain ⟨value, hvalue, h⟩ := Option.bind_eq_some_iff.mp h
    obtain ⟨⟨hne, hdigits⟩, heq⟩ := Option.ite_none_right_eq_some.mp hvalue
    obtain rfl : Text.digitsValue 10 t = value := Option.some_inj.mp heq
    split at h
    · exact ⟨hne, hall.mp hdigits, congrArg Fin.val (Option.some_inj.mp h)⟩
    · cases h
  · rintro ⟨hne, hdigits, hvalue⟩
    refine Option.bind_eq_some_iff.mpr ⟨n.val, ?_, dif_pos n.isLt⟩
    rw [if_pos ⟨hne, hall.mpr hdigits⟩, hvalue]

theorem IsName.solid (h : IsName t) : Text.Solid t :=
  ⟨h.1, fun c hc ↦ not_isBlank_of_isNameChar (h.2 c hc)⟩

/-! ## Aliases -/

theorem IsAliases.head? (h : IsAliases t names) : ∀ c ∈ t.head?, Text.isBlank c = true := by
  cases h with
  | nil => exact fun c hc ↦ absurd hc (by simp)
  | cons hgap _ _ =>
    intro c hc
    rw [List.head?_append_of_ne_nil _ hgap.1] at hc
    exact hgap.2 c (List.mem_of_mem_head? hc)

theorem IsAliases.words (h : IsAliases t names) : Text.words t = names := by
  induction h with
  | nil => rfl
  | cons hgap hname hrest ih =>
    rw [Text.words_append_of_isBlank hgap.2, Text.words_append_of_head? hname.solid hrest.head?, ih]

theorem IsAliases.chars (h : IsAliases t names) :
    ∀ c ∈ t, isNameChar c = true ∨ Text.isBlank c = true := by
  induction h with
  | nil => exact fun c hc ↦ absurd hc List.not_mem_nil
  | cons hgap hname _ ih =>
    intro c hc
    rcases List.mem_append.mp hc with hc | hc
    · exact Or.inr (hgap.2 c hc)
    rcases List.mem_append.mp hc with hc | hc
    · exact Or.inl (hname.2 c hc)
    · exact ih c hc

/-- Name characters and blanks, with a blank at the end only if there is nothing else. -/
structure IsList (t : Text) : Prop where
  chars : ∀ c ∈ t, isNameChar c = true ∨ Text.isBlank c = true
  ends : ∀ c ∈ t.getLast?, Text.isBlank c = false

theorem IsList.of_append {s : Text} (h : IsList (s ++ t)) : IsList t where
  chars c hc := h.chars c (List.mem_append_right s hc)
  ends c hc := h.ends c (by rw [List.getLast?_append, Option.mem_def.mp hc]; rfl)

/-- The name characters at the start of a list are followed by a gap. -/
theorem IsList.exists_name (h : IsList t) :
    ∃ name rest, t = name ++ rest ∧ (∀ c ∈ name, isNameChar c = true) ∧
      ∀ c ∈ rest.head?, Text.isBlank c = true := by
  obtain ⟨name, rest, rfl, hname, hrest⟩ := Text.exists_span isNameChar t
  refine ⟨name, rest, rfl, hname, fun c hc ↦ ?_⟩
  refine (h.chars c (List.mem_append_right name (List.mem_of_mem_head? hc))).resolve_left ?_
  rw [hrest c hc]
  exact Bool.false_ne_true

/-- A list that starts with a blank has a name behind it. -/
theorem IsList.exists_alias {x : Char} (h : IsList (x :: t)) (hx : Text.isBlank x = true) :
    ∃ gap name rest, x :: t = gap ++ (name ++ rest) ∧ IsGap gap ∧ IsName name ∧
      ∀ c ∈ rest.head?, Text.isBlank c = true := by
  obtain ⟨gap, u, rfl, hgap, hu⟩ := Text.exists_span Text.isBlank t
  obtain ⟨name, rest, rfl, hname, hrest⟩ := (IsList.of_append (s := x :: gap) h).exists_name
  have hgap : IsGap (x :: gap) :=
    ⟨List.cons_ne_nil x gap, List.forall_mem_cons.mpr ⟨hx, hgap⟩⟩
  refine ⟨x :: gap, name, rest, rfl, hgap, ⟨?_, hname⟩, hrest⟩
  -- Without a name the list would be a gap and nothing else, or the gap would go on.
  rintro rfl
  cases rest with
  | nil =>
    have hlast := h.ends ((x :: gap).getLast hgap.1) (by simp [List.getLast?_eq_some_getLast])
    rw [hgap.2 _ (List.getLast_mem hgap.1)] at hlast
    exact Bool.noConfusion hlast
  | cons c rest =>
    have hblank := hrest c rfl
    rw [hu c rfl] at hblank
    exact Bool.noConfusion hblank

/-- A list that does not start with a name is read as its aliases. -/
theorem IsList.isAliases (h : IsList t) (hstart : ∀ c ∈ t.head?, Text.isBlank c = true) :
    IsAliases t (Text.words t) := by
  induction hlength : t.length using Nat.strong_induction_on generalizing t with
  | _ n ih =>
    cases t with
    | nil => exact .nil
    | cons x t =>
      obtain ⟨gap, name, rest, hsplit, hgap, hname, hrest⟩ := h.exists_alias (hstart x rfl)
      rw [hsplit] at h hlength ⊢
      have hshorter : rest.length < n := by
        have hpos := List.length_pos_iff.mpr hname.1
        rw [List.length_append, List.length_append] at hlength
        omega
      rw [Text.words_append_of_isBlank hgap.2, Text.words_append_of_head? hname.solid hrest]
      exact .cons hgap hname (ih rest.length hshorter h.of_append.of_append hrest rfl)

/-- A list that starts with a name is read as the name and its aliases. -/
theorem IsList.runsOn {x : Char} (h : IsList (x :: t)) (hx : Text.isBlank x = false)
    (hword : Text.isWord x = false) : RunsOn (x :: t) (Text.words (x :: t)) := by
  obtain ⟨first, rest, hsplit, hfirst, hrest⟩ := h.exists_name
  cases first with
  | nil =>
    rw [List.nil_append] at hsplit
    rw [hrest x (by rw [← hsplit]; rfl)] at hx
    exact Bool.noConfusion hx
  | cons y first =>
    obtain ⟨rfl, -⟩ := List.cons.inj hsplit
    have hname : IsName (x :: first) := ⟨List.cons_ne_nil x first, hfirst⟩
    have hhyphen : x = '-' := eq_hyphen_of_not_isWord (hfirst x List.mem_cons_self) hword
    rw [hsplit] at h ⊢
    refine ⟨x :: first, rest, Text.words rest, hname, by rw [hhyphen]; rfl,
      h.of_append.isAliases hrest, rfl, Text.words_append_of_head? hname.solid hrest⟩

theorem isAliasList_eq_true_iff :
    isAliasList t = true ↔ (∀ c ∈ t, isNameChar c = true ∨ Text.isBlank c = true) ∧
      ∀ c ∈ t.head?, Text.isWord c = false := by
  rw [isAliasList, Bool.and_eq_true, List.all_eq_true]
  simp only [Bool.or_eq_true]
  refine and_congr_right fun _ ↦ ?_
  cases t with
  | nil => simp
  | cons x t => simp

/-- What follows a protocol is read as aliases that are set apart, or as ones that run on. -/
theorem isAliasList_iff (hend : ∀ c ∈ t.getLast?, Text.isBlank c = false) :
    isAliasList t = true ∧ Text.words t = names ↔ IsAliases t names ∨ RunsOn t names := by
  rw [isAliasList_eq_true_iff]
  constructor
  · rintro ⟨⟨hchars, hword⟩, rfl⟩
    have hlist : IsList t := ⟨hchars, hend⟩
    cases t with
    | nil => exact Or.inl .nil
    | cons x t =>
      cases hx : Text.isBlank x with
      | true => exact Or.inl (hlist.isAliases fun c hc ↦ Option.some_inj.mp hc ▸ hx)
      | false => exact Or.inr (hlist.runsOn hx (hword x rfl))
  · rintro (h | ⟨first, rest, others, hfirst, hhyphen, haliases, rfl, rfl⟩)
    · exact ⟨⟨h.chars, fun c hc ↦ Text.not_isWord_of_isBlank (h.head? c hc)⟩, h.words⟩
    · refine ⟨⟨fun c hc ↦ ?_, fun c hc ↦ ?_⟩, ?_⟩
      · rcases List.mem_append.mp hc with hc | hc
        · exact Or.inl (hfirst.2 c hc)
        · exact haliases.chars c hc
      · rw [List.head?_append_of_ne_nil _ hfirst.1, hhyphen] at hc
        rw [← Option.some_inj.mp hc]
        decide
      · rw [Text.words_append_of_head? hfirst.solid haliases.head?, haliases.words]

theorem IsAliases.not_runsOn {names' : List Text} (h : IsAliases t names) : ¬RunsOn t names' := by
  rintro ⟨first, rest, others, hfirst, hhyphen, -, rfl, -⟩
  have hblank := h.head? '-' (by rw [List.head?_append_of_ne_nil _ hfirst.1, hhyphen]; rfl)
  exact absurd hblank (by decide)

/-! ## Lines -/

@[simp] theorem readProtocol?_name_append (p : Protocol) (rest : Text) :
    readProtocol? (p.name ++ rest) = some (p, rest) := by
  cases p <;> rfl

theorem eq_of_readProtocol? {p : Protocol} (h : readProtocol? t = some (p, rest)) :
    t = p.name ++ rest := by
  rw [readProtocol?] at h
  split at h
  · rename_i hafter
    cases h
    exact Text.after?_eq_some_iff.mp hafter
  · rename_i hafter
    cases h
    exact Text.after?_eq_some_iff.mp hafter
  · cases h

theorem Opens.runs (h : Opens t name port rest) :
    ∃ gap numeral, name ≠ [] ∧ gap ≠ [] ∧ IsNumeral numeral port.number ∧
      t.takeWhile isNameChar = name ∧
      (t.drop name.length).takeWhile Text.isBlank = gap ∧
      (t.drop (name.length + gap.length)).takeWhile Text.isDecimal = numeral ∧
      (t.drop (name.length + gap.length)).drop numeral.length =
        '/' :: (port.protocol.name ++ rest) := by
  obtain ⟨gap, numeral, hname, hgap, hnumeral, rfl⟩ := h
  refine ⟨gap, numeral, hname.1, hgap.1, hnumeral, ?_, ?_, ?_, ?_⟩
  · refine Text.takeWhile_append_of_head? hname.2 fun c hc ↦ ?_
    rw [List.head?_append_of_ne_nil _ hgap.1] at hc
    exact not_isNameChar_of_isBlank (hgap.2 c (List.mem_of_mem_head? hc))
  · rw [List.drop_left]
    refine Text.takeWhile_append_of_head? hgap.2 fun c hc ↦ ?_
    rw [List.head?_append_of_ne_nil _ hnumeral.ne_nil] at hc
    have hdigit := hnumeral.digits c (List.mem_of_mem_head? hc)
    exact not_isBlank_of_isNameChar (isNameChar_of_isDigit hdigit)
  · rw [← List.drop_drop, List.drop_left, List.drop_left]
    have hdecimal : ∀ c ∈ numeral, Text.isDecimal c = true := fun c hc ↦
      Text.isDecimal_of_isDigit (hnumeral.digits c hc)
    refine Text.takeWhile_append_of_head? hdecimal fun c hc ↦ ?_
    rw [← Option.some_inj.mp hc]
    decide
  · rw [← List.drop_drop, List.drop_left, List.drop_left, List.drop_left]

theorem Opens.read? (h : Opens t name port rest) :
    Line.read? t = if isAliasList rest then some ⟨name, port, Text.words rest⟩ else none := by
  obtain ⟨gap, numeral, hname, hgap, hnumeral, hnameRun, hgapRun, hnumeralRun, hback⟩ := h.runs
  have hslash : Text.after? "/" ('/' :: (port.protocol.name ++ rest)) =
      some (port.protocol.name ++ rest) := rfl
  simp only [Line.read?, hnameRun, hgapRun, hnumeralRun, hback, hslash, readProtocol?_name_append,
    number?_eq_some_iff.mpr hnumeral, Option.bind_eq_bind, Option.bind_some]
  simp [hname, hgap]

private theorem takeWhile_append_drop (p : Char → Bool) (t : Text) :
    t.takeWhile p ++ t.drop (t.takeWhile p).length = t :=
  List.prefix_iff_eq_append.mp (List.takeWhile_prefix p)

theorem exists_opens_of_read? (h : Line.read? t = some line) :
    ∃ rest, Opens t line.name line.port rest ∧ isAliasList rest = true ∧
      Text.words rest = line.aliases := by
  simp only [Line.read?, Option.bind_eq_bind, Option.bind_eq_some_iff, ← List.drop_drop] at h
  obtain ⟨u, hslash, ⟨protocol, rest⟩, hprotocol, number, hnumber, h⟩ := h
  split at h
  · rename_i hok
    obtain ⟨hname, hgap, halias⟩ := hok
    obtain rfl := Option.some_inj.mp h
    have hnumeral := number?_eq_some_iff.mp hnumber
    refine ⟨rest, ⟨_, _, ⟨hname, fun c hc ↦ List.mem_takeWhile_imp hc⟩,
      ⟨hgap, fun c hc ↦ List.mem_takeWhile_imp hc⟩, hnumeral, ?_⟩, halias, rfl⟩
    show t = _ ++ (_ ++ (_ ++ '/' :: (protocol.name ++ rest)))
    rw [← eq_of_readProtocol? hprotocol]
    have hslash' : _ = '/' :: u := Text.after?_eq_some_iff.mp hslash
    rw [← hslash', takeWhile_append_drop, takeWhile_append_drop, takeWhile_append_drop]
  · cases h

theorem Opens.unique {name' rest' : Text} {port' : Port} (h : Opens t name port rest)
    (h' : Opens t name' port' rest') : rest = rest' := by
  obtain ⟨gap, numeral, -, -, -, rfl, rfl, rfl, hback⟩ := h.runs
  obtain ⟨gap', numeral', -, -, -, rfl, rfl, rfl, hback'⟩ := h'.runs
  have hsame := (List.cons.inj (hback.symm.trans hback')).2
  have hread := readProtocol?_name_append port.protocol rest
  rw [hsame, readProtocol?_name_append] at hread
  exact (Prod.ext_iff.mp (Option.some_inj.mp hread)).2.symm

theorem not_isRunOn_of_isEntry {line' : Line} (h : IsEntry t line) : ¬IsRunOn t line' := by
  obtain ⟨rest, hopens, haliases⟩ := h
  rintro ⟨rest', hopens', hruns⟩
  rw [← hopens.unique hopens'] at hruns
  exact haliases.not_runsOn hruns

theorem ends_of_opens (ht : Text.trimEnd t = t) (h : Opens t name port rest) :
    ∀ c ∈ rest.getLast?, Text.isBlank c = false := by
  intro c hc
  have hlast : t.getLast? = some c := by
    obtain ⟨gap, numeral, -, -, -, rfl⟩ := h
    simp [List.getLast?_append, List.getLast?_cons, Option.mem_def.mp hc]
  have hne : t ≠ [] := by
    rintro rfl
    cases hlast
  have heq : t.getLast hne = c :=
    Option.some_inj.mp ((List.getLast?_eq_some_getLast hne).symm.trans hlast)
  have hblank := List.rdropWhile_eq_self_iff.mp ht hne
  rwa [heq, Bool.not_eq_true] at hblank

/-- A line that does not end in a blank is read exactly if it has one of the two forms. -/
theorem read?_eq_some_iff (ht : Text.trimEnd t = t) :
    read? t = some line ↔ IsEntry t line ∨ IsRunOn t line := by
  constructor
  · intro h
    obtain ⟨rest, hopens, hlist, hwords⟩ := exists_opens_of_read? h
    rcases (isAliasList_iff (ends_of_opens ht hopens)).mp ⟨hlist, hwords⟩ with haliases | hruns
    · exact Or.inl ⟨rest, hopens, haliases⟩
    · exact Or.inr ⟨rest, hopens, hruns⟩
  · intro h
    obtain ⟨rest, hopens, hnames⟩ : ∃ rest, Opens t line.name line.port rest ∧
        (IsAliases rest line.aliases ∨ RunsOn rest line.aliases) := by
      rcases h with ⟨rest, hopens, haliases⟩ | ⟨rest, hopens, hruns⟩
      · exact ⟨rest, hopens, Or.inl haliases⟩
      · exact ⟨rest, hopens, Or.inr hruns⟩
    obtain ⟨hlist, hwords⟩ := (isAliasList_iff (ends_of_opens ht hopens)).mpr hnames
    rw [hopens.read?, if_pos hlist, hwords]

theorem forall_read?_iff (ht : Text.trimEnd t = t) :
    (∀ line, read? t = some line ↔ IsEntry t line) ↔ ∀ line, ¬IsRunOn t line := by
  constructor
  · intro h line hrunOn
    have hentry := (h line).mp ((read?_eq_some_iff ht).mpr (Or.inr hrunOn))
    exact not_isRunOn_of_isEntry hentry hrunOn
  · intro h line
    rw [read?_eq_some_iff ht, or_iff_left (h line)]

theorem trimEnd_of_mem_codes {text : Text} (h : t ∈ codes text) : Text.trimEnd t = t := by
  obtain ⟨raw, -, rfl⟩ := List.mem_map.mp (List.mem_filter.mp h).1
  exact Text.trimEnd_trimEnd _

end Service.Line

namespace Registry

open Service.Line

/-- **Which lines are read.** A text puts in what its lines say, one after the other, each port
under the name of the line and under its aliases, and lines that cannot be read are counted. A line
is read exactly if it has the form of a line or runs on. So the lines that are read are those of the
form if, and only if, no line of the text runs on. -/
theorem addText_iff (r : Registry) (text : Text) :
    r.addText text =
      (r.insertEach (((codes text).filterMap read?).flatMap lineInsertions),
        (codes text).countP fun t ↦ (read? t).isNone) ∧
    (∀ t ∈ codes text, ∀ line, read? t = some line ↔ IsEntry t line ∨ IsRunOn t line) ∧
    ((∀ t ∈ codes text, ∀ line, read? t = some line ↔ IsEntry t line) ↔
      ∀ t ∈ codes text, ∀ line, ¬IsRunOn t line) :=
  ⟨addText_eq r text, fun _ ht _ ↦ read?_eq_some_iff (trimEnd_of_mem_codes ht),
    forall₂_congr fun _ ht ↦ forall_read?_iff (trimEnd_of_mem_codes ht)⟩

/-- The alias stands directly behind the protocol. No line has the form that is asked for, and yet
the text is read and nothing is skipped. -/
theorem addText_runs_on :
    codes "ssh 22/tcp-alt\n" = (["ssh 22/tcp-alt"] : List Text) ∧
    (∀ line, ¬IsEntry "ssh 22/tcp-alt" line) ∧
    (empty.addText "ssh 22/tcp-alt\n").2 = 0 ∧
    (empty.addText "ssh 22/tcp-alt\n").1.find? "-alt" = some ⟨"-alt", [⟨22, .tcp⟩]⟩ := by
  have hrunOn : IsRunOn "ssh 22/tcp-alt" ⟨"ssh", ⟨22, .tcp⟩, ["-alt"]⟩ := by
    refine ⟨"-alt", ⟨" ", "22", ?_, ?_, ?_, rfl⟩, "-alt", [], [], ?_, rfl, .nil, rfl, rfl⟩
    · exact ⟨by decide, List.all_eq_true.mp (by decide)⟩
    · exact ⟨by decide, List.all_eq_true.mp (by decide)⟩
    · exact ⟨by decide, List.all_eq_true.mp (by decide), by decide⟩
    · exact ⟨by decide, List.all_eq_true.mp (by decide)⟩
  exact ⟨by decide, fun line h ↦ not_isRunOn_of_isEntry h hrunOn, by decide, by decide⟩

end Registry
end PacketFilter
