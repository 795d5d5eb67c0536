import PacketFilter.Proofs.Template.Emission
import PacketFilter.Proofs.Text.Rows
import Mathlib.Data.List.Flatten

/-!
# What comments in templates do

Only the command lines of a template are rendered, so a comment or a blank line has nothing to say
of its own. But three questions are asked of a template as a whole, and every line is asked: whether
any line has a token, whether any speaks of a port, and whether any goes through `$IPTABLES`. Blank
lines answer no. A comment may be the only line that answers yes, and then it matters.

* If only comments speak of ports, the lines for any port give way to lines that do not exist.
* If only comments have tokens, the fixed commands of the template are rendered as if they were
  meant for the families of the rule, and those for the other family are left out.
* If only comments go through `$IPTABLES`, the template is said to serve both families.

Comments take commands away in the first two cases and never add any, so what is rendered with them
is a sublist of what is rendered without them. The two are compared line by line.
-/

namespace PacketFilter.Template

/-! ## Leaving comments out -/

/-- A template's text without its comments and blank lines. -/
def bareText (content : Text) : Text :=
  Text.keepLines (fun raw ↦ (Line.parse raw).isCommand) content

/-- A template without its comments and blank lines. -/
def bare (t : Template) : Template := ⟨t.path, t.lines.filter Line.isCommand⟩

@[simp] theorem parse_bareText (path : Path) (content : Text) :
    parse path (bareText content) = (parse path content).bare := by
  rw [parse, parse, bare, bareText, Text.lines_keepLines, List.filter_map]
  rfl

/-- Whether the first character of a line that is not blank is `#`. -/
def Line.isComment (l : Line) : Bool := (Text.trimStart l.raw).head? = some '#'

theorem Line.isComment_of_hasTokens {raw : Text} (htokens : (Line.parse raw).hasTokens = true)
    (hcommand : (Line.parse raw).isCommand = false) : (Line.parse raw).isComment = true := by
  have hraw : (Line.parse raw).raw = raw := rfl
  rw [isCommand, hraw] at hcommand
  rw [isComment, hraw]
  cases htrim : Text.trimStart raw with
  | nil =>
    have hdollar : '$' ∉ raw := by
      intro hmem
      have hblank := List.dropWhile_eq_nil_iff.mp htrim _ hmem
      exact absurd hblank (by decide)
    rw [hasTokens, tokens_parse_of_not_mem hdollar] at htokens
    exact absurd htokens (by decide)
  | cons c rest =>
    rw [htrim] at hcommand
    have hc : c = '#' := by simpa using hcommand
    rw [hc]
    exact decide_eq_true rfl

/-- The only lines besides commands that have tokens are comments, as in every template that was
read from a text. -/
def WellRead (t : Template) : Prop :=
  ∀ l ∈ t.lines, l.hasTokens = true → l.isCommand = false → l.isComment = true

theorem wellRead_parse (path : Path) (content : Text) : (parse path content).WellRead := by
  intro l hl
  obtain ⟨raw, rfl⟩ := exists_of_mem_parse hl
  exact Line.isComment_of_hasTokens

theorem wellRead_of_load {tree : Tree} {path : Path} {t : Template}
    (h : load tree path = .ok t) : t.WellRead := by
  obtain ⟨content, -, rfl⟩ := load_eq_ok_iff.mp h
  exact wellRead_parse path content

/-- Some comment is as `p` asks, and no command line is. -/
def OnlyComments (t : Template) (p : Line → Bool) : Prop :=
  (∃ l ∈ t.lines, l.isComment = true ∧ p l = true) ∧
    ∀ l ∈ t.lines, l.isCommand = true → p l = false

variable {t : Template} {p : Line → Bool}

theorem any_bare_eq_false_iff :
    t.bare.lines.any p = false ↔ ∀ l ∈ t.lines, l.isCommand = true → p l = false := by
  rw [bare, List.any_eq_false]
  simp only [List.mem_filter, and_imp, Bool.not_eq_true]

theorem any_of_any_bare (h : t.bare.lines.any p = true) : t.lines.any p = true := by
  obtain ⟨l, hl, hp⟩ := List.any_eq_true.mp h
  exact List.any_eq_true.mpr ⟨l, List.mem_of_mem_filter hl, hp⟩

/-- What only lines with tokens can be is lost with the comments if only comments are so. -/
theorem onlyComments_iff (ht : t.WellRead) (hp : ∀ l, p l = true → l.hasTokens = true) :
    t.OnlyComments p ↔ t.lines.any p = true ∧ t.bare.lines.any p = false := by
  rw [any_bare_eq_false_iff, List.any_eq_true]
  constructor
  · rintro ⟨⟨l, hl, -, hpl⟩, hcommands⟩
    exact ⟨⟨l, hl, hpl⟩, hcommands⟩
  · rintro ⟨⟨l, hl, hpl⟩, hcommands⟩
    refine ⟨⟨l, hl, ht l hl (hp l hpl) ?_, hpl⟩, hcommands⟩
    rw [Bool.eq_false_iff]
    intro hcommand
    rw [hcommands l hl hcommand] at hpl
    exact Bool.noConfusion hpl

/-! ## Line by line -/

/-- The commands of one line in a template. -/
def lineCommands (t : Template) (c : Context) (l : Line) : List Text :=
  if t.isTokenized then if t.isNarrowed c && l.isPortless then [] else l.render c
  else [Text.trimEnd l.raw]

theorem render_eq_flatMap_lineCommands (t : Template) (c : Context) :
    t.render c = (t.lines.filter Line.isCommand).flatMap (t.lineCommands c) := by
  rw [render]
  by_cases ht : t.isTokenized = true
  · rw [if_pos ht, flatMap_filter]
    refine List.flatMap_congr fun l _ ↦ ?_
    rw [lineCommands, if_pos ht]
    cases t.isNarrowed c && l.isPortless <;> rfl
  · rw [if_neg ht, List.map_eq_flatMap]
    refine List.flatMap_congr fun l _ ↦ ?_
    rw [lineCommands, if_neg ht]

theorem Line.render_eq_nil_iff {l : Line} (h : l.usesPorts = false) (c : Context) :
    l.render c = [] ↔ l.families c = [] := by
  rw [render, portsOf_of_not_usesPorts h, List.flatMap_eq_nil_iff]
  simp [List.eq_nil_iff_forall_not_mem]

theorem Line.render_of_no_tokens {l : Line} (h : l.hasTokens = false) (c : Context) :
    l.render c = if l.families c = [] then [] else [Text.trimEnd l.raw] := by
  have htokens : l.tokens = [] := by simpa [hasTokens] using h
  have hports : l.usesPorts = false := by rw [usesPorts, htokens]; rfl
  have hiptables : l.has .iptables = false := by
    rw [Bool.eq_false_iff, ne_eq, has_iff, htokens]
    exact List.not_mem_nil
  have hsubstitute : ∀ family port, l.substitute c family port = Text.trimEnd l.raw := by
    intro family port
    rw [substitute, h]
    rfl
  -- Without `$IPTABLES` a line is about one family at most.
  have hfamilies : l.families c = [] ∨ ∃ family, l.families c = [family] := by
    rw [families, hiptables]
    cases c.address with
    | none => exact Or.inr ⟨_, rfl⟩
    | some r =>
      cases l.literalFamily with
      | none => exact Or.inr ⟨_, rfl⟩
      | some family =>
        by_cases hfamily : family = r.family
        · exact Or.inr ⟨some family, if_pos hfamily⟩
        · exact Or.inl (if_neg hfamily)
  rw [render, portsOf_of_not_usesPorts hports]
  rcases hfamilies with hnil | ⟨family, hone⟩
  · rw [hnil, if_pos rfl]
    rfl
  · rw [hone, if_neg (List.cons_ne_nil family []), List.flatMap_singleton, List.map_singleton,
      hsubstitute]

theorem Line.hasTokens_of_usesPorts {l : Line} (h : l.usesPorts = true) : l.hasTokens = true := by
  rcases usesPorts_iff.mp h with hk | hk
  · exact hasTokens_of_mem hk
  · exact hasTokens_of_mem hk

theorem Line.hasTokens_of_isPortless {l : Line} (h : l.isPortless = true) : l.hasTokens = true := by
  obtain ⟨-, k, hk, -⟩ := isPortless_iff.mp h
  exact hasTokens_of_mem hk

theorem isNarrowed_of_bare {c : Context} (h : t.bare.isNarrowed c = true) :
    t.isNarrowed c = true := by
  rw [isNarrowed, Bool.and_eq_true] at h ⊢
  exact h.imp_right any_of_any_bare

/-- With its comments a template gives no more commands for a line than without them. It gives as
many unless the line has to give way to comments that speak of ports, or comments with tokens make
it one that can be left out for its family. -/
theorem lineCommands_bare (ht : t.WellRead) {l : Line} (hl : l ∈ t.lines)
    (hcommand : l.isCommand = true) (c : Context) :
    (t.lineCommands c l).Sublist (t.bare.lineCommands c l) ∧
      (t.bare.lineCommands c l = t.lineCommands c l ↔
        (c.ports ≠ [] → t.OnlyComments Line.usesPorts → l.isPortless = true → l.families c = []) ∧
        (t.OnlyComments Line.hasTokens → l.families c ≠ [])) := by
  have htokens : t.OnlyComments Line.hasTokens ↔
      t.isTokenized = true ∧ t.bare.isTokenized = false := onlyComments_iff ht fun _ h ↦ h
  have hports : c.ports ≠ [] ∧ t.OnlyComments Line.usesPorts ↔
      t.isNarrowed c = true ∧ t.bare.isNarrowed c = false := by
    rw [onlyComments_iff ht fun _ ↦ Line.hasTokens_of_usesPorts, isNarrowed, isNarrowed]
    by_cases hc : c.ports = []
    · simp [hc]
    · simp [hc]
  rw [← and_imp, hports, htokens, lineCommands, lineCommands]
  cases hbare : t.bare.isTokenized with
  -- Some command has tokens, so what is left to differ is whether portless lines give way.
  | true =>
    have htokenized : t.isTokenized = true := any_of_any_bare hbare
    rw [htokenized, if_pos rfl, if_pos rfl]
    cases hportless : l.isPortless with
    | false => simp
    | true =>
      have hnil := Line.render_eq_nil_iff (Line.isPortless_iff.mp hportless).1 c
      cases hn : t.isNarrowed c with
      | false =>
        have hn' : t.bare.isNarrowed c = false :=
          Bool.eq_false_iff.mpr fun h ↦ by simp [isNarrowed_of_bare h] at hn
        simp [hn']
      | true =>
        cases hn' : t.bare.isNarrowed c with
        | true => simp
        | false => simpa using hnil
  -- No command has tokens, so every line is fixed and none gives way.
  | false =>
    have hfixed : l.hasTokens = false := any_bare_eq_false_iff.mp hbare l hl hcommand
    have hportless : l.isPortless = false :=
      Bool.eq_false_iff.mpr fun h ↦ by simp [Line.hasTokens_of_isPortless h] at hfixed
    rw [hportless, l.render_of_no_tokens hfixed]
    cases t.isTokenized with
    | false => simp
    | true => by_cases hfamilies : l.families c = [] <;> simp [hfamilies]

/-! ## Whole templates -/

/-- If every part of one list is a sublist of the same part of another, the lists are equal only if
all parts are. -/
theorem flatMap_eq_iff_of_sublist {α β : Type} {f g : α → List β} {xs : List α}
    (h : ∀ x ∈ xs, (f x).Sublist (g x)) :
    xs.flatMap g = xs.flatMap f ↔ ∀ x ∈ xs, g x = f x := by
  refine ⟨fun heq ↦ ?_, List.flatMap_congr⟩
  induction xs with
  | nil => exact fun x hx ↦ absurd hx List.not_mem_nil
  | cons x xs ih =>
    obtain ⟨hx, hxs⟩ := List.forall_mem_cons.mp h
    rw [List.flatMap_cons, List.flatMap_cons] at heq
    have hlength := congrArg List.length heq
    rw [List.length_append, List.length_append] at hlength
    -- Neither part is longer than its counterpart, so in equal lists both are as long.
    have hle : (xs.flatMap f).length ≤ (xs.flatMap g).length :=
      (List.Sublist.flatMap_right xs hxs).length_le
    obtain ⟨hhead, htail⟩ := List.append_inj heq (by have := hx.length_le; omega)
    exact List.forall_mem_cons.mpr ⟨hhead, ih hxs htail⟩

theorem render_bare (ht : t.WellRead) (c : Context) :
    (t.render c).Sublist (t.bare.render c) ∧
      (t.bare.render c = t.render c ↔
        (c.ports ≠ [] → t.OnlyComments Line.usesPorts →
          ∀ l ∈ t.lines, l.isCommand = true → l.isPortless = true → l.families c = []) ∧
        (t.OnlyComments Line.hasTokens →
          ∀ l ∈ t.lines, l.isCommand = true → l.families c ≠ [])) := by
  have hcommands : t.bare.lines.filter Line.isCommand = t.lines.filter Line.isCommand := by
    rw [bare, List.filter_filter]
    simp only [Bool.and_self]
  have hline : ∀ l ∈ t.lines.filter Line.isCommand, _ := fun l hl ↦
    lineCommands_bare ht (List.mem_of_mem_filter hl) (List.of_mem_filter hl) c
  rw [render_eq_flatMap_lineCommands, render_eq_flatMap_lineCommands, hcommands]
  refine ⟨List.Sublist.flatMap_right _ fun l hl ↦ (hline l hl).1, ?_⟩
  rw [flatMap_eq_iff_of_sublist fun l hl ↦ (hline l hl).1]
  constructor
  · intro hall
    have hboth : ∀ l ∈ t.lines, l.isCommand = true → _ := fun l hl hcommand ↦
      have hmem := List.mem_filter.mpr ⟨hl, hcommand⟩
      (hline l hmem).2.mp (hall l hmem)
    exact ⟨fun hc ho l hl hcommand ↦ (hboth l hl hcommand).1 hc ho,
      fun ho l hl hcommand ↦ (hboth l hl hcommand).2 ho⟩
  · rintro ⟨hports, htokens⟩ l hl
    obtain ⟨hmem, hcommand⟩ := List.mem_filter.mp hl
    exact (hline l hl).2.mpr
      ⟨fun hc ho ↦ hports hc ho l hmem hcommand, fun ho ↦ htokens ho l hmem hcommand⟩

theorem isDualFamily_bare (ht : t.WellRead) :
    t.bare.isDualFamily = t.isDualFamily ↔ ¬t.OnlyComments (·.has .iptables) := by
  rw [onlyComments_iff ht fun _ h ↦ Line.hasTokens_of_mem (Line.has_iff.mp h), isDualFamily,
    isDualFamily]
  cases hbare : t.bare.lines.any (·.has .iptables) with
  | true => simp [any_of_any_bare hbare]
  | false => simp

/-- What comments and blank lines do. Without them a template gives the same commands, and maybe
more. It gives more in two cases only: a line for any port gives way to comments that alone speak of
ports, or a fixed command is left out for its family because comments alone have tokens. And whether
the template serves both families changes only if comments alone have `$IPTABLES`. -/
theorem render_parse_bareText (path : Path) (content : Text) (c : Context) :
    ((parse path content).render c).Sublist ((parse path (bareText content)).render c) ∧
    ((parse path (bareText content)).render c = (parse path content).render c ↔
      (c.ports ≠ [] → (parse path content).OnlyComments Line.usesPorts →
        ∀ l ∈ (parse path content).lines,
          l.isCommand = true → l.isPortless = true → l.families c = []) ∧
      ((parse path content).OnlyComments Line.hasTokens →
        ∀ l ∈ (parse path content).lines, l.isCommand = true → l.families c ≠ [])) ∧
    ((parse path (bareText content)).isDualFamily = (parse path content).isDualFamily ↔
      ¬(parse path content).OnlyComments (·.has .iptables)) := by
  have ht := wellRead_parse path content
  obtain ⟨hsublist, hrender⟩ := render_bare ht c
  rw [parse_bareText]
  exact ⟨hsublist, hrender, isDualFamily_bare ht⟩

/-- A template with a comment that speaks of ports, and the context of a rule with a port. -/
private def remarked : Text := "# open $PORT\n$IPTABLES -A $CHAIN $SRC -j ACCEPT\n"

private def remarkedContext : Context where
  direction := .incoming
  chain := "INPUT"
  ports := [⟨⟨22, by decide⟩, .tcp⟩]

/-- The comment takes away both commands. -/
theorem render_parse_remarked :
    bareText remarked = "$IPTABLES -A $CHAIN $SRC -j ACCEPT\n".toList ∧
    (parse "t.incoming" remarked).render remarkedContext = [] ∧
    (parse "t.incoming" (bareText remarked)).render remarkedContext =
      ["/sbin/iptables -A INPUT -j ACCEPT", "/sbin/ip6tables -A INPUT -j ACCEPT"] := by
  refine ⟨by decide +kernel, by decide +kernel, by decide +kernel⟩

end PacketFilter.Template
