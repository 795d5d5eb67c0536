import PacketFilter.Proofs.Address.Print
import PacketFilter.Proofs.Template.Emission

/-!
# Narrow commands

A command that names neither an address nor a port lets everything through. A template asks for one
or the other with its tokens, but a token may be left without a value: the address tokens if the
rule is for every address, `$PORT` never, because a line with it is rendered for the rule's ports
only. A command is *narrow* if some token of its line was given an address or a port.

## When everything is narrow

For a rule with an address, every line that asks for an address or a port is narrow, whatever the
template. For a rule without one it comes down to the lines without `$PORT`. Such a line has to give
way to the port lines, which takes two things: the template has a line that speaks of a port, and
the line itself does not, not even by `$PROTO`. `GivesWay` is this condition, and
`forall_isNarrow_iff` says that it is exactly what is needed.
-/

namespace PacketFilter.Template

/-- Whether the value of a token is an address or a port number. -/
def Token.isNarrowing : Token → Bool
  | src | dest | address | port => true
  | _ => false

/-- Whether a line asks for an address or a port number. -/
def Line.isGuarded (l : Line) : Bool := l.tokens.any Token.isNarrowing

theorem Line.isGuarded_iff {l : Line} :
    l.isGuarded = true ↔ ∃ k ∈ l.tokens, k.isNarrowing = true := List.any_eq_true

/-- An address or a port number was put into the command. -/
def Emission.IsNarrow (c : Context) (x : Emission) : Prop :=
  ∃ k ∈ x.line.tokens, k.isNarrowing = true ∧ c.value x.family x.port k ≠ []

/-! ## What a narrow command says -/

/-- A command that names the address of a context, or one of its ports. -/
def Context.NamedIn (c : Context) (command : Text) : Prop :=
  (∃ r, c.address = some r ∧
    ("--src ".toList ++ r.print <:+: command ∨ "--dst ".toList ++ r.print <:+: command)) ∨
  ∃ p ∈ c.ports, p.numeral <:+: command

variable {c : Context} {x : Emission}

/-- The values of a token end up in the command, between some text before and after. -/
theorem Emission.command_eq_squeeze {k : Token} (hk : k ∈ x.line.tokens) :
    ∃ a b, x.command c = Text.squeeze (a ++ (c.value x.family x.port k ++ b)) := by
  have hmem : .token k ∈ x.line.segments := of_decide_eq_true (Line.has_iff.mpr hk)
  obtain ⟨front, back, hsegments⟩ := List.append_of_mem hmem
  refine ⟨front.flatMap (c.fill x.family x.port), back.flatMap (c.fill x.family x.port), ?_⟩
  rw [Emission.command, Line.substitute, if_pos (Line.hasTokens_of_mem hk), hsegments,
    List.flatMap_append, List.flatMap_cons]
  rfl

/-- Besides `$PORT`, the narrowing tokens stand for the address under one of two flags. -/
private theorem value_eq_option {k : Token} (hk : k.isNarrowing = true) (hport : k ≠ .port)
    (c : Context) (family : Option Family) (port : Option Port) :
    c.value family port k = Context.value.option c "--src" ∨
      c.value family port k = Context.value.option c "--dst" := by
  cases k with
  | src => exact Or.inl rfl
  | dest => exact Or.inr rfl
  | address =>
    rw [Context.value]
    cases c.direction with
    | incoming => exact Or.inl rfl
    | outgoing => exact Or.inr rfl
  | port => exact absurd rfl hport
  | _ => cases hk

theorem option_of_address {r : Range} (hr : c.address = some r) (flag : Text) :
    Context.value.option c flag = flag ++ ' ' :: r.print := by
  rw [Context.value.option, hr]
  simp only [List.append_assoc]
  rfl

private theorem option_of_no_address (hr : c.address = none) (flag : Text) :
    Context.value.option c flag = [] := by rw [Context.value.option, hr]

theorem port_mem_of_mem_emissions {t : Template} (hx : x ∈ t.emissions c)
    (hk : .port ∈ x.line.tokens) : ∃ p ∈ c.ports, x.port = some p := by
  have hport := (mem_emissions.mp hx).2.2
  rw [Line.portsOf_of_usesPorts (Line.usesPorts_iff.mpr (Or.inl hk)), List.mem_map] at hport
  obtain ⟨p, hp, heq⟩ := hport
  exact ⟨p, hp, heq.symm⟩

theorem Emission.IsNarrow.namedIn {t : Template} (h : x.IsNarrow c) (hx : x ∈ t.emissions c) :
    c.NamedIn (x.command c) := by
  obtain ⟨k, hk, hnarrow, hvalue⟩ := h
  obtain ⟨a, b, hcommand⟩ := command_eq_squeeze (c := c) hk
  by_cases hkp : k = .port
  · subst hkp
    obtain ⟨p, hp, hport⟩ := port_mem_of_mem_emissions hx hk
    refine Or.inr ⟨p, hp, ?_⟩
    rw [hcommand, hport]
    exact Text.infix_squeeze (Text.solid_decimal _) a b
  · cases hr : c.address with
    | none =>
      rcases value_eq_option hnarrow hkp c x.family x.port with hv | hv <;>
        exact absurd (hv.trans (option_of_no_address hr _)) hvalue
    | some r =>
      refine Or.inl ⟨r, hr, ?_⟩
      have hsrc : Text.Solid "--src" := by decide
      have hdst : Text.Solid "--dst" := by decide
      rw [hcommand]
      rcases value_eq_option hnarrow hkp c x.family x.port with hv | hv
      · rw [hv, option_of_address hr]
        exact Or.inl (Text.pair_infix_squeeze hsrc r.solid_print a b)
      · rw [hv, option_of_address hr]
        exact Or.inr (Text.pair_infix_squeeze hdst r.solid_print a b)

/-! ## When every command is narrow -/

theorem Emission.isNarrow_of_port {t : Template} (hx : x ∈ t.emissions c)
    (hk : .port ∈ x.line.tokens) : x.IsNarrow c := by
  obtain ⟨p, -, hport⟩ := port_mem_of_mem_emissions hx hk
  refine ⟨.port, hk, rfl, ?_⟩
  rw [hport]
  exact (Text.solid_decimal p.number.val).1

/-- For a rule with an address, a template whose command lines ask for an address or a port gives
narrow commands only. -/
theorem Emission.isNarrow_of_address {t : Template}
    (ht : ∀ l ∈ t.lines, l.isCommand = true → l.isGuarded = true) {r : Range}
    (hr : c.address = some r) (hx : x ∈ t.emissions c) : x.IsNarrow c := by
  obtain ⟨hl, hcommand, -⟩ := mem_rendered.mp (mem_emissions.mp hx).1
  obtain ⟨k, hk, hnarrow⟩ := Line.isGuarded_iff.mp (ht x.line hl hcommand)
  by_cases hkp : k = .port
  · exact isNarrow_of_port hx (hkp ▸ hk)
  · refine ⟨k, hk, hnarrow, ?_⟩
    rcases value_eq_option hnarrow hkp c x.family x.port with hv | hv <;>
    · rw [hv, option_of_address hr]
      simp

/-- The lines of a template that have no `$PORT` give way to those that speak of ports. -/
def GivesWay (t : Template) : Prop :=
  ∀ l ∈ t.lines, l.isCommand = true →
    .port ∈ l.tokens ∨ .proto ∉ l.tokens ∧ ∃ k ∈ t.lines, k.usesPorts = true

/-- For a rule with ports and without an address, a template whose command lines ask for an address
or a port gives narrow commands only if, and only if, the lines without `$PORT` give way. -/
theorem forall_isNarrow_iff {t : Template}
    (ht : ∀ l ∈ t.lines, l.isCommand = true → l.isGuarded = true) (hr : c.address = none)
    (hports : c.ports ≠ []) : (∀ x ∈ t.emissions c, x.IsNarrow c) ↔ t.GivesWay := by
  constructor
  · intro hall l hl hcommand
    by_cases hport : .port ∈ l.tokens
    · exact Or.inl hport
    -- A line that were rendered would give a command with neither an address nor a port.
    have hnot : l ∉ t.rendered c := by
      intro hrendered
      obtain ⟨family, hfamily⟩ : ∃ family, family ∈ l.families c := l.exists_mem_families hr
      obtain ⟨port, hmem⟩ : ∃ port, port ∈ l.portsOf c := l.exists_mem_portsOf hports
      obtain ⟨k, hk, hnarrow, hvalue⟩ :=
        hall ⟨l, family, port⟩ (mem_emissions.mpr ⟨hrendered, hfamily, hmem⟩)
      have hkp : k ≠ .port := fun heq ↦ hport (heq ▸ hk)
      rcases value_eq_option hnarrow hkp c family port with hv | hv <;>
        exact hvalue (hv.trans (option_of_no_address hr _))
    have hout : t.isNarrowed c = true ∧ l.isPortless = true := by
      by_contra hin
      exact hnot (mem_rendered.mpr ⟨hl, hcommand, hin⟩)
    refine Or.inr ⟨fun hproto ↦ ?_, (isNarrowed_iff.mp hout.1).2⟩
    have huses := (Line.isPortless_iff.mp hout.2).1
    rw [Line.usesPorts_iff.mpr (Or.inr hproto)] at huses
    exact Bool.noConfusion huses
  · intro hgives x hx
    obtain ⟨hl, hcommand, hin⟩ := mem_rendered.mp (mem_emissions.mp hx).1
    rcases hgives x.line hl hcommand with hport | ⟨hproto, hother⟩
    · exact Emission.isNarrow_of_port hx hport
    by_cases hport : .port ∈ x.line.tokens
    · exact Emission.isNarrow_of_port hx hport
    -- Otherwise the line gives way, and was not rendered in the first place.
    have huses : x.line.usesPorts = false :=
      Bool.eq_false_iff.mpr fun h ↦ (Line.usesPorts_iff.mp h).elim hport hproto
    obtain ⟨k, hk, hnarrow⟩ := Line.isGuarded_iff.mp (ht x.line hl hcommand)
    have haddress : k ∈ [Token.chain, .src, .dest, .address] := by
      cases k with
      | port => exact absurd hk hport
      | src | dest | address => decide
      | _ => cases hnarrow
    exact absurd ⟨isNarrowed_iff.mpr ⟨hports, hother⟩,
      Line.isPortless_iff.mpr ⟨huses, k, hk, haddress⟩⟩ hin

end PacketFilter.Template
