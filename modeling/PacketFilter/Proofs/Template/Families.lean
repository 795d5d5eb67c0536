import PacketFilter.Proofs.Template.Emission
import PacketFilter.Proofs.Template.Words

/-!
# Commands for one family

A command that hands an address of one family to the packet filter of the other fails, and the
script ends there. What a command runs is its first word, once the tokens are replaced. What decides
for which families a line is rendered is the line itself, before they are: `$IPTABLES` anywhere in
it, or else the first word as it is written.

The two agree for lines that are *routed*: `$IPTABLES` is the first word of a line and nothing else,
and the first word of every other line is literal. Then a line goes to the packet filter of the
family it is rendered for, and what is said to both is the same, word for word.
-/

namespace PacketFilter

/-- The program of a family's packet filter. -/
def Family.program : Family → Text
  | v4 => "iptables"
  | v6 => "ip6tables"

@[simp] theorem Family.programName_command (f : Family) :
    Template.Line.programName f.command = f.program := by
  cases f <;> decide

theorem Family.solid_command (f : Family) : Text.Solid f.command := by cases f <;> decide

@[simp] theorem Family.program_inj {f f' : Family} : f.program = f'.program ↔ f = f' := by
  cases f <;> cases f' <;> decide

namespace Template

/-- The program that a command runs: its first word, without the directories in front of it. -/
def program? (command : Text) : Option Text :=
  (Text.words command).head?.map Line.programName

namespace Line

/-- A line through `$IPTABLES` has it as its first word and nowhere else. The first word of any
other line has no token in it. -/
structure Routed (l : Line) : Prop where
  first : l.has .iptables = true → (Text.words l.raw).head? = some Token.iptables.print
  only : l.has .iptables = true → ∀ w ∈ (Text.words l.raw).tail, (parse w).has .iptables = false
  literal : l.has .iptables = false →
    ∀ w, (Text.words l.raw).head? = some w → (parse w).tokens = []

/-- The words of a line's commands after the first. -/
def arguments (l : Line) (c : Context) (port : Option Port) : List Text :=
  (Text.words l.raw).tail.flatMap fun w ↦ Text.words (c.expand none port w)

variable {raw : Text} {c : Context} {family : Option Family} {port : Option Port}

/-- The family of the packet filter that goes by a name. -/
def familyOf? (name : Text) : Option Family :=
  if name = Family.v4.program then some .v4
  else if name = Family.v6.program then some .v6
  else none

@[simp] theorem familyOf?_eq_some_iff {name : Text} {f : Family} :
    familyOf? name = some f ↔ name = f.program := by
  unfold familyOf?
  constructor
  · intro h
    split_ifs at h with h4 h6
    · rwa [← Option.some_inj.mp h]
    · rwa [← Option.some_inj.mp h]
  · rintro rfl
    cases f with
    | v4 => rw [if_pos rfl]
    | v6 => rw [if_neg (Family.program_inj.not.mpr (by decide)), if_pos rfl]

theorem literalFamily_eq_bind (l : Line) : l.literalFamily = (program? l.raw).bind familyOf? := by
  rw [literalFamily, program?]
  cases (Text.words l.raw).head? with
  | none => rfl
  | some w => rfl

theorem literalFamily_eq_some_iff {l : Line} {f : Family} :
    l.literalFamily = some f ↔ program? l.raw = some f.program := by
  rw [literalFamily_eq_bind]
  cases program? l.raw with
  | none => simp
  | some name => simp [familyOf?_eq_some_iff]

/-! ## The first word -/

theorem program?_substitute
    (h : ∀ w, (Text.words raw).head? = some w → (parse w).tokens = []) :
    program? ((parse raw).substitute c family port) = program? raw := by
  rw [program?, program?, words_substitute]
  cases hwords : Text.words raw with
  | nil => rfl
  | cons w rest =>
    have hsolid : Text.Solid w := Text.solid_of_mem_words (hwords ▸ List.mem_cons_self)
    have hkept : c.expand family port w = w := expand_of_no_tokens (h w (by rw [hwords]; rfl))
    rw [List.flatMap_cons, hkept, Text.words_of_solid hsolid]
    rfl

/-- A line through `$IPTABLES` says the same to the packet filter of either family. -/
theorem words_substitute_of_iptables {l : Line} (hl : l = parse raw)
    (hrouted : l.Routed) (hiptables : l.has .iptables = true) (f : Family) :
    Text.words (l.substitute c (some f) port) = f.command :: l.arguments c port := by
  subst hl
  obtain ⟨rest, hwords⟩ : ∃ rest, Text.words raw = Token.iptables.print :: rest :=
    List.head?_eq_some_iff.mp (hrouted.first hiptables)
  have hfirst : c.expand (some f) port Token.iptables.print = f.command := List.append_nil _
  have hrest : ∀ w ∈ rest, Text.words (c.expand (some f) port w) =
      Text.words (c.expand none port w) := by
    intro w hw
    have hmem : w ∈ (Text.words raw).tail := by rwa [hwords]
    rw [expand_family (hrouted.only hiptables w hmem) none]
  have harguments : (parse raw).arguments c port =
      rest.flatMap fun w ↦ Text.words (c.expand none port w) := by
    show ((Text.words raw).tail).flatMap _ = _
    rw [hwords]
    rfl
  rw [words_substitute, hwords, List.flatMap_cons, hfirst, Text.words_of_solid f.solid_command,
    List.flatMap_congr hrest, harguments]
  rfl

theorem substitute_family (h : (parse raw).has .iptables = false) (family' : Option Family) :
    (parse raw).substitute c family port = (parse raw).substitute c family' port := by
  have hexpand : c.expand family port raw = c.expand family' port raw := expand_family h family'
  rw [Context.expand, Context.expand] at hexpand
  rw [substitute, substitute]
  split
  · exact congrArg Text.squeeze hexpand
  · rfl

/-- What a line gives for one family: a command for each port, in order. -/
def commandsFor (l : Line) (c : Context) (family : Option Family) : List Text :=
  (l.portsOf c).map (l.substitute c family)

theorem render_of_iptables {l : Line} (h : l.has .iptables = true) (c : Context) :
    l.render c = (c.families.map some).flatMap (l.commandsFor c) := by
  rw [render, families_of_iptables h]
  rfl

theorem render_of_literal (h : (parse raw).has .iptables = false) (haddress : c.address = none) :
    (parse raw).render c = (parse raw).commandsFor c none := by
  have hfamilies : (parse raw).families c = [(parse raw).literalFamily] := by
    rw [families, h, haddress]
  rw [render, hfamilies, List.flatMap_singleton]
  refine List.map_congr_left fun port _ ↦ ?_
  exact substitute_family h none

instance (l : Line) : Decidable l.Routed :=
  decidable_of_iff
    ((l.has .iptables = true → (Text.words l.raw).head? = some Token.iptables.print) ∧
      (l.has .iptables = true → ∀ w ∈ (Text.words l.raw).tail, (parse w).has .iptables = false) ∧
      (l.has .iptables = false → ∀ w ∈ (Text.words l.raw).head?, (parse w).tokens = []))
    ⟨fun ⟨hfirst, honly, hliteral⟩ ↦ ⟨hfirst, honly, fun h w hw ↦ hliteral h w hw⟩,
      fun h ↦ ⟨h.first, h.only, fun hnot w hw ↦ h.literal hnot w hw⟩⟩

end Line

/-! ## Whole templates -/

variable {path : Path} {content : Text} {c : Context} {x : Emission}

theorem exists_of_mem_rendered {l : Line} (h : l ∈ (parse path content).rendered c) :
    l.isCommand = true ∧ ∃ raw, l = Line.parse raw := by
  obtain ⟨hl, hcommand, -⟩ := mem_rendered.mp h
  exact ⟨hcommand, exists_of_mem_parse hl⟩

/-- With an address, the packet filter that a command calls is the one of the address. -/
theorem Emission.family_of_program? {raw : Text} {r : Range} {f : Family}
    (hraw : x.line = Line.parse raw) (hrouted : x.line.Routed) (hr : c.address = some r)
    (hx : x.family ∈ x.line.families c) (hf : program? (x.command c) = some f.program) :
    f = r.family := by
  obtain ⟨l, family, port⟩ := x
  replace hf : program? (l.substitute c family port) = some f.program := hf
  cases hiptables : l.has .iptables with
  | true =>
    rw [Line.families_of_iptables hiptables, Context.families, hr] at hx
    obtain rfl : family = some r.family := List.mem_singleton.mp hx
    rw [program?, Line.words_substitute_of_iptables hraw hrouted hiptables] at hf
    exact Family.program_inj.mp ((Option.some_inj.mp hf).symm.trans r.family.programName_command)
  | false =>
    -- The first word is the one of the line, which is rendered for its own family only.
    have hfirst : program? (l.substitute c family port) = program? l.raw := by
      obtain rfl : l = Line.parse raw := hraw
      exact Line.program?_substitute (hrouted.literal hiptables)
    have hliteral : l.literalFamily = some f :=
      Line.literalFamily_eq_some_iff.mpr (hfirst.symm.trans hf)
    by_contra hne
    have hnone : l.families c = [] := by
      rw [Line.families, hiptables, hr, hliteral]
      exact if_neg hne
    exact List.not_mem_nil (hnone ▸ hx)

/-- **Every command goes to the packet filter of its family.** Let the command lines of a template
be routed. With an address, no command calls the packet filter of the other family. Without one, a
line through `$IPTABLES` gives its commands for IPv4 and then its commands for IPv6, for the same
ports in the same order and with the same words after the first; any other line gives its commands
once. -/
theorem render_routed (htokens : (parse path content).isTokenized = true)
    (hrouted : ∀ l ∈ (parse path content).lines, l.isCommand = true → l.Routed) (c : Context) :
    (∀ r, c.address = some r → ∀ command ∈ (parse path content).render c, ∀ f : Family,
      f ≠ r.family → program? command ≠ some f.program) ∧
    (c.address = none →
      (parse path content).render c =
        ((parse path content).rendered c).flatMap (·.render c) ∧
      ∀ l ∈ (parse path content).rendered c,
        (l.has .iptables = true →
          l.render c = l.commandsFor c (some .v4) ++ l.commandsFor c (some .v6) ∧
          ∀ port ∈ l.portsOf c, ∀ f : Family,
            Text.words (l.substitute c (some f) port) = f.command :: l.arguments c port) ∧
        (l.has .iptables = false → l.render c = l.commandsFor c none)) := by
  have hline : ∀ l ∈ (parse path content).rendered c, l.Routed ∧ ∃ raw, l = Line.parse raw :=
    fun l hl ↦
      have hparsed := exists_of_mem_rendered hl
      ⟨hrouted l (mem_rendered.mp hl).1 hparsed.1, hparsed.2⟩
  constructor
  · intro r hr command hcommand f hf hprogram
    rw [render_of_isTokenized htokens] at hcommand
    obtain ⟨x, hx, rfl⟩ := List.mem_map.mp hcommand
    obtain ⟨hl, hfamily, -⟩ := mem_emissions.mp hx
    obtain ⟨hrouted, raw, hraw⟩ := hline x.line hl
    exact hf (Emission.family_of_program? hraw hrouted hr hfamily hprogram)
  · intro haddress
    refine ⟨by rw [render, if_pos htokens]; rfl, fun l hl ↦ ?_⟩
    obtain ⟨hrouted, raw, hraw⟩ := hline l hl
    constructor
    · intro hiptables
      refine ⟨?_, fun port _ f ↦ Line.words_substitute_of_iptables hraw hrouted hiptables f⟩
      rw [Line.render_of_iptables hiptables, Context.families, haddress]
      exact congrArg _ (List.append_nil _)
    · intro hliteral
      subst hraw
      exact Line.render_of_literal hliteral haddress

private def loggedText : Text :=
  "$IPTABLES -A $CHAIN -p $PROTO --dport $PORT $ADDRESS -j ACCEPT\n/sbin/ip6tables -j LOG\n"

private def logged : Template := parse "open.incoming" loggedText

private def bothProtocols (n : PortNumber) (address : Option Range) : Context where
  direction := .incoming
  chain := "INPUT"
  address := address
  ports := Protocol.all.map (⟨n, ·⟩)

/-- A line for both families and one for IPv6: the second is left out for an IPv4 address, and
written once without an address. -/
theorem render_routed_domain :
    logged.isTokenized = true ∧ (∀ l ∈ logged.lines, l.isCommand = true → l.Routed) ∧
    (∀ command ∈ logged.render (bothProtocols 53 (some (.host (.ofOctets [10, 0, 0, 1])))),
      program? command ≠ some Family.v6.program) ∧
    logged.render (bothProtocols 53 none) =
      (logged.rendered (bothProtocols 53 none)).flatMap (·.render (bothProtocols 53 none)) ∧
    logged.render (bothProtocols 53 none) =
      (["/sbin/iptables -A INPUT -p tcp --dport 53 -j ACCEPT",
        "/sbin/iptables -A INPUT -p udp --dport 53 -j ACCEPT",
        "/sbin/ip6tables -A INPUT -p tcp --dport 53 -j ACCEPT",
        "/sbin/ip6tables -A INPUT -p udp --dport 53 -j ACCEPT",
        "/sbin/ip6tables -j LOG"] : List Text) := by
  have htokens : logged.isTokenized = true := by decide +kernel
  have hrouted : ∀ l ∈ logged.lines, l.isCommand = true → l.Routed := by decide +kernel
  refine ⟨htokens, hrouted, fun command hcommand ↦ ?_, ?_, by decide +kernel⟩
  · exact (render_routed htokens hrouted _).1 _ rfl command hcommand .v6 (by decide)
  · exact ((render_routed htokens hrouted _).2 rfl).1

end Template
end PacketFilter
