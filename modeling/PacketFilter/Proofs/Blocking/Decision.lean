import PacketFilter.Proofs.Blocking.Threshold
import PacketFilter.Proofs.Script.RuleDirectory
import PacketFilter.Proofs.Template.Comment
import PacketFilter.Proofs.Template.Narrowing

/-!
# What becomes of a decision

A decision to block an address is rendered through one template in some contexts: one without ports
if every port is blocked, and otherwise one for each name that has ports. Every context has the
address as its source. A name without ports leaves a remark, in which the address is named as well.

So an address can only be lost between the template and its contexts. Of the lines that ask for the
source of incoming traffic, those that speak of ports are skipped in a context without ports, and
those for any port give way in a context with ports, if the template has lines for ports at all. A
template whose only such line is `$IPTABLES -A $CHAIN -p $PROTO --dport $PORT $SRC -j REJECT` blocks
single ports and never all of them, and says nothing about it. `Block.Reaches` is what a template
needs for a decision to be seen.
-/

namespace PacketFilter

open Template

/-! ## Lines that name the source -/

namespace Template

/-- Whether a line asks for the source of incoming traffic. -/
def Line.takesSource (l : Line) : Bool := l.tokens.any (· ∈ [.src, .address])

/-- Whether a line is rendered for addresses of a family. -/
def Line.serves (l : Line) (f : Family) : Bool := l.has .iptables || l.literalFamily.all (· = f)

/-- A command line that puts the source of incoming traffic of a family into its commands. -/
structure Line.Sourced (l : Line) (f : Family) : Prop where
  isCommand : l.isCommand = true
  takesSource : l.takesSource = true
  serves : l.serves f = true

variable {l : Line} {c : Context} {r : Range} {t : Template}

theorem Line.Sourced.of_has (hcommand : l.isCommand = true) (hiptables : l.has .iptables = true)
    (hsrc : l.has .src = true) (f : Family) : l.Sourced f where
  isCommand := hcommand
  takesSource := List.any_eq_true.mpr ⟨.src, Line.has_iff.mp hsrc, by decide⟩
  serves := by rw [Line.serves, hiptables]; rfl

theorem Line.takesSource_iff :
    l.takesSource = true ↔ ∃ k ∈ l.tokens, k ∈ [Token.src, .address] := by
  rw [takesSource, List.any_eq_true]
  simp only [decide_eq_true_eq]

theorem Line.families_ne_nil_iff (hr : c.address = some r) :
    l.families c ≠ [] ↔ l.serves r.family = true := by
  rw [families, serves, hr]
  cases l.has .iptables with
  | true => simp
  | false =>
    cases l.literalFamily with
    | none => simp
    | some family => by_cases h : family = r.family <;> simp [h]

theorem Line.portsOf_ne_nil_iff : l.portsOf c ≠ [] ↔ l.usesPorts = false ∨ c.ports ≠ [] := by
  rw [portsOf]
  cases l.usesPorts <;> simp

theorem Line.isPortless_of_takesSource (hsource : l.takesSource = true)
    (hports : l.usesPorts = false) : l.isPortless = true := by
  obtain ⟨k, hk, hsrc⟩ := takesSource_iff.mp hsource
  refine isPortless_iff.mpr ⟨hports, k, hk, ?_⟩
  rcases List.mem_pair.mp hsrc with rfl | rfl <;> decide

/-- The source is named in the commands of a line that asks for it. -/
theorem Emission.names_source {x : Emission} (hincoming : c.direction = .incoming)
    (hr : c.address = some r) (hsource : x.line.takesSource = true) :
    "--src ".toList ++ r.print <:+: x.command c := by
  obtain ⟨k, hk, hsrc⟩ := Line.takesSource_iff.mp hsource
  have hvalue : c.value x.family x.port k = "--src".toList ++ ' ' :: r.print := by
    rcases List.mem_pair.mp hsrc with rfl | rfl
    · exact option_of_address hr "--src"
    · rw [Context.value, hincoming]
      exact option_of_address hr "--src"
  have hflag : Text.Solid "--src" := by decide
  obtain ⟨a, b, hcommand⟩ := command_eq_squeeze (c := c) hk
  rw [hcommand, hvalue]
  exact Text.pair_infix_squeeze hflag r.solid_print a b

/-- The source is named if a line that asks for it is left standing and is about some family and
some port. -/
theorem exists_takesSource_iff :
    (∃ x ∈ t.emissions c, x.line.takesSource = true) ↔
      ∃ l ∈ t.rendered c, l.takesSource = true ∧ l.families c ≠ [] ∧ l.portsOf c ≠ [] := by
  constructor
  · rintro ⟨x, hx, hsource⟩
    obtain ⟨hl, hfamily, hport⟩ := mem_emissions.mp hx
    exact ⟨x.line, hl, hsource, List.ne_nil_of_mem hfamily, List.ne_nil_of_mem hport⟩
  · rintro ⟨l, hl, hsource, hfamilies, hports⟩
    obtain ⟨family, hfamily⟩ := List.exists_mem_of_ne_nil _ hfamilies
    obtain ⟨port, hport⟩ := List.exists_mem_of_ne_nil _ hports
    exact ⟨⟨l, family, port⟩, mem_emissions.mpr ⟨hl, hfamily, hport⟩, hsource⟩

/-- Without ports, the source is named by lines that do not speak of ports. -/
theorem exists_takesSource_of_no_ports (hr : c.address = some r) (hports : c.ports = []) :
    (∃ x ∈ t.emissions c, x.line.takesSource = true) ↔
      ∃ l ∈ t.lines, l.Sourced r.family ∧ l.usesPorts = false := by
  have hnarrowed : t.isNarrowed c = false := by rw [isNarrowed, hports]; rfl
  rw [exists_takesSource_iff]
  simp only [mem_rendered, hnarrowed, Bool.false_eq_true, false_and, not_false_eq_true, and_true,
    Line.families_ne_nil_iff hr, Line.portsOf_ne_nil_iff, hports, ne_eq, not_true_eq_false,
    or_false]
  constructor
  · rintro ⟨l, ⟨hl, hcommand⟩, hsource, hserves, huses⟩
    exact ⟨l, hl, ⟨hcommand, hsource, hserves⟩, huses⟩
  · rintro ⟨l, hl, ⟨hcommand, hsource, hserves⟩, huses⟩
    exact ⟨l, ⟨hl, hcommand⟩, hsource, hserves, huses⟩

/-- With ports, the source is named by lines that speak of ports, or by all if none do. -/
theorem exists_takesSource_of_ports (hr : c.address = some r) (hports : c.ports ≠ []) :
    (∃ x ∈ t.emissions c, x.line.takesSource = true) ↔
      ∃ l ∈ t.lines, l.Sourced r.family ∧
        (l.usesPorts = true ∨ ∀ k ∈ t.lines, k.usesPorts = false) := by
  have hnarrowed : t.isNarrowed c = true ↔ ¬∀ k ∈ t.lines, k.usesPorts = false := by
    rw [isNarrowed_iff]
    simp [hports]
  rw [exists_takesSource_iff]
  simp only [mem_rendered, hnarrowed, Line.families_ne_nil_iff hr, Line.portsOf_ne_nil_iff]
  constructor
  · rintro ⟨l, ⟨hl, hcommand, hstanding⟩, hsource, hserves, -⟩
    refine ⟨l, hl, ⟨hcommand, hsource, hserves⟩, ?_⟩
    cases huses : l.usesPorts with
    | true => exact Or.inl rfl
    | false =>
      refine Or.inr ?_
      by_contra hnone
      exact hstanding ⟨hnone, Line.isPortless_of_takesSource hsource huses⟩
  · rintro ⟨l, hl, ⟨hcommand, hsource, hserves⟩, hstands⟩
    refine ⟨l, ⟨hl, hcommand, ?_⟩, hsource, hserves, Or.inr hports⟩
    rintro ⟨hsome, hportless⟩
    rcases hstands with huses | hnone
    · rw [Line.isPortless_of_usesPorts huses] at hportless
      exact Bool.noConfusion hportless
    · exact hsome hnone

end Template

/-! ## Decisions -/

@[simp] theorem Remark.head?_ignoring (d : Direction) (name : Text) (target : Option Text)
    (reason : Text) : (ignoring d name target reason).head? = some '#' := by
  unfold ignoring
  cases target <;> rfl

/-- A line that shows an address: a command with the address as its source, or a remark on it. -/
def Range.ShownIn (r : Range) (line : Text) : Prop :=
  "--src ".toList ++ r.print <:+: line ∨
    ∃ name reason, line = Remark.ignoring .incoming name (some r.print) reason

namespace Block

/-- The names of ports that leave a remark. -/
def unknownNames (e : Engine) : Block → List Text
  | .all => []
  | .ports names => names.filter fun name ↦ e.portsOf (e.classify name) = []

/-- What a template needs for a decision on an address of a family to be seen. To block every port,
the template has to name the source in a line that does not speak of ports. To block single ports it
has to do so in a line that does, if its commands speak of ports at all; a name that is no known
port is seen in any case. -/
def Reaches (e : Engine) (t : Template) (f : Family) : Block → Prop
  | .all => ∃ l ∈ t.lines, l.Sourced f ∧ l.usesPorts = false
  | .ports names =>
    (∃ name ∈ names, e.portsOf (e.classify name) = []) ∨
    ∃ l ∈ t.lines, l.Sourced f ∧
      (l.usesPorts = true ∨ ∀ k ∈ t.lines, k.isCommand = true → k.usesPorts = false)

end Block

namespace BlockPolicy

variable {b : BlockPolicy} {e : Engine} {t : Tree} {c : HitCount} {template : Template}
  {d : Range × Block}

theorem ports_ne_nil_of_mem_decide {r : Range} {names : List Text}
    (h : (r, .ports names) ∈ b.decide c) : names ≠ [] := by
  obtain ⟨cs, -, hports⟩ := Sorted.mem_filterMap_values.mp h
  exact (decideRange_eq_ports_iff.mp hports).2.1

/-- The contexts in which the template is rendered for a decision. -/
def contexts (b : BlockPolicy) (e : Engine) : Range × Block → List Context
  | (r, .all) => [e.context (b.ruleFor r [])]
  | (r, .ports names) =>
    (names.filter fun name ↦ e.portsOf (e.classify name) ≠ []).map fun name ↦
      e.context (b.ruleFor r (e.portsOf (e.classify name)))

@[simp] theorem mem_contexts_all {r : Range} {x : Context} :
    x ∈ b.contexts e (r, .all) ↔ x = e.context (b.ruleFor r []) := List.mem_singleton

theorem mem_contexts_ports {r : Range} {names : List Text} {x : Context} :
    x ∈ b.contexts e (r, .ports names) ↔
      ∃ name ∈ names, e.portsOf (e.classify name) ≠ [] ∧
        x = e.context (b.ruleFor r (e.portsOf (e.classify name))) := by
  rw [contexts, List.mem_map]
  simp only [List.mem_filter, decide_eq_true_eq, and_assoc, eq_comm (a := x)]

@[simp] theorem mem_unknownNames {names : List Text} {name : Text} :
    name ∈ (Block.ports names).unknownNames e ↔
      name ∈ names ∧ e.portsOf (e.classify name) = [] := by
  rw [Block.unknownNames, List.mem_filter, decide_eq_true_eq]

/-- Every context of a decision is about traffic that comes from the address. -/
theorem context_spec {x : Context} (h : x ∈ b.contexts e d) :
    x.direction = .incoming ∧ x.address = some d.1 := by
  obtain ⟨r, block⟩ := d
  cases block with
  | all =>
    rw [mem_contexts_all.mp h]
    exact ⟨rfl, rfl⟩
  | ports names =>
    obtain ⟨name, -, -, rfl⟩ := mem_contexts_ports.mp h
    exact ⟨rfl, rfl⟩

theorem mem_renderBlock_iff {line : Text} :
    line ∈ b.renderBlock e template d ↔
      (∃ x ∈ b.contexts e d, line ∈ template.render x) ∨
      ∃ name ∈ d.2.unknownNames e,
        line = Remark.ignoring .incoming name (some d.1.print) "it names no known port" := by
  obtain ⟨r, block⟩ := d
  cases block with
  | all => simp [renderBlock, mem_contexts_all, Block.unknownNames, Engine.compileWith]
  | ports names =>
    have hport : ∀ name, line ∈ b.renderPort e template r name ↔
        (e.portsOf (e.classify name) ≠ [] ∧
          line ∈ template.render (e.context (b.ruleFor r (e.portsOf (e.classify name))))) ∨
        e.portsOf (e.classify name) = [] ∧
          line = Remark.ignoring .incoming name (some r.print) "it names no known port" := by
      intro name
      rw [renderPort]
      cases e.portsOf (e.classify name) with
      | nil => simp
      | cons port ports => simp [Engine.compileWith]
    simp only [renderBlock, List.mem_flatMap, hport, mem_contexts_ports, mem_unknownNames]
    constructor
    · rintro ⟨name, hname, ⟨hknown, hline⟩ | ⟨hunknown, hline⟩⟩
      · exact Or.inl ⟨_, ⟨name, hname, hknown, rfl⟩, hline⟩
      · exact Or.inr ⟨name, ⟨hname, hunknown⟩, hline⟩
    · rintro (⟨x, ⟨name, hname, hknown, rfl⟩, hline⟩ | ⟨name, ⟨hname, hunknown⟩, hline⟩)
      · exact ⟨name, hname, Or.inl ⟨hknown, hline⟩⟩
      · exact ⟨name, hname, Or.inr ⟨hunknown, hline⟩⟩

/-- With a tokenized template, decisions are rendered to what is made of its lines, and to
remarks. -/
theorem mem_render_iff
    (hfound : e.findTemplate t [Direction.incoming.templateName b.template] = .ok template)
    (htokens : template.isTokenized = true) {ds : Blocks} {line : Text} :
    line ∈ b.render e t ds ↔ ∃ d ∈ ds,
      (∃ x ∈ b.contexts e d, ∃ m ∈ template.emissions x, line = m.command x) ∨
      ∃ name ∈ d.2.unknownNames e,
        line = Remark.ignoring .incoming name (some d.1.print) "it names no known port" := by
  have hrender : b.render e t ds = ds.flatMap (b.renderBlock e template) := by rw [render, hfound]
  rw [hrender, List.mem_flatMap]
  simp only [mem_renderBlock_iff, render_of_isTokenized htokens, List.mem_map, eq_comm (b := line)]

/-! ## Decisions that are seen -/

/-- Something that is printed for a decision was given its address: a command that asks for the
source, or a remark. -/
def Traced (b : BlockPolicy) (e : Engine) (template : Template) (d : Range × Block) : Prop :=
  (∃ x ∈ b.contexts e d, ∃ m ∈ template.emissions x, m.line.takesSource = true) ∨
    ∃ name, name ∈ d.2.unknownNames e

theorem traced_iff (hd : d ∈ b.decide c) (ht : template.WellRead)
    (hcomments : ¬template.OnlyComments Line.usesPorts) :
    b.Traced e template d ↔ d.2.Reaches e template d.1.family := by
  obtain ⟨r, block⟩ := d
  rw [Traced]
  cases block with
  | all =>
    have hsource := exists_takesSource_of_no_ports (t := template)
      (c := e.context (b.ruleFor r [])) rfl rfl
    simp only [mem_contexts_all, exists_eq_left, hsource, Block.unknownNames, List.not_mem_nil,
      exists_false, or_false, Block.Reaches]
  | ports names =>
    -- Comments speak of ports only if commands do, so it is enough to ask those.
    have hall : (∀ k ∈ template.lines, k.isCommand = true → k.usesPorts = false) ↔
        ∀ k ∈ template.lines, k.usesPorts = false := by
      refine ⟨fun hcommands ↦ ?_, fun h k hk _ ↦ h k hk⟩
      have hnone : ¬template.lines.any Line.usesPorts = true := fun hany ↦ hcomments <|
        (onlyComments_iff ht fun _ ↦ Line.hasTokens_of_usesPorts).mpr
          ⟨hany, any_bare_eq_false_iff.mpr hcommands⟩
      simpa using hnone
    have hsource : ∀ name, e.portsOf (e.classify name) ≠ [] → _ := fun name hknown ↦
      exists_takesSource_of_ports (t := template)
        (c := e.context (b.ruleFor r (e.portsOf (e.classify name)))) rfl hknown
    simp only [mem_contexts_ports, mem_unknownNames, Block.Reaches, hall]
    constructor
    · rintro (⟨x, ⟨name, -, hknown, rfl⟩, hsourced⟩ | hunknown)
      · exact Or.inr ((hsource name hknown).mp hsourced)
      · exact Or.inl hunknown
    · rintro (hunknown | hline)
      · exact Or.inr hunknown
      -- Any name will do: without a port it leaves a remark, and with one the line is rendered.
      · obtain ⟨name, hname⟩ := List.exists_mem_of_ne_nil names (ports_ne_nil_of_mem_decide hd)
        by_cases hknown : e.portsOf (e.classify name) = []
        · exact Or.inr ⟨name, hname, hknown⟩
        · exact Or.inl ⟨_, ⟨name, hname, hknown, rfl⟩, (hsource name hknown).mpr hline⟩

/-- A decision that is seen has a line that shows the address. -/
theorem Traced.exists_shownIn (htraced : b.Traced e template d) (hd : d ∈ b.decide c)
    (hfound : e.findTemplate t [Direction.incoming.templateName b.template] = .ok template)
    (htokens : template.isTokenized = true) :
    ∃ line ∈ b.render e t (b.decide c), d.1.ShownIn line := by
  simp only [mem_render_iff hfound htokens]
  rcases htraced with ⟨x, hx, m, hm, hsource⟩ | ⟨name, hname⟩
  · obtain ⟨hincoming, haddress⟩ := context_spec hx
    exact ⟨m.command x, ⟨d, hd, Or.inl ⟨x, hx, m, hm, rfl⟩⟩,
      Or.inl (Emission.names_source hincoming haddress hsource)⟩
  · exact ⟨_, ⟨d, hd, Or.inr ⟨name, hname, rfl⟩⟩, Or.inr ⟨name, _, rfl⟩⟩

/-- A template that names the source in a line for single ports and in a line for any port reaches
every decision. -/
theorem reaches_of_both_kinds
    (hopen : ∃ l ∈ template.lines, l.Sourced d.1.family ∧ l.usesPorts = false)
    (hports : ∃ l ∈ template.lines, l.Sourced d.1.family ∧ l.usesPorts = true) :
    d.2.Reaches e template d.1.family := by
  obtain ⟨r, block⟩ := d
  cases block with
  | all => exact hopen
  | ports names =>
    obtain ⟨l, hl, hsourced, huses⟩ := hports
    exact Or.inr ⟨l, hl, hsourced, Or.inl huses⟩

/-- **Which decisions are seen.** Let the template be found, and let some command line of it go
through `$IPTABLES` and ask for `$SRC`; let comments speak of ports only if some command does. Then
what is printed are commands of the template and remarks on names that are no known port, each for
some decision. Something that is printed for a decision was given its address exactly if the
template reaches the decision, and there is a line then that shows the address. -/
theorem render_decide_traced
    (hfound : e.findTemplate t [Direction.incoming.templateName b.template] = .ok template)
    (hline : ∃ l ∈ template.lines,
      l.isCommand = true ∧ l.has .iptables = true ∧ l.has .src = true)
    (hcomments : ¬template.OnlyComments Line.usesPorts) :
    (∀ line, line ∈ b.render e t (b.decide c) ↔ ∃ d ∈ b.decide c,
      (∃ x ∈ b.contexts e d, ∃ m ∈ template.emissions x, line = m.command x) ∨
      ∃ name ∈ d.2.unknownNames e,
        line = Remark.ignoring .incoming name (some d.1.print) "it names no known port") ∧
    ∀ d ∈ b.decide c,
      (b.Traced e template d ↔ d.2.Reaches e template d.1.family) ∧
      (b.Traced e template d → ∃ line ∈ b.render e t (b.decide c), d.1.ShownIn line) := by
  obtain ⟨l, hl, -, hiptables, -⟩ := hline
  have htokens : template.isTokenized = true :=
    List.any_eq_true.mpr ⟨l, hl, Line.hasTokens_of_mem (Line.has_iff.mp hiptables)⟩
  obtain ⟨p, -, hload⟩ := Engine.exists_of_findTemplate hfound
  have ht : template.WellRead := wellRead_of_load hload
  refine ⟨fun line ↦ mem_render_iff hfound htokens, fun d hd ↦ ?_⟩
  exact ⟨traced_iff hd ht hcomments, fun htraced ↦ htraced.exists_shownIn hd hfound htokens⟩

/-! ## A template for single ports -/

/-- A line that rejects an address on single ports, and one that rejects it on all of them. -/
private def rejectPort : Text := "$IPTABLES --dport $PORT $SRC -j DROP\n"

private def rejectAll : Text := "$IPTABLES $SRC -j DROP\n"

private def rejectTree (content : Text) : Tree where
  entries := [(["t"], .directory), (["t", "reject.incoming"], .file (Utf8.encode content))]

private def rejectEngine : Engine := { templateDirs := ["t"], services := .ofText "ssh 22/tcp" }

private def rejectTemplate (content : Text) : Template :=
  Template.parse "t/reject.incoming" content

private theorem findTemplate_reject {content : Text}
    (hread : (rejectTree content).load "t/reject.incoming" = .ok content) :
    rejectEngine.findTemplate (rejectTree content)
      [Direction.incoming.templateName (BlockPolicy.template {})] =
        .ok (rejectTemplate content) := by
  have hfind : rejectEngine.find (rejectTree content)
      [Direction.incoming.templateName (BlockPolicy.template {})] = .ok "t/reject.incoming" := rfl
  have hload : Template.load (rejectTree content) "t/reject.incoming" =
      .ok (rejectTemplate content) := load_eq_ok_iff.mpr ⟨content, hread, rfl⟩
  exact bind_eq_ok.mpr ⟨_, hfind, hload⟩

/-- One address that is blocked altogether, and one that is blocked on a single port. -/
private def guesses : HitCount where
  entries :=
    [(.host (.ofOctets [10, 0, 0, 1]), [("all", 11)]),
      (.host (.ofOctets [10, 0, 0, 2]), [("ssh", 11)])]

private theorem decide_guesses : BlockPolicy.decide {} guesses =
    [(.host (.ofOctets [10, 0, 0, 1]), .all),
      (.host (.ofOctets [10, 0, 0, 2]), .ports ["ssh"])] := by
  decide +kernel

private def portLine : Line where
  raw := "$IPTABLES --dport $PORT $SRC -j DROP"
  segments :=
    [.token .iptables, .text " --dport ", .token .port, .text " ", .token .src, .text " -j DROP"]

private def openLine : Line where
  raw := "$IPTABLES $SRC -j DROP"
  segments := [.token .iptables, .text " ", .token .src, .text " -j DROP"]

private theorem portLine_spec : portLine.isCommand = true ∧ portLine.has .iptables = true ∧
    portLine.has .src = true ∧ portLine.usesPorts = true := by decide +kernel

private theorem openLine_spec : openLine.isCommand = true ∧ openLine.has .iptables = true ∧
    openLine.has .src = true ∧ openLine.usesPorts = false := by decide +kernel

/-- With a line of each kind, both addresses are shown. -/
theorem render_decide_traced_both :
    rejectEngine.findTemplate (rejectTree (rejectPort ++ rejectAll))
        [Direction.incoming.templateName (BlockPolicy.template {})] =
      .ok (rejectTemplate (rejectPort ++ rejectAll)) ∧
    (∃ l ∈ (rejectTemplate (rejectPort ++ rejectAll)).lines,
      l.isCommand = true ∧ l.has .iptables = true ∧ l.has .src = true) ∧
    ¬(rejectTemplate (rejectPort ++ rejectAll)).OnlyComments Line.usesPorts ∧
    ∀ d ∈ BlockPolicy.decide {} guesses,
      ∃ line ∈ BlockPolicy.render {} rejectEngine (rejectTree (rejectPort ++ rejectAll))
        (BlockPolicy.decide {} guesses), d.1.ShownIn line := by
  obtain ⟨hopenCommand, hopenIptables, hopenSrc, hopenUses⟩ := openLine_spec
  obtain ⟨hportCommand, hportIptables, hportSrc, hportUses⟩ := portLine_spec
  have hlines : (rejectTemplate (rejectPort ++ rejectAll)).lines = [portLine, openLine] := by rfl
  have hportMem : portLine ∈ (rejectTemplate (rejectPort ++ rejectAll)).lines := by simp [hlines]
  have hopenMem : openLine ∈ (rejectTemplate (rejectPort ++ rejectAll)).lines := by simp [hlines]
  have hfound : rejectEngine.findTemplate (rejectTree (rejectPort ++ rejectAll))
      [Direction.incoming.templateName (BlockPolicy.template {})] =
        .ok (rejectTemplate (rejectPort ++ rejectAll)) := findTemplate_reject (by decide +kernel)
  have hline : ∃ l ∈ (rejectTemplate (rejectPort ++ rejectAll)).lines,
      l.isCommand = true ∧ l.has .iptables = true ∧ l.has .src = true :=
    ⟨openLine, hopenMem, hopenCommand, hopenIptables, hopenSrc⟩
  have hcomments : ¬(rejectTemplate (rejectPort ++ rejectAll)).OnlyComments Line.usesPorts := by
    intro honly
    rw [honly.2 portLine hportMem hportCommand] at hportUses
    exact Bool.noConfusion hportUses
  refine ⟨hfound, hline, hcomments, fun d hd ↦ ?_⟩
  obtain ⟨htraced, hshown⟩ := (render_decide_traced hfound hline hcomments).2 d hd
  refine hshown (htraced.mpr (reaches_of_both_kinds ?_ ?_))
  · exact ⟨openLine, hopenMem, .of_has hopenCommand hopenIptables hopenSrc _, hopenUses⟩
  · exact ⟨portLine, hportMem, .of_has hportCommand hportIptables hportSrc _, hportUses⟩

/-- Blocking every port gives no line at all. -/
theorem render_decide_untraced :
    rejectEngine.findTemplate (rejectTree rejectPort)
        [Direction.incoming.templateName (BlockPolicy.template {})] =
      .ok (rejectTemplate rejectPort) ∧
    (∃ l ∈ (rejectTemplate rejectPort).lines,
      l.isCommand = true ∧ l.has .iptables = true ∧ l.has .src = true) ∧
    BlockPolicy.decide {} guesses =
      [(.host (.ofOctets [10, 0, 0, 1]), .all),
        (.host (.ofOctets [10, 0, 0, 2]), .ports ["ssh"])] ∧
    BlockPolicy.render {} rejectEngine (rejectTree rejectPort) (BlockPolicy.decide {} guesses) =
      ["/sbin/iptables --dport 22 --src 10.0.0.2/32 -j DROP"] ∧
    ¬(Range.host (.ofOctets [10, 0, 0, 1])).ShownIn
      "/sbin/iptables --dport 22 --src 10.0.0.2/32 -j DROP" := by
  have hline : ∃ l ∈ (rejectTemplate rejectPort).lines,
      l.isCommand = true ∧ l.has .iptables = true ∧ l.has .src = true :=
    ⟨portLine, by decide +kernel, portLine_spec.1, portLine_spec.2.1, portLine_spec.2.2.1⟩
  refine ⟨findTemplate_reject (by decide +kernel), hline, decide_guesses, ?_, ?_⟩
  · rw [decide_guesses]
    decide +kernel
  · rintro (hcommand | ⟨name, reason, hremark⟩)
    · exact absurd hcommand (by decide +kernel)
    · have hhead := congrArg List.head? hremark
      rw [Remark.head?_ignoring] at hhead
      exact absurd hhead (by decide)

end BlockPolicy
end PacketFilter
