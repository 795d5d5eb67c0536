import PacketFilter.Proofs.Blocking.Decision
import PacketFilter.Proofs.Rule.Identifier
import PacketFilter.Proofs.Template.Families

/-!
# How much a decision blocks

To block single ports, a template has lines that speak of ports; to block all of them, it has lines
that do not. A decision of one kind must not be rendered by lines of the other. A line without ports
that is rendered for a single port blocks them all, and the output does not show it: the command is
what a decision to block every port gives.

Nothing keeps the two apart but the rule that lines for any port give way to those for single ports.
It does so for a template whose command lines all match on a chain or an address and of which some
line speaks of ports. What is rendered for an address can then be read off: line by line, and for
each line port by port, leaving out only what belongs to the packet filter of the other family.
-/

namespace PacketFilter

namespace Template

/-! ## Lines for one family -/

/-- The lines that are not for a family are those that call the packet filter of the other by its
name. -/
theorem Line.serves_iff {l : Line} {f : Family} :
    l.serves f = true ↔
      l.has .iptables = true ∨ ∀ f' : Family, program? l.raw = some f'.program → f' = f := by
  rw [serves, Bool.or_eq_true]
  refine or_congr_right ?_
  simp only [← literalFamily_eq_some_iff]
  cases l.literalFamily with
  | none => simp
  | some family => simp

variable {raw : Text} {c : Context} {r : Range}

/-- For an address a line is rendered for one family or none. -/
theorem Line.render_of_address (hr : c.address = some r) :
    (parse raw).render c =
      if (parse raw).serves r.family then (parse raw).commandsFor c (some r.family) else [] := by
  by_cases hserves : (parse raw).serves r.family = true
  · rw [if_pos hserves]
    cases hiptables : (parse raw).has .iptables with
    | true =>
      rw [render_of_iptables hiptables, Context.families, hr]
      exact List.flatMap_singleton _ _
    | false =>
      obtain ⟨family, hfamily⟩ : ∃ family, (parse raw).families c = [family] := by
        rw [serves, hiptables, Bool.false_or] at hserves
        rw [families, hiptables, hr]
        cases hliteral : (parse raw).literalFamily with
        | none => exact ⟨_, rfl⟩
        | some family =>
          rw [hliteral] at hserves
          exact ⟨some family, if_pos (of_decide_eq_true hserves)⟩
      rw [render, hfamily, List.flatMap_singleton]
      refine List.map_congr_left fun port _ ↦ ?_
      exact substitute_family hiptables (some r.family)
  · have hnone : (parse raw).families c = [] := by
      by_contra hne
      exact hserves ((families_ne_nil_iff hr).mp hne)
    rw [if_neg hserves, render, hnone, List.flatMap_nil]

/-! ## Lines for single ports and for any -/

/-- The command lines for a family that speak of ports. -/
def portLines (t : Template) (f : Family) : List Line :=
  t.lines.filter fun l ↦ l.isCommand && l.usesPorts && l.serves f

/-- The command lines for a family that do not speak of ports. -/
def openLines (t : Template) (f : Family) : List Line :=
  t.lines.filter fun l ↦ l.isCommand && !l.usesPorts && l.serves f

/-- Every command line matches on a chain or an address, and some command line speaks of ports. -/
structure Separates (t : Template) : Prop where
  targeted : ∀ l ∈ t.lines, l.isCommand = true →
    ∃ k ∈ l.tokens, k ∈ [Token.chain, .src, .dest, .address]
  speaks : ∃ l ∈ t.lines, l.isCommand = true ∧ l.usesPorts = true

variable {t : Template}

/-- In such a template a command line speaks of ports or is for any port. -/
theorem Separates.isPortless_eq (ht : t.Separates) {l : Line} (hl : l ∈ t.lines)
    (hcommand : l.isCommand = true) : l.isPortless = !l.usesPorts := by
  rw [Line.isPortless, List.any_eq_true.mpr, Bool.and_true]
  obtain ⟨k, hk, htarget⟩ := ht.targeted l hl hcommand
  exact ⟨k, hk, decide_eq_true htarget⟩

section OfText

variable {path : Path} {content : Text} (ht : (parse path content).Separates)
  (hr : c.address = some r)
include ht hr

/-- A line that speaks of ports is rendered for each of them, and any other line if there are
none. -/
theorem Separates.render_eq :
    (parse path content).render c = (parse path content).lines.flatMap fun l ↦
      if l.isCommand && l.serves r.family then
        (if l.usesPorts then c.ports.map some else if c.ports = [] then [none] else []).map
          (l.substitute c (some r.family))
      else [] := by
  have htokens : ∀ l ∈ (parse path content).lines, l.isCommand = true → l.hasTokens = true := by
    intro l hl hcommand
    obtain ⟨k, hk, -⟩ := ht.targeted l hl hcommand
    exact Line.hasTokens_of_mem hk
  have hnarrowed : (parse path content).isNarrowed c = decide (c.ports ≠ []) := by
    obtain ⟨l, hl, -, huses⟩ := ht.speaks
    rw [isNarrowed, List.any_eq_true.mpr ⟨l, hl, huses⟩, Bool.and_true]
  rw [render_eq_flatMap htokens, rendered, flatMap_filter, flatMap_filter]
  refine List.flatMap_congr fun l hl ↦ ?_
  cases hcommand : l.isCommand with
  | false => rfl
  | true =>
    obtain ⟨raw, rfl⟩ := exists_of_mem_parse hl
    rw [if_pos rfl, Bool.true_and, ht.isPortless_eq hl hcommand, hnarrowed,
      Line.render_of_address hr, Line.commandsFor, Line.portsOf]
    cases (Line.parse raw).usesPorts <;> by_cases hports : c.ports = [] <;> simp [hports]

theorem Separates.render_of_ports (hports : c.ports ≠ []) :
    (parse path content).render c = ((parse path content).portLines r.family).flatMap fun l ↦
      c.ports.map fun p ↦ l.substitute c (some r.family) (some p) := by
  rw [ht.render_eq hr, portLines, flatMap_filter]
  refine List.flatMap_congr fun l _ ↦ ?_
  cases l.isCommand <;> cases l.usesPorts <;> simp [hports, Function.comp_def]

theorem Separates.render_of_no_ports (hports : c.ports = []) :
    (parse path content).render c =
      ((parse path content).openLines r.family).map fun l ↦
        l.substitute c (some r.family) none := by
  have hone : ∀ ls : List Line, (ls.map fun l ↦ l.substitute c (some r.family) none) =
      ls.flatMap fun l ↦ [l.substitute c (some r.family) none] := fun _ ↦ List.map_eq_flatMap
  rw [hone, ht.render_eq hr, openLines, flatMap_filter]
  refine List.flatMap_congr fun l _ ↦ ?_
  cases l.isCommand <;> cases l.usesPorts <;> simp [hports]

end OfText

end Template

/-! ## Decisions -/

/-- A name is a known port if it is a number or the name of a service, and then it stands for some
ports, each once. -/
theorem Engine.portsOf_classify {e : Engine} (he : e.services.Sound) (name : Text) :
    (e.portsOf (e.classify name) = [] ↔ ∃ t, e.classify name = .customName t) ∧
      (e.portsOf (e.classify name)).Nodup := by
  have hcustom : ∀ t,
      (e.portsOf (.customName t) = [] ↔ ∃ t', Identifier.customName t = .customName t') ∧
        (e.portsOf (.customName t)).Nodup :=
    fun t ↦ ⟨iff_of_true rfl ⟨t, rfl⟩, List.nodup_nil⟩
  rw [classify]
  rcases Identifier.classify_cases e.services name with
    ⟨n, -, -, hc⟩ | ⟨-, -, hc⟩ | ⟨s, -, hs, hc⟩ | ⟨-, -, hc⟩
  · have hboth : e.portsOf (.numericPort n) = [⟨n, .tcp⟩, ⟨n, .udp⟩] := rfl
    rw [hc, hboth]
    refine ⟨iff_of_false (List.cons_ne_nil _ _) ?_, by simp⟩
    rintro ⟨t, ht⟩
    cases ht
  · rw [hc]
    exact hcustom _
  · obtain ⟨hne, hnodup⟩ := he.ports _ (Sorted.mem_of_find? hs)
    rw [hc, portsOf_serviceName he hs]
    refine ⟨iff_of_false hne ?_, hnodup⟩
    rintro ⟨t, ht⟩
    cases ht
  · rw [hc]
    exact hcustom _

namespace BlockPolicy

variable {b : BlockPolicy} {e : Engine} {t : Tree} {template : Template}

/-- What blocks an address on some ports: the commands of each line that speaks of ports. -/
def portCommands (b : BlockPolicy) (e : Engine) (template : Template) (r : Range)
    (ports : List Port) : List Text :=
  (template.portLines r.family).flatMap fun l ↦
    ports.map fun p ↦ l.substitute (e.context (b.ruleFor r ports)) (some r.family) (some p)

/-- What blocks an address altogether: the command of each line that does not speak of ports. -/
def openCommands (b : BlockPolicy) (e : Engine) (template : Template) (r : Range) : List Text :=
  (template.openLines r.family).map fun l ↦
    l.substitute (e.context (b.ruleFor r [])) (some r.family) none

/-- What is written for a name: a remark if it is no known port. -/
def nameCommands (b : BlockPolicy) (e : Engine) (template : Template) (r : Range) (name : Text) :
    List Text :=
  if e.portsOf (e.classify name) = [] then
    [Remark.ignoring .incoming name (some r.print) "it names no known port"]
  else b.portCommands e template r (e.portsOf (e.classify name))

/-- What is written for a decision: an address is blocked altogether, or name by name. -/
def blockCommands (b : BlockPolicy) (e : Engine) (template : Template) : Range × Block → List Text
  | (r, .all) => b.openCommands e template r
  | (r, .ports names) => names.flatMap (b.nameCommands e template r)

/-- **How much a decision blocks.** Let a template be found whose command lines all match on a chain
or an address, some of them speaking of ports. Then a decision to block every port is rendered by
the lines that do not speak of ports. A decision to block single ports is rendered name by name: a
name that is no known port leaves a remark, and a known port is blocked by the lines that speak of
ports, each line once for each number and protocol. Of either kind of lines, only those are left out
that call the packet filter of the other family by its name. -/
theorem render_extent
    (hfound : e.findTemplate t [Direction.incoming.templateName b.template] = .ok template)
    (htemplate : template.Separates) (ds : Blocks) :
    b.render e t ds = ds.flatMap (b.blockCommands e template) ∧
    (∀ (l : Template.Line) (f : Family), l.serves f = true ↔
      l.has .iptables = true ∨ ∀ f' : Family, Template.program? l.raw = some f'.program → f' = f) ∧
    (e.services.Sound → ∀ name,
      (e.portsOf (e.classify name) = [] ↔ ∃ t, e.classify name = .customName t) ∧
        (e.portsOf (e.classify name)).Nodup) := by
  refine ⟨?_, fun _ _ ↦ Template.Line.serves_iff, fun he name ↦ Engine.portsOf_classify he name⟩
  obtain ⟨p, -, hload⟩ := Engine.exists_of_findTemplate hfound
  obtain ⟨content, -, rfl⟩ := Template.load_eq_ok_iff.mp hload
  rw [render, hfound]
  refine List.flatMap_congr fun d _ ↦ ?_
  obtain ⟨r, block⟩ := d
  cases block with
  | all => exact htemplate.render_of_no_ports rfl rfl
  | ports names =>
    refine List.flatMap_congr fun name _ ↦ ?_
    rw [renderPort, nameCommands]
    cases hports : e.portsOf (e.classify name) with
    | nil => rfl
    | cons port ports =>
      rw [if_neg (List.cons_ne_nil port ports)]
      exact htemplate.render_of_ports (c := e.context (b.ruleFor r (port :: ports))) rfl
        (List.cons_ne_nil port ports)

/-! ## One address on a port, and one on all -/

private def wallText : Text :=
  "$IPTABLES -A $CHAIN -p $PROTO --dport $PORT $SRC -j DROP\n" ++
    "$IPTABLES -A $CHAIN $SRC -j DROP\nip6tables -A $CHAIN $SRC -j LOG\n"

private def wallTree : Tree where
  entries := [(["t"], .directory), (["t", "reject.incoming"], .file (Utf8.encode wallText))]

private def wallEngine : Engine := { templateDirs := ["t"], services := .ofText "domain 53/udp" }

private def wall : Template := Template.parse "t/reject.incoming" wallText

private def wallBlocks : Blocks :=
  [(.host (.ofOctets [10, 0, 0, 1]), .all),
    (.host (.ofOctets [10, 0, 0, 2]), .ports ["domain", "gopher", "70"])]

/-- The line for any port is for the first address only, and the line for IPv6 for neither. -/
theorem render_extent_wall :
    wallEngine.findTemplate wallTree
      [Direction.incoming.templateName (BlockPolicy.template {})] = .ok wall ∧
    wall.Separates ∧ wallEngine.services.Sound ∧
    BlockPolicy.render {} wallEngine wallTree wallBlocks =
      (["/sbin/iptables -A INPUT --src 10.0.0.1/32 -j DROP",
        "/sbin/iptables -A INPUT -p udp --dport 53 --src 10.0.0.2/32 -j DROP",
        "# Ignoring incoming rule gopher to 10.0.0.2/32 because it names no known port",
        "/sbin/iptables -A INPUT -p tcp --dport 70 --src 10.0.0.2/32 -j DROP",
        "/sbin/iptables -A INPUT -p udp --dport 70 --src 10.0.0.2/32 -j DROP"] : List Text) ∧
    (wallEngine.portsOf (wallEngine.classify "domain")).Nodup := by
  have hfind : wallEngine.find wallTree
      [Direction.incoming.templateName (BlockPolicy.template {})] = .ok "t/reject.incoming" := rfl
  have hload : Template.load wallTree "t/reject.incoming" = .ok wall :=
    Template.load_eq_ok_iff.mpr ⟨wallText, by decide +kernel, rfl⟩
  have hfound : wallEngine.findTemplate wallTree
      [Direction.incoming.templateName (BlockPolicy.template {})] = .ok wall :=
    bind_eq_ok.mpr ⟨_, hfind, hload⟩
  have hseparates : wall.Separates := ⟨by decide +kernel, by decide +kernel⟩
  have hsound : wallEngine.services.Sound := (Registry.plain_ofTexts ["domain 53/udp"]).toSound
  obtain ⟨hrender, -, hports⟩ := render_extent hfound hseparates wallBlocks
  exact ⟨hfound, hseparates, hsound, hrender.trans (by decide +kernel), (hports hsound "domain").2⟩

end BlockPolicy
end PacketFilter
