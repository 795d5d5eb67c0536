import PacketFilter.Generator.Basic
import PacketFilter.Proofs.Service.Registry
import PacketFilter.Proofs.Template.Emission
import PacketFilter.Proofs.Text.Numeral
import PacketFilter.Rule.Engine
import Mathlib.Data.List.ProdSigma
import Mathlib.Data.Prod.Basic

/-!
# Generated files open what the generic template opens

A service can be opened in two ways: by the file that was generated for it, in which every port
has a line of its own, and by the generic template, whose one line is rendered for every port. The
first goes through the ports by number and then through the families, the second through the
families and then through the ports in order. Both are shown to be, up to order, the commands of
one product: the families of the address times the ports of the service, each pair once.

## Why no command is lost or doubled

The ports of a service are distinct, so grouping them by number only rearranges them. And the
command of a pair determines the pair: squeezed texts are equal only if they have the same words,
and the program, the protocol and the port are three words of every command with the same words in
between.
-/

namespace PacketFilter

/-! ## The common form -/

namespace Template

/-- The command that opens a port of one family in a context. -/
def openingCommand (c : Context) (family : Family) (p : Port) : Text :=
  Text.squeeze (Text.joinWith " "
    [family.command, "--append", c.chain, "--protocol", p.protocol.name, c.value none none .dev,
      "--destination-port", p.numeral, c.value none none .address, "--jump", "ACCEPT"])

private theorem words_openingCommand (c : Context) (family : Family) (p : Port) :
    Text.words (openingCommand c family p) =
      family.command :: "--append".toList :: (Text.words c.chain ++
        "--protocol".toList :: p.protocol.name :: (Text.words (c.value none none .dev) ++
          "--destination-port".toList :: p.numeral :: (Text.words (c.value none none .address) ++
            ["--jump".toList, "ACCEPT".toList]))) := by
  have hfamily : Text.words family.command = [family.command] :=
    Text.words_of_solid (by cases family <;> decide)
  have hprotocol : Text.words p.protocol.name = [p.protocol.name] :=
    Text.words_of_solid (by cases p.protocol <;> decide)
  have hnumeral : Text.words p.numeral = [p.numeral] :=
    Text.words_of_solid (Text.solid_decimal p.number.val)
  rw [openingCommand, Text.words_squeeze, Text.words_joinWith]
  simp only [List.flatMap_cons, List.flatMap_nil, hfamily, hprotocol, hnumeral, List.append_nil]
  rfl

theorem openingCommand_inj {c : Context} {family family' : Family} {p p' : Port}
    (h : openingCommand c family p = openingCommand c family' p') :
    family = family' ∧ p = p' := by
  -- The words in between are the same on both sides and cancel.
  have hwords := congrArg Text.words h
  rw [words_openingCommand, words_openingCommand] at hwords
  simp only [List.cons.injEq, true_and, List.append_cancel_left_eq] at hwords
  obtain ⟨hfamily, hprotocol, hnumeral, -⟩ := hwords
  have hf : family = family' := by
    cases family <;> cases family' <;> first | rfl | exact absurd hfamily (by decide)
  have hk : p.protocol = p'.protocol := by
    cases hp : p.protocol <;> cases hp' : p'.protocol <;> rw [hp, hp'] at hprotocol <;>
      first | rfl | exact absurd hprotocol (by decide)
  have hn : p.number = p'.number := Fin.ext (Text.decimal_inj.mp hnumeral)
  cases p
  cases p'
  exact ⟨hf, congrArg₂ Port.mk hn hk⟩

/-- The commands that open ports, family by family and port by port within each. -/
def openingCommands (c : Context) (ports : List Port) : List Text :=
  (c.families ×ˢ ports).map fun x ↦ openingCommand c x.1 x.2

theorem openingCommands_eq_flatMap (c : Context) (ports : List Port) :
    openingCommands c ports = c.families.flatMap fun f ↦ ports.map (openingCommand c f) := by
  show (c.families.flatMap fun f ↦ ports.map (Prod.mk f)).map _ = _
  rw [List.map_flatMap]
  refine List.flatMap_congr fun f _ ↦ ?_
  rw [List.map_map]
  rfl

theorem nodup_families (c : Context) : c.families.Nodup := by
  rw [Context.families]
  cases c.address with
  | some r => exact List.nodup_singleton _
  | none => decide

/-- Going through the ports first gives the same commands in another order. -/
theorem perm_openingCommands (c : Context) {ports grouped : List Port} (h : grouped.Perm ports)
    (hports : ports.Nodup) :
    (grouped.flatMap fun p ↦ c.families.map fun f ↦ openingCommand c f p).Perm
      (openingCommands c ports) := by
  -- Both are maps over one product, with its factors in either order.
  have hswap : ((grouped ×ˢ c.families).map Prod.swap).Perm (c.families ×ˢ ports) := by
    have hgrouped : (grouped ×ˢ c.families).Nodup :=
      (h.nodup_iff.mpr hports).product (nodup_families c)
    refine (List.perm_ext_iff_of_nodup (hgrouped.map Prod.swap_injective)
      ((nodup_families c).product hports)).mpr ?_
    rintro ⟨family, p⟩
    rw [List.mem_map_swap, List.mem_product, List.mem_product, h.mem_iff, and_comm]
  have hmap : (grouped.flatMap fun p ↦ c.families.map fun f ↦ openingCommand c f p) =
      ((grouped ×ˢ c.families).map Prod.swap).map fun x ↦ openingCommand c x.1 x.2 := by
    show _ = ((grouped.flatMap fun p ↦ c.families.map (Prod.mk p)).map Prod.swap).map _
    rw [List.map_map, List.map_flatMap]
    refine List.flatMap_congr fun p _ ↦ ?_
    rw [List.map_map]
    rfl
  rw [hmap]
  exact hswap.map _

theorem nodup_openingCommands (c : Context) {ports : List Port} (h : ports.Nodup) :
    (openingCommands c ports).Nodup := by
  refine ((nodup_families c).product h).map_on fun x _ y _ hxy ↦ ?_
  exact Prod.ext_iff.mpr (openingCommand_inj hxy)

end Template

namespace Generator

open Template

/-! ## The generic template -/

/-- The generic template that opens every port of a rule. -/
def genericText : Text :=
  "$IPTABLES --append $CHAIN --protocol $PROTO $DEV --destination-port $PORT $ADDRESS --jump ACCEPT"

private def genericStretches : List Stretch :=
  [⟨.iptables, " --append "⟩, ⟨.chain, " --protocol "⟩, ⟨.proto, " "⟩,
    ⟨.dev, " --destination-port "⟩, ⟨.port, " "⟩, ⟨.address, " --jump ACCEPT"⟩]

private theorem genericText_eq : genericText = [] ++ genericStretches.flatMap Stretch.print := by
  rfl

private theorem isReadable_generic : ∀ s ∈ genericStretches, s.IsReadable := by decide

@[simp] private theorem tokens_generic :
    (Line.parse genericText).tokens = genericStretches.map Stretch.token := by
  rw [genericText_eq, Line.tokens_parse List.not_mem_nil isReadable_generic]

@[simp] private theorem substitute_generic (c : Context) (family : Family) (p : Port) :
    (Line.parse genericText).substitute c (some family) (some p) = openingCommand c family p := by
  rw [genericText_eq, Line.substitute_parse List.not_mem_nil isReadable_generic (by decide),
    openingCommand]
  congr 1
  simp only [genericStretches, List.flatMap_cons, List.flatMap_nil, Text.joinWith,
    List.append_assoc, List.nil_append, List.append_nil]
  rfl

@[simp] theorem render_generic (path : Path) (c : Context) :
    (Template.parse path genericText).render c = openingCommands c c.ports := by
  have hlines : (Template.parse path genericText).lines = [Line.parse genericText] := by
    rw [Template.parse, show Text.lines genericText = [genericText] from by decide]
    rfl
  have hiptables : (Line.parse genericText).has .iptables = true := by
    rw [Line.has_iff, tokens_generic]
    decide
  have hports : (Line.parse genericText).usesPorts = true := by
    rw [Line.usesPorts, tokens_generic]
    decide
  have hcommand : (Line.parse genericText).isCommand = true := by decide
  have hrendered : (Template.parse path genericText).rendered c = [Line.parse genericText] := by
    rw [rendered, hlines, List.filter_singleton, hcommand]
    simp [Line.isPortless_of_usesPorts hports]
  have htokens : ∀ l ∈ (Template.parse path genericText).lines,
      l.isCommand = true → l.hasTokens = true := by
    rw [hlines]
    intro l hl _
    rw [List.mem_singleton.mp hl]
    exact Line.hasTokens_of_mem (Line.has_iff.mp hiptables)
  rw [render_eq_flatMap htokens, hrendered, List.flatMap_singleton, Line.render,
    Line.families_of_iptables hiptables, Line.portsOf_of_usesPorts hports,
    openingCommands_eq_flatMap, List.flatMap_map]
  refine List.flatMap_congr fun family _ ↦ ?_
  rw [List.map_map]
  exact List.map_congr_left fun p _ ↦ substitute_generic c family p

/-! ## Generated files -/

/-- The token for the address of a direction's rules. -/
private def addressToken : Direction → Token
  | .incoming => .src
  | .outgoing => .dest

private def portStretches (d : Direction) (p : Port) : List Stretch :=
  [⟨.iptables, " --append " ++ d.chain ++ " --protocol " ++ p.protocol.name ++ " "⟩,
    ⟨.dev, " --destination-port " ++ p.numeral ++ " "⟩, ⟨addressToken d, " --jump ACCEPT"⟩]

private theorem command_eq (d : Direction) (p : Port) :
    command d p = [] ++ (portStretches d p).flatMap Stretch.print := by
  unfold command portStretches
  -- The numeral and the protocol's name are opaque here; only the literals are compared.
  generalize p.numeral = numeral
  generalize p.protocol.name = protocol
  simp only [List.flatMap_cons, List.flatMap_nil, List.nil_append, List.append_nil,
    List.append_assoc, Stretch.print]
  cases d <;> rfl

private theorem isReadable_port (d : Direction) (p : Port) :
    ∀ s ∈ portStretches d p, s.IsReadable := by
  have hnumeral : '$' ∉ p.numeral := fun h ↦
    absurd (Nat.isDigit_of_mem_toDigits (by decide) (by decide) h) (by decide)
  have hprotocol : '$' ∉ p.protocol.name := by cases p.protocol <;> decide
  have hchain : '$' ∉ d.chain := by cases d <;> decide
  -- Every text starts with a blank, which ends the name of the token before it.
  have hhead : ∀ t : Text, ∀ c, (' ' :: t).head? = some c → Token.isNameChar c = false := by
    intro t c hc
    rw [← Option.some_inj.mp hc]
    rfl
  intro s hs
  simp only [portStretches, List.mem_cons, List.not_mem_nil, or_false] at hs
  rcases hs with rfl | rfl | rfl
  · refine ⟨?_, hhead _⟩
    simp only [List.mem_append, not_or]
    exact ⟨⟨⟨⟨by decide, hchain⟩, by decide⟩, hprotocol⟩, by decide⟩
  · refine ⟨?_, hhead _⟩
    simp only [List.mem_append, not_or]
    exact ⟨⟨by decide, hnumeral⟩, by decide⟩
  · have hjump : '$' ∉ " --jump ACCEPT".toList := by decide
    exact ⟨hjump, hhead _⟩

@[simp] private theorem tokens_command (d : Direction) (p : Port) :
    (Line.parse (command d p)).tokens = [.iptables, .dev, addressToken d] := by
  rw [command_eq, Line.tokens_parse List.not_mem_nil (isReadable_port d p)]
  rfl

private theorem substitute_command {c : Context} (hchain : c.chain = c.direction.chain)
    (family : Family) (p : Port) :
    (Line.parse (command c.direction p)).substitute c (some family) none =
      openingCommand c family p := by
  rw [command_eq, Line.substitute_parse List.not_mem_nil (isReadable_port _ p)
    (by simp [portStretches]), openingCommand, hchain]
  congr 1
  simp only [portStretches, List.flatMap_cons, List.flatMap_nil, Text.joinWith, List.append_assoc,
    List.nil_append, List.append_nil, Context.value]
  cases c.direction <;> rfl

private theorem oneLine_command (d : Direction) (p : Port) : Text.OneLine (command d p) := by
  have hnumeral : Text.OneLine p.numeral := (Text.solid_decimal _).oneLine
  have hprotocol : Text.OneLine p.protocol.name := by cases p.protocol <;> decide
  unfold command
  cases d <;>
  · simp only [Text.oneLine_append]
    exact ⟨⟨⟨⟨⟨⟨⟨⟨by decide, by decide⟩, by decide⟩, hprotocol⟩, by decide⟩, hnumeral⟩,
      by decide⟩, by decide⟩, by decide⟩

/-- The lines above the commands. -/
private def heading (s : Service) (d : Direction) : List Text :=
  [header, "#", "# Allow " ++ d.name ++ " connections for " ++ s.name, "#"]

variable {s : Service} {d : Direction}

private theorem fileLines_eq :
    fileLines s d = heading s d ++ (groupedPorts s).map (command d) ++ [[]] := rfl

/-- A name that is made of name characters breaks neither the line it stands on nor its reading. -/
private theorem heading_spec (hs : ∀ c ∈ s.name, Service.Line.isNameChar c = true) :
    ∀ l ∈ heading s d, Text.OneLine l ∧ '$' ∉ l ∧ (Line.parse l).isCommand = false := by
  have hone : Text.OneLine s.name := by
    intro c hc
    refine ⟨?_, ?_⟩ <;>
    · rintro rfl
      exact absurd (hs _ hc) (by decide)
  have hdollar : '$' ∉ s.name := fun hc ↦ absurd (hs _ hc) (by decide)
  have htitle : Text.OneLine ("# Allow " ++ d.name ++ " connections for ") ∧
      '$' ∉ "# Allow ".toList ++ d.name ++ " connections for ".toList := by
    cases d <;> decide
  intro l hl
  simp only [heading, List.mem_cons, List.not_mem_nil, or_false] at hl
  rcases hl with rfl | rfl | rfl | rfl
  · decide
  · decide
  · refine ⟨Text.oneLine_append.mpr ⟨htitle.1, hone⟩, ?_, rfl⟩
    rw [List.mem_append, not_or]
    exact ⟨htitle.2, hdollar⟩
  · decide

@[simp] private theorem isCommand_command (d : Direction) (p : Port) :
    (Line.parse (command d p)).isCommand = true := by
  unfold command
  rfl

theorem lines_fileText (hs : ∀ c ∈ s.name, Service.Line.isNameChar c = true) :
    Text.lines (fileText s d) = fileLines s d := by
  rw [fileText]
  refine Text.lines_flatMap fun l hl ↦ ?_
  rw [fileLines_eq, List.mem_append, List.mem_append] at hl
  rcases hl with (hl | hl) | hl
  · exact (heading_spec hs l hl).1
  · obtain ⟨p, -, rfl⟩ := List.mem_map.mp hl
    exact oneLine_command d p
  · rw [List.mem_singleton.mp hl]
    exact fun c hc ↦ absurd hc List.not_mem_nil

private theorem commands_fileText (hs : ∀ c ∈ s.name, Service.Line.isNameChar c = true)
    (path : Path) :
    (Template.parse path (fileText s d)).lines.filter Line.isCommand =
      (groupedPorts s).map fun p ↦ Line.parse (command d p) := by
  have hheading : ((heading s d).map Line.parse).filter Line.isCommand = [] := by
    rw [List.filter_eq_nil_iff]
    intro l hl
    obtain ⟨raw, hraw, rfl⟩ := List.mem_map.mp hl
    rw [(heading_spec hs raw hraw).2.2]
    exact Bool.false_ne_true
  have hcommands : ((groupedPorts s).map fun p ↦ Line.parse (command d p)).filter Line.isCommand =
      (groupedPorts s).map fun p ↦ Line.parse (command d p) := by
    rw [List.filter_eq_self]
    intro l hl
    obtain ⟨p, -, rfl⟩ := List.mem_map.mp hl
    exact isCommand_command d p
  rw [Template.parse, lines_fileText hs, fileLines_eq, List.map_append, List.map_append,
    List.map_map, List.filter_append, List.filter_append, hheading, List.nil_append]
  show ((groupedPorts s).map fun p ↦ Line.parse (command d p)).filter Line.isCommand ++ [] = _
  rw [hcommands, List.append_nil]

private theorem not_usesPorts_fileText (hs : ∀ c ∈ s.name, Service.Line.isNameChar c = true)
    (path : Path) : ∀ l ∈ (Template.parse path (fileText s d)).lines, l.usesPorts = false := by
  intro l hl
  obtain ⟨raw, hraw, rfl⟩ := List.mem_map.mp hl
  rw [lines_fileText hs, fileLines_eq, List.mem_append, List.mem_append] at hraw
  rw [Line.usesPorts]
  rcases hraw with (hraw | hraw) | hraw
  · rw [Line.tokens_parse_of_not_mem (heading_spec hs raw hraw).2.1]
    rfl
  · obtain ⟨p, -, rfl⟩ := List.mem_map.mp hraw
    rw [tokens_command]
    cases d <;> rfl
  · rw [List.mem_singleton.mp hraw]
    rfl

/-- A generated file opens its ports one by one, each for every family. -/
theorem render_fileText (hs : ∀ c ∈ s.name, Service.Line.isNameChar c = true) (path : Path)
    {c : Context} (hchain : c.chain = c.direction.chain) :
    (Template.parse path (fileText s c.direction)).render c =
      (groupedPorts s).flatMap fun p ↦ c.families.map fun f ↦ openingCommand c f p := by
  have hiptables : ∀ p, (Line.parse (command c.direction p)).has .iptables = true := by
    intro p
    rw [Line.has_iff, tokens_command]
    exact List.mem_cons_self
  have htokens : ∀ l ∈ (Template.parse path (fileText s c.direction)).lines,
      l.isCommand = true → l.hasTokens = true := by
    intro l hl hcommand
    have hmem := List.mem_filter.mpr ⟨hl, hcommand⟩
    rw [commands_fileText hs path] at hmem
    obtain ⟨p, -, rfl⟩ := List.mem_map.mp hmem
    exact Line.hasTokens_of_mem (Line.has_iff.mp (hiptables p))
  have hports : ∀ p, (Line.parse (command c.direction p)).usesPorts = false := by
    intro p
    rw [Line.usesPorts, tokens_command]
    cases c.direction <;> rfl
  rw [render_eq_flatMap htokens, rendered, commands_fileText hs path,
    isNarrowed_of_forall_not_usesPorts (not_usesPorts_fileText hs path)]
  simp only [Bool.false_and, Bool.not_false, List.filter_true, List.flatMap_map]
  refine List.flatMap_congr fun p _ ↦ ?_
  rw [Line.render, Line.families_of_iptables (hiptables p), Line.portsOf_of_not_usesPorts (hports p),
    List.flatMap_map]
  simp only [List.map_singleton, substitute_command hchain]
  exact List.map_eq_flatMap.symm

/-! ## Grouping -/

@[simp] theorem mem_groupedPorts {p : Port} : p ∈ groupedPorts s ↔ p ∈ s.ports := by
  rw [groupedPorts, List.mem_flatMap]
  constructor
  · rintro ⟨n, -, hp⟩
    exact (List.mem_filter.mp hp).1
  · intro hp
    exact ⟨p.number, Service.mem_portNumbers.mpr ⟨p, hp, rfl⟩,
      List.mem_filter.mpr ⟨hp, decide_eq_true rfl⟩⟩

theorem perm_groupedPorts (h : s.ports.Nodup) : (groupedPorts s).Perm s.ports := by
  refine (List.perm_ext_iff_of_nodup ?_ h).mpr fun p ↦ mem_groupedPorts
  refine List.nodup_flatMap.mpr ⟨fun n _ ↦ h.filter _, ?_⟩
  refine (Service.nodup_portNumbers s).imp fun {m n} hmn p hm hn ↦ hmn ?_
  have hpm := of_decide_eq_true (List.mem_filter.mp hm).2
  have hpn := of_decide_eq_true (List.mem_filter.mp hn).2
  exact hpm.symm.trans hpn

/-! ## Agreement -/

/-- The rule for a service, in the direction's chain and with the service's own ports. -/
def serviceRule (s : Service) (d : Direction) (address : Option Range) (device : Option Text) :
    Rule where
  identifier := .serviceName s.name
  direction := d
  address := address
  device := device

/-- **The generated file and the generic template agree.** A service of a registry that was read
from texts is found under its name, and compiling its rule through the file generated for it gives,
up to order, the same commands as compiling it through the generic template. Both are the opening
commands of the families of the address and the ports of the service, one for each pair and none
twice. -/
theorem perm_generated_generic {texts : List Text} {s : Service}
    (hs : s ∈ (Registry.ofTexts texts).services) {e : Engine}
    (he : e.services = Registry.ofTexts texts) (d : Direction) (address : Option Range)
    (device : Option Text) (path path' : Path) :
    let rule := serviceRule s d address device
    let generated := (e.compileWith rule (Template.parse path (fileText s d))).commands
    let generic := (e.compileWith rule (Template.parse path' genericText)).commands
    let opening := openingCommands (e.context rule) s.ports
    e.services.find? s.name = some s ∧ generated.Perm generic ∧ generated.Perm opening ∧
      generic.Perm opening ∧ opening.Nodup := by
  intro rule generated generic opening
  -- What was read from texts is sound, which gives the service's ports back from its name.
  have hplain := Registry.plain_ofTexts texts
  have hfind : e.services.find? s.name = some s := by
    rw [he]
    exact Registry.find?_of_mem_services hplain.toSound hs
  have hnodup : s.ports.Nodup := Registry.nodup_ports hplain.toSound hs
  have hports : (e.context rule).ports = s.ports := by
    show ((e.services.find? s.name).map Service.ports).getD [] = s.ports
    rw [hfind]
    rfl
  have hgeneric : generic = opening := by
    show (Template.parse path' genericText).render (e.context rule) = opening
    rw [render_generic, hports]
  have hgenerated : generated.Perm opening := by
    have hrender := render_fileText (Registry.isNameChar_of_mem_name hplain hs) path
      (c := e.context rule) rfl
    show ((Template.parse path (fileText s d)).render (e.context rule)).Perm opening
    rw [show d = (e.context rule).direction from rfl, hrender]
    exact perm_openingCommands _ (perm_groupedPorts hnodup) hnodup
  exact ⟨hfind, hgeneric ▸ hgenerated, hgenerated, .of_eq hgeneric,
    nodup_openingCommands _ hnodup⟩

/-- Two texts that both name one service. -/
private def sshTexts : List Text := ["ssh 22/tcp\nsmtp 25/tcp mail", "SSH 22/udp ssh\n"]

private def ssh : Service := ⟨"ssh", [⟨22, .tcp⟩, ⟨22, .udp⟩]⟩

private def sshEngine : Engine := { services := Registry.ofTexts sshTexts }

theorem perm_generated_generic_ssh :
    ssh ∈ (Registry.ofTexts sshTexts).services ∧ sshEngine.services = Registry.ofTexts sshTexts ∧
      let rule := serviceRule ssh .incoming none (some "eth0")
      let generated :=
        (sshEngine.compileWith rule (Template.parse "ssh" (fileText ssh .incoming))).commands
      let generic := (sshEngine.compileWith rule (Template.parse "accept" genericText)).commands
      generated.Perm generic := by
  have hs : ssh ∈ (Registry.ofTexts sshTexts).services := by decide
  exact ⟨hs, rfl,
    (perm_generated_generic hs rfl .incoming none (some "eth0") "ssh" "accept").2.1⟩

end Generator
end PacketFilter
