import PacketFilter.Login.Allowing
import PacketFilter.Proofs.Blocking.Decision
import PacketFilter.Script.AddressDirectory
import Mathlib.Data.List.Forall2

/-!
# Three ways to render an address

An address is let in or kept out because its file lies in a directory, because a user has logged in
from it, or because of its hits. In each case a rule for the address is rendered through one
template, and since the rule is about every port, the commands should be the same.

The rules differ in how they are named. Logins and decisions name the template as such and have no
ports. A directory looks the template's name up among the services. If a service goes by that name,
the rule has the ports of the service: lines for any port give way to lines for those ports, which a
rule without ports leaves out. `Template.IgnoresPorts` is what a template needs for this to make no
difference.
-/

namespace PacketFilter

namespace Template

variable {t : Template} {c : Context}

/-! ## Templates with and without ports -/

/-- The context of the same rule for any port. -/
def Context.withoutPorts (c : Context) : Context := { c with ports := [] }

/-- No command line that is rendered for addresses of a family speaks of ports, and if one is for
any port, then no line of the template speaks of them. -/
def IgnoresPorts (t : Template) (f : Family) : Prop :=
  ∀ l ∈ t.lines, l.isCommand = true → l.serves f = true →
    l.usesPorts = false ∧ (l.isPortless = true → ∀ k ∈ t.lines, k.usesPorts = false)

@[simp] theorem isNarrowed_withoutPorts (t : Template) (c : Context) :
    t.isNarrowed c.withoutPorts = false := rfl

/-- A line for no port in particular does not ask which ports there are. -/
theorem Line.emissions_withoutPorts {l : Line} (h : l.usesPorts = false) (c : Context) :
    l.emissions c.withoutPorts = l.emissions c := by
  rw [emissions, emissions, portsOf_of_not_usesPorts h, portsOf_of_not_usesPorts h]
  rfl

theorem Line.emissions_of_not_serves {l : Line} {r : Range} (hr : c.address = some r)
    (h : ¬l.serves r.family = true) : l.emissions c = [] := by
  have hnone : l.families c = [] := by
    by_contra hne
    exact h ((families_ne_nil_iff hr).mp hne)
  rw [emissions, hnone, List.flatMap_nil]

@[simp] theorem command_withoutPorts (c : Context) :
    Emission.command c.withoutPorts = Emission.command c := by
  have hfill : ∀ family port, c.withoutPorts.fill family port = c.fill family port := by
    intro family port
    funext s
    cases s with
    | text _ => rfl
    | token k => cases k <;> rfl
  funext x
  rw [Emission.command, Emission.command, Line.substitute, Line.substitute, hfill]

/-- The emissions of a template are those of its command lines, except of those that give way. -/
theorem emissions_eq_flatMap (t : Template) (c : Context) :
    t.emissions c = (t.lines.filter Line.isCommand).flatMap fun l ↦
      if t.isNarrowed c && l.isPortless then [] else l.emissions c := by
  rw [emissions, rendered, flatMap_filter]
  refine List.flatMap_congr fun l _ ↦ ?_
  cases t.isNarrowed c && l.isPortless <;> rfl

section Same

variable {l : Line} (hl : l ∈ t.lines) (hcommand : l.isCommand = true)
  (hsame : t.emissions c = t.emissions c.withoutPorts) (hports : c.ports ≠ [])
include hl hcommand hsame hports

/-- If ports make no difference, no line speaks of them: it would be left out without. -/
theorem not_usesPorts_of_same {family : Option Family} (hfamily : family ∈ l.families c) :
    l.usesPorts = false := by
  by_contra h
  have huses : l.usesPorts = true := by simpa using h
  obtain ⟨port, hport⟩ : ∃ port, port ∈ l.portsOf c := l.exists_mem_portsOf hports
  have hrendered : l ∈ t.rendered c := by
    refine mem_rendered.mpr ⟨hl, hcommand, fun hout ↦ ?_⟩
    rw [Line.isPortless_of_usesPorts huses] at hout
    exact Bool.noConfusion hout.2
  have hmem : ⟨l, family, port⟩ ∈ t.emissions c := mem_emissions.mpr ⟨hrendered, hfamily, hport⟩
  -- Without ports there is none that the line could be for.
  rw [hsame] at hmem
  have hnone := (mem_emissions.mp hmem).2.2
  rw [Line.portsOf_of_usesPorts huses] at hnone
  exact absurd hnone List.not_mem_nil

/-- If ports make no difference, a line for any port does not give way: it would be left out with
them. -/
theorem forall_not_usesPorts_of_same {family : Option Family} (hfamily : family ∈ l.families c)
    (hportless : l.isPortless = true) : ∀ k ∈ t.lines, k.usesPorts = false := by
  intro k hk
  by_contra h
  have hmem : ⟨l, family, none⟩ ∈ t.emissions c.withoutPorts := by
    refine mem_emissions.mpr ⟨mem_rendered.mpr ⟨hl, hcommand, fun hout ↦ ?_⟩, hfamily, ?_⟩
    · rw [isNarrowed_withoutPorts] at hout
      exact Bool.noConfusion hout.1
    · rw [Line.portsOf_of_not_usesPorts (Line.isPortless_iff.mp hportless).1]
      exact List.mem_singleton_self none
  rw [← hsame] at hmem
  have hstands := (mem_rendered.mp (mem_emissions.mp hmem).1).2.2
  exact hstands ⟨isNarrowed_iff.mpr ⟨hports, k, hk, by simpa using h⟩, hportless⟩

end Same

theorem IgnoresPorts.emissions_eq {r : Range} (h : t.IgnoresPorts r.family)
    (hr : c.address = some r) : t.emissions c = t.emissions c.withoutPorts := by
  rw [emissions_eq_flatMap, emissions_eq_flatMap]
  refine List.flatMap_congr fun l hl ↦ ?_
  obtain ⟨hl, hcommand⟩ := List.mem_filter.mp hl
  by_cases hserves : l.serves r.family = true
  · obtain ⟨huses, hportless⟩ := h l hl hcommand hserves
    have hstands : (t.isNarrowed c && l.isPortless) = false := by
      cases h : l.isPortless with
      | false => exact Bool.and_false _
      | true => rw [isNarrowed_of_forall_not_usesPorts (hportless h), Bool.false_and]
    rw [hstands, isNarrowed_withoutPorts, Bool.false_and, Line.emissions_withoutPorts huses]
  · rw [Line.emissions_of_not_serves hr hserves,
      Line.emissions_of_not_serves (c := c.withoutPorts) hr hserves, ite_self, ite_self]

/-- What a template gives for an address on some ports and on any is the same if there are no ports,
or if the template ignores them, and only then. -/
theorem emissions_withoutPorts_iff {r : Range} (hr : c.address = some r) :
    t.emissions c = t.emissions c.withoutPorts ↔
      c.ports = [] ∨ t.IgnoresPorts r.family := by
  constructor
  · intro hsame
    refine or_iff_not_imp_left.mpr fun hports l hl hcommand hserves ↦ ?_
    obtain ⟨family, hfamily⟩ :=
      List.exists_mem_of_ne_nil _ ((Line.families_ne_nil_iff hr).mpr hserves)
    exact ⟨not_usesPorts_of_same hl hcommand hsame hports hfamily,
      forall_not_usesPorts_of_same hl hcommand hsame hports hfamily⟩
  · rintro (hports | hignores)
    · rw [Context.withoutPorts, ← hports]
    · exact hignores.emissions_eq hr

theorem render_withoutPorts (h : t.emissions c = t.emissions c.withoutPorts) :
    t.render c.withoutPorts = t.render c := by
  by_cases htokens : t.isTokenized = true
  · rw [render_of_isTokenized htokens, render_of_isTokenized htokens, h, command_withoutPorts]
  · rw [render, render, if_neg htokens, if_neg htokens]

end Template

namespace AddressDirectory

variable {d : AddressDirectory} {e : Engine} {t : Tree} {template : Template} {names : List Text}
  {rs : List Range}

/-! ## Directories of addresses -/

/-- The context in which a directory renders its template for a range. -/
def context (d : AddressDirectory) (e : Engine) (r : Range) : Template.Context :=
  e.context { identifier := e.classify d.template, direction := .incoming, address := some r }

theorem render_of_ranges
    (hfound : e.findTemplate t [Direction.incoming.templateName d.template] = .ok template)
    (hnames : d.addresses t = .ok names)
    (hranges : List.Forall₂ (fun name r ↦ Range.parse name = .ok r) names rs) :
    d.render e t = .ok (rs.flatMap fun r ↦ template.render (d.context e r)) := by
  have hrender : d.render e t = .ok (names.flatMap fun a ↦ e.renderAddress template
      { identifier := e.classify d.template, direction := .incoming } (some a)) := by
    rw [render, hnames, hfound]
    rfl
  have hcontexts : List.Forall₂
      (fun raw c ↦ e.context?
        { identifier := e.classify d.template, direction := .incoming } raw = some c)
      (names.map some) (rs.map (d.context e)) := by
    rw [List.forall₂_map_left_iff, List.forall₂_map_right_iff]
    exact hranges.imp fun _ _ hparse ↦ Engine.context?_of_parse hparse
  rw [hrender, ← List.flatMap_map some, Engine.flatMap_renderAddress hcontexts, List.flatMap_map]

/-! ## Agreement -/

/-- Decisions to block every port are rendered for no port in particular. -/
theorem render_all {b : BlockPolicy} (hb : b.template = d.template)
    (hfound : e.findTemplate t [Direction.incoming.templateName d.template] = .ok template)
    (r : Range) : b.render e t [(r, .all)] = template.render (d.context e r).withoutPorts := by
  rw [BlockPolicy.render, hb, hfound]
  exact List.flatMap_singleton _ _

theorem renderAllowed_eq (hd : d.template = Login.allowTemplate)
    (hfound : e.findTemplate t [Direction.incoming.templateName d.template] = .ok template)
    (rs : List Range) :
    Login.renderAllowed e t rs =
      rs.flatMap fun r ↦ template.render (d.context e r).withoutPorts := by
  rw [Login.renderAllowed, ← hd, hfound]
  rfl

/-- **When directories agree with logins and decisions.** Let the template of a directory be found,
and all of its names be addresses. Then the directory is rendered like logins or decisions about the
same addresses, except that its rules have the ports of the service that goes by the template's
name. For an address the template gives the same in both cases exactly if there are no such ports or
the template ignores them. If this is so for every address, then the directory is rendered to the
commands of a decision to block every port of each, and, if the template is the one for logins, to
the commands for logins from them. -/
theorem render_agrees_iff {b : BlockPolicy} (hb : b.template = d.template)
    (hfound : e.findTemplate t [Direction.incoming.templateName d.template] = .ok template)
    (hnames : d.addresses t = .ok names)
    (hranges : List.Forall₂ (fun name r ↦ Range.parse name = .ok r) names rs) :
    d.render e t = .ok (rs.flatMap fun r ↦ template.render (d.context e r)) ∧
    (∀ r, b.render e t [(r, .all)] = template.render (d.context e r).withoutPorts) ∧
    (d.template = Login.allowTemplate → Login.renderAllowed e t rs =
      rs.flatMap fun r ↦ template.render (d.context e r).withoutPorts) ∧
    (∀ r, template.emissions (d.context e r) = template.emissions (d.context e r).withoutPorts ↔
      e.portsOf (e.classify d.template) = [] ∨ template.IgnoresPorts r.family) ∧
    ((∀ r ∈ rs, e.portsOf (e.classify d.template) = [] ∨ template.IgnoresPorts r.family) →
      d.render e t = .ok (rs.flatMap fun r ↦ b.render e t [(r, .all)]) ∧
      (d.template = Login.allowTemplate → d.render e t = .ok (Login.renderAllowed e t rs))) := by
  have hrender := render_of_ranges hfound hnames hranges
  have hiff : ∀ r,
      template.emissions (d.context e r) = template.emissions (d.context e r).withoutPorts ↔
        e.portsOf (e.classify d.template) = [] ∨ template.IgnoresPorts r.family := fun r ↦
    Template.emissions_withoutPorts_iff rfl
  refine ⟨hrender, render_all hb hfound, fun hd ↦ renderAllowed_eq hd hfound rs, hiff, ?_⟩
  intro hagree
  have hsame : (rs.flatMap fun r ↦ template.render (d.context e r)) =
      rs.flatMap fun r ↦ template.render (d.context e r).withoutPorts :=
    List.flatMap_congr fun r hr ↦
      (Template.render_withoutPorts ((hiff r).mpr (hagree r hr))).symm
  rw [hrender, hsame]
  refine ⟨?_, fun hd ↦ ?_⟩
  · simp only [render_all hb hfound]
  · rw [renderAllowed_eq hd hfound]

/-! ## A service of the template's name -/

private def friendText : Text :=
  "$IPTABLES -A $CHAIN -p $PROTO --dport $PORT $SRC -j ACCEPT\n" ++
    "$IPTABLES -A $CHAIN $SRC -j ACCEPT\n"

private def friendTree : Tree where
  entries :=
    [(["t"], .directory), (["t", "accept.incoming"], .file (Utf8.encode friendText)),
      (["w"], .directory), (["w", "10.0.0.1"], .file [])]

/-- An engine with one service on one port. -/
private def friendEngine (name : Text) : Engine :=
  { templateDirs := ["t"], services := .ofText (name ++ " 22/tcp") }

private def friend : Range := .host (.ofOctets [10, 0, 0, 1])

private def friendTemplate : Template := Template.parse "t/accept.incoming" friendText

private theorem friendTree_spec (name : Text) :
    (friendEngine name).findTemplate friendTree
      [Direction.incoming.templateName (allowing "w").template] = .ok friendTemplate ∧
    (allowing "w").addresses friendTree = .ok ["10.0.0.1"] ∧
    List.Forall₂ (fun name r ↦ Range.parse name = .ok r) ["10.0.0.1"] [friend] := by
  have hfind : (friendEngine name).find friendTree
      [Direction.incoming.templateName (allowing "w").template] = .ok "t/accept.incoming" := rfl
  have hload : Template.load friendTree "t/accept.incoming" = .ok friendTemplate :=
    Template.load_eq_ok_iff.mpr ⟨friendText, by decide +kernel, rfl⟩
  exact ⟨bind_eq_ok.mpr ⟨_, hfind, hload⟩, by decide +kernel, .cons (by decide +kernel) .nil⟩

/-- If the service has another name, users who have logged in from the address are let in by the
same command. -/
theorem render_agrees_iff_ssh :
    (friendEngine "ssh").findTemplate friendTree
      [Direction.incoming.templateName (allowing "w").template] = .ok friendTemplate ∧
    (allowing "w").addresses friendTree = .ok ["10.0.0.1"] ∧
    List.Forall₂ (fun name r ↦ Range.parse name = .ok r) ["10.0.0.1"] [friend] ∧
    (allowing "w").render (friendEngine "ssh") friendTree =
      .ok (Login.renderAllowed (friendEngine "ssh") friendTree [friend]) := by
  obtain ⟨hfound, hnames, hranges⟩ := friendTree_spec "ssh"
  obtain ⟨-, -, -, -, hagree⟩ :=
    render_agrees_iff (b := { template := "accept" }) rfl hfound hnames hranges
  have hports : (friendEngine "ssh").portsOf ((friendEngine "ssh").classify "accept") = [] := by
    decide +kernel
  exact ⟨hfound, hnames, hranges, (hagree fun _ _ ↦ Or.inl hports).2 rfl⟩

/-- A service called `accept` narrows the rule to its port. -/
theorem render_disagrees_accept :
    (friendEngine "accept").findTemplate friendTree
      [Direction.incoming.templateName (allowing "w").template] = .ok friendTemplate ∧
    (allowing "w").addresses friendTree = .ok ["10.0.0.1"] ∧
    List.Forall₂ (fun name r ↦ Range.parse name = .ok r) ["10.0.0.1"] [friend] ∧
    (allowing "w").render (friendEngine "accept") friendTree =
      .ok ["/sbin/iptables -A INPUT -p tcp --dport 22 --src 10.0.0.1/32 -j ACCEPT"] ∧
    Login.renderAllowed (friendEngine "accept") friendTree [friend] =
      ["/sbin/iptables -A INPUT --src 10.0.0.1/32 -j ACCEPT"] := by
  obtain ⟨hfound, hnames, hranges⟩ := friendTree_spec "accept"
  exact ⟨hfound, hnames, hranges, by decide +kernel, by decide +kernel⟩

end AddressDirectory
end PacketFilter
