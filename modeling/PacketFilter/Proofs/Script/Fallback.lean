import PacketFilter.Proofs.Script.RuleDirectory
import PacketFilter.Proofs.Template.Narrowing

/-!
# What the default template lets through

A rule without a template of its own takes the default one, if it names a port or an address. The
guard is there so that nothing is accepted altogether: given neither, the default template would do
just that. What is put into a command is decided later, though, line by line, and the guard does not
look at the lines.

With an address the guard is enough, since every line that asks for an address gets one. With ports
only, a line without `$PORT` is given nothing, and whether it is rendered depends on the rest of the
template. The guarantee holds for exactly those templates whose lines without `$PORT` give way to
lines for ports. A default template such as `$IPTABLES -A $CHAIN $SRC -j ACCEPT` has no line to give
way to, so a rule for one port opens all of them.
-/

namespace PacketFilter.RuleDirectory

open Template

variable {d : RuleDirectory} {e : Engine} {t : Tree} {r : RuleEntry} {template : Template}

/-- A rule that is rendered without a template of its own has passed the guard. -/
theorem ports_or_address_of_found (hown : e.findOne? t (d.direction.templateName r.name) = none)
    (hfound : e.findTemplate t (d.candidates e r) = .ok template) :
    e.portsOf (e.classify r.name) ≠ [] ∨ r.hasAddress = true := by
  by_contra hguard
  obtain ⟨p, hp, -⟩ := Engine.exists_of_findTemplate hfound
  rw [candidates] at hp
  simp only [hguard, if_false, List.findSome?_cons, hown, List.findSome?_nil] at hp
  cases hp

private theorem exists_address_of_mem_contexts (hsome : ∀ raw ∈ r.addresses, raw ≠ none)
    {c : Context} (hc : c ∈ d.contexts e r) : ∃ range, c.address = some range := by
  obtain ⟨raw, hraw, hcontext⟩ := List.mem_filterMap.mp hc
  obtain ⟨text, rfl⟩ := Option.ne_none_iff_exists'.mp (hsome raw hraw)
  obtain ⟨range, -, rfl⟩ := Engine.exists_of_context? hcontext
  exact ⟨range, rfl⟩

/-- **What the fallback emits is narrow, if lines without a port give way.** Let a rule of a
directory have no template of its own and be rendered through the default template, every command
line of which asks for an address or a port number. Then each line it is rendered to is a remark on
a text that is no address or a command of the template, and a command into which an address or a
port number was put names the rule's address or one of its ports. This is the case of every command
exactly if the rule has an address or the template's lines without `$PORT` give way. -/
theorem fallback_isNarrow_iff {entries : List RuleEntry} (hentries : d.entries t = .ok entries)
    (hr : r ∈ entries) (hown : e.findOne? t (d.direction.templateName r.name) = none)
    (hfound : e.findTemplate t (d.candidates e r) = .ok template)
    (hguarded : ∀ l ∈ template.lines, l.isCommand = true → l.isGuarded = true) :
    (∀ line, line ∈ d.renderEntry e t r ↔
      (∃ c ∈ d.contexts e r, ∃ x ∈ template.emissions c, line = x.command c) ∨
      ∃ text cause, some text ∈ r.addresses ∧ Range.parse text = .error cause ∧
        line = Remark.ignoring d.direction (e.classify r.name).name (some text) cause.message) ∧
    (∀ c ∈ d.contexts e r, ∀ x ∈ template.emissions c, x.IsNarrow c → c.NamedIn (x.command c)) ∧
    ((∀ c ∈ d.contexts e r, ∀ x ∈ template.emissions c, x.IsNarrow c) ↔
      r.hasAddress = true ∨ template.GivesWay) := by
  refine ⟨fun line ↦ ?_, fun c _ x hx hnarrow ↦ hnarrow.namedIn hx, ?_⟩
  · have htokens : ∀ l ∈ template.lines, l.isCommand = true → l.hasTokens = true := by
      intro l hl hcommand
      obtain ⟨k, hk, -⟩ := Line.isGuarded_iff.mp (hguarded l hl hcommand)
      exact Line.hasTokens_of_mem hk
    rw [mem_renderEntry_iff hfound]
    simp only [render_eq_map_emissions htokens, List.mem_map, eq_comm]
  · obtain ⟨fileNames, fileName, content, -, -, -, -, haddresses⟩ := mem_entries hentries hr
    rcases RuleEntry.addressesOf_spec content with hnone | ⟨hne, hsome⟩
    -- Without addresses there is one context, and the guard says that it has ports.
    · rw [← haddresses] at hnone
      have hno : ¬r.hasAddress = true := by
        rw [RuleEntry.hasAddress_iff, hnone]
        simp
      have hcontexts : d.contexts e r = [e.context (d.ruleOf e r)] := by
        rw [contexts, hnone]
        rfl
      have hports : (e.context (d.ruleOf e r)).ports ≠ [] :=
        (ports_or_address_of_found hown hfound).resolve_right hno
      rw [hcontexts]
      simp only [List.mem_singleton, forall_eq, hno, Bool.false_eq_true, false_or]
      exact forall_isNarrow_iff hguarded rfl hports
    -- With addresses, both sides hold.
    · rw [← haddresses] at hne hsome
      have hhas : r.hasAddress = true := by
        obtain ⟨raw, hraw⟩ := List.exists_mem_of_ne_nil _ hne
        obtain ⟨text, rfl⟩ := Option.ne_none_iff_exists'.mp (hsome raw hraw)
        exact RuleEntry.hasAddress_iff.mpr ⟨text, hraw⟩
      refine ⟨fun _ ↦ Or.inl hhas, fun _ c hc x hx ↦ ?_⟩
      obtain ⟨range, hrange⟩ := exists_address_of_mem_contexts hsome hc
      exact Emission.isNarrow_of_address hguarded hrange hx

/-! ## A template that does not give way -/

/-- A default template with one line, which asks for an address and for no port. -/
private def openText : Text := "$IPTABLES -A $CHAIN $SRC -j ACCEPT\n"

/-- A directory with a rule for one service and no address, and the default template. -/
private def openTree : Tree where
  entries :=
    [(["in"], .directory), (["in", "10-ssh"], .file []), (["t"], .directory),
      (["t", "accept.incoming"], .file (Utf8.encode openText))]

private def openEngine : Engine := { templateDirs := ["t"], services := .ofText "ssh 22/tcp" }

private def openDirectory : RuleDirectory := { path := "in", direction := .incoming }

private def openTemplate : Template := Template.parse "t/accept.incoming" openText

private def openEntry : RuleEntry := ⟨"ssh", [none]⟩

/-- The directory has the one rule, which has no template of its own, and the default template is
found and guarded. -/
private theorem openTree_spec :
    openDirectory.entries openTree = .ok [openEntry] ∧
    openEngine.findOne? openTree (openDirectory.direction.templateName openEntry.name) = none ∧
    openEngine.findTemplate openTree (openDirectory.candidates openEngine openEntry) =
      .ok openTemplate ∧
    ∀ l ∈ openTemplate.lines, l.isCommand = true → l.isGuarded = true := by
  decide +kernel

theorem fallback_isNarrow_iff_open :
    openDirectory.entries openTree = .ok [openEntry] ∧
    openEngine.findOne? openTree (openDirectory.direction.templateName openEntry.name) = none ∧
    openEngine.findTemplate openTree (openDirectory.candidates openEngine openEntry) =
      .ok openTemplate ∧
    (∀ l ∈ openTemplate.lines, l.isCommand = true → l.isGuarded = true) ∧
    ¬∀ c ∈ openDirectory.contexts openEngine openEntry, ∀ x ∈ openTemplate.emissions c,
      x.IsNarrow c := by
  obtain ⟨hentries, hown, hdefault, hguarded⟩ := openTree_spec
  refine ⟨hentries, hown, hdefault, hguarded, fun hall ↦ ?_⟩
  have hiff := (fallback_isNarrow_iff hentries List.mem_cons_self hown hdefault hguarded).2.2
  rcases hiff.mp hall with hhas | hgives
  · exact absurd hhas (by decide)
  · have hline : Line.parse "$IPTABLES -A $CHAIN $SRC -j ACCEPT" ∈ openTemplate.lines := by
      decide +kernel
    have hnot : .port ∉ (Line.parse "$IPTABLES -A $CHAIN $SRC -j ACCEPT").tokens ∧
        ∀ l ∈ openTemplate.lines, l.usesPorts = false := by decide +kernel
    rcases hgives _ hline (by decide +kernel) with hport | ⟨-, l, hl, huses⟩
    · exact hnot.1 hport
    · rw [hnot.2 l hl] at huses
      exact Bool.noConfusion huses

/-- The rule for one port is rendered to commands that accept everything. -/
theorem fallback_accepts_everything :
    (∀ l ∈ openTemplate.lines, l.isCommand = true → l.isGuarded = true) ∧
    openEngine.findOne? openTree (openDirectory.direction.templateName openEntry.name) = none ∧
    openEngine.findTemplate openTree (openDirectory.candidates openEngine openEntry) =
      .ok openTemplate ∧
    openDirectory.render openEngine openTree =
      .ok ["/sbin/iptables -A INPUT -j ACCEPT", "/sbin/ip6tables -A INPUT -j ACCEPT"] ∧
    ∀ c ∈ openDirectory.contexts openEngine openEntry,
      ¬c.NamedIn "/sbin/iptables -A INPUT -j ACCEPT" ∧
      ¬c.NamedIn "/sbin/ip6tables -A INPUT -j ACCEPT" := by
  obtain ⟨-, hown, hdefault, hguarded⟩ := openTree_spec
  refine ⟨hguarded, hown, hdefault, by decide +kernel, ?_⟩
  have hcontexts : openDirectory.contexts openEngine openEntry =
      [openEngine.context (openDirectory.ruleOf openEngine openEntry)] := rfl
  have hports : (openEngine.context (openDirectory.ruleOf openEngine openEntry)).ports =
      [⟨22, .tcp⟩] := by decide +kernel
  have hunnamed : ∀ command : Text, ¬(⟨22, .tcp⟩ : Port).numeral <:+: command →
      ¬(openEngine.context (openDirectory.ruleOf openEngine openEntry)).NamedIn command := by
    rintro command hnumeral (⟨range, hrange, -⟩ | ⟨p, hp, hinfix⟩)
    · cases hrange
    · rw [hports, List.mem_singleton] at hp
      exact hnumeral (hp ▸ hinfix)
  rw [hcontexts]
  simp only [List.mem_singleton, forall_eq]
  exact ⟨hunnamed _ (by decide +kernel), hunnamed _ (by decide +kernel)⟩

end PacketFilter.RuleDirectory
