import PacketFilter.Proofs.Generator.Paths
import PacketFilter.Proofs.Script.Remark
import PacketFilter.Proofs.Template.Segments

/-!
# A rule's own template

The engine and a directory of rules both look for a template of the rule's own before they take a
more general one. The engine looks under the name of what the rule refers to: a service in lower
case, a number without zeros in front, no blanks around either. A directory looks under the name as
it is written in the file's name.

So they look for the same file exactly if the rule is written the way it is called. A rule
`10-SSH` is about the service `ssh`, and its addresses are rendered with the ports of that service,
but `ssh.incoming` is not tried: the rule goes through the default template even if the other one is
narrower.
-/

namespace PacketFilter

namespace Engine

variable {e : Engine} {t : Tree} {p : Path} {template : Template}

/-! ## One name, one file -/

/-- A template file is found under one name only, wherever on the search path it lies. -/
theorem eq_of_findOne? {a b : Text} (ha : e.findOne? t a = some p) (hb : e.findOne? t b = some p) :
    a = b := by
  have hplain : ∀ {name : Text}, e.findOne? t name = some p → Path.IsName name := fun h ↦
    (findOne?_eq_some_iff.mp h).1.isName
  obtain ⟨dir, -, hdir⟩ := exists_of_findOne? ha
  obtain ⟨dir', -, hdir'⟩ := exists_of_findOne? hb
  -- The name is the last one of the path, whatever directory stands before it.
  have hnames : Path.names dir ++ [a] = Path.names dir' ++ [b] := by
    rw [← Path.names_join (hplain ha), ← Path.names_join (hplain hb), ← hdir, ← hdir']
  exact List.singleton_inj.mp (List.append_inj' hnames rfl).2

theorem findOne?_templateName_iff {d : Direction} {a b : Text}
    (hb : e.findOne? t (d.templateName b) = some p) :
    e.findOne? t (d.templateName a) = some p ↔ a = b := by
  constructor
  · exact fun ha ↦ (Generator.templateName_inj (eq_of_findOne? ha hb)).1
  · rintro rfl
    exact hb

/-! ## Compiling with the own template -/

theorem locate_of_own {i : Identifier} {d : Direction}
    (h : e.findOne? t (d.templateName i.name) = some p) : e.locate t i d = .ok p := by
  have hfirst : ∃ rest, e.candidates i d = d.templateName i.name :: rest := by
    cases i <;> exact ⟨_, rfl⟩
  obtain ⟨rest, hcandidates⟩ := hfirst
  rw [locate, find_eq_ok_iff, hcandidates, List.findSome?_cons, h]

theorem compile_of_own {r : Rule}
    (h : e.findOne? t (r.direction.templateName r.identifier.name) = some p)
    (hload : Template.load t p = .ok template) : e.compile t r = .ok (e.compileWith r template) :=
  bind_eq_ok.mpr ⟨p, locate_of_own h, bind_eq_ok.mpr ⟨template, hload, rfl⟩⟩

end Engine

theorem Template.path_of_load {t : Tree} {p : Path} {template : Template}
    (h : load t p = .ok template) : template.path = p := by
  obtain ⟨content, -, rfl⟩ := load_eq_ok_iff.mp h
  rfl

namespace RuleDirectory

variable {d : RuleDirectory} {e : Engine} {t : Tree} {r : RuleEntry} {p : Path}
  {template : Template} {as : List (Option Range)}

/-! ## Directories -/

/-- The rule that an entry stands for, for one of its addresses. -/
def ruleFor (d : RuleDirectory) (e : Engine) (r : RuleEntry) (a : Option Range) : Rule :=
  { d.ruleOf e r with address := a }

theorem renderEntry_of_parsed (hfound : e.findTemplate t (d.candidates e r) = .ok template)
    (has : List.Forall₂ (fun raw a ↦ Option.mapM Range.parse raw = .ok a) r.addresses as) :
    d.renderEntry e t r =
      as.flatMap fun a ↦ (e.compileWith (d.ruleFor e r a) template).commands := by
  have hcontexts : List.Forall₂ (fun raw c ↦ e.context? (d.ruleOf e r) raw = some c) r.addresses
      (as.map fun a ↦ e.context (d.ruleFor e r a)) := by
    rw [List.forall₂_map_right_iff]
    refine has.imp fun raw a hparse ↦ ?_
    cases raw with
    | none =>
      cases hparse
      rfl
    | some text =>
      obtain ⟨range, hrange, hsome⟩ := bind_eq_ok.mp hparse
      cases hsome
      exact Engine.context?_of_parse hrange
  rw [renderEntry_of_found hfound, Engine.flatMap_renderAddress hcontexts, List.flatMap_map]
  rfl

/-- A directory takes the own template of what a rule refers to if the rule is written like it, or
if it is the default template and nothing lies under the name as written. -/
theorem find_candidates_eq_iff
    (hown : e.findOne? t (d.direction.templateName (e.classify r.name).name) = some p) :
    e.find t (d.candidates e r) = .ok p ↔
      r.name = (e.classify r.name).name ∨
        e.findOne? t (d.direction.templateName r.name) = none ∧
          (e.portsOf (e.classify r.name) ≠ [] ∨ r.hasAddress = true) ∧
          d.defaultTemplate = (e.classify r.name).name := by
  rw [Engine.find_eq_ok_iff, candidates]
  cases hraw : e.findOne? t (d.direction.templateName r.name) with
  | some q =>
    -- What lies under the name as written is taken, and is the right file or not.
    have htaken : ∀ rest : List Text,
        (d.direction.templateName r.name :: rest).findSome? (e.findOne? t) = some q := by
      intro rest
      rw [List.findSome?_cons, hraw]
    have hiff := Engine.findOne?_templateName_iff (a := r.name) hown
    rw [hraw] at hiff
    simp only [apply_ite (List.findSome? (e.findOne? t)), htaken, ite_self, hiff, reduceCtorEq,
      false_and, or_false]
  | none =>
    have hne : r.name ≠ (e.classify r.name).name := by
      intro heq
      rw [heq, hown] at hraw
      cases hraw
    by_cases hguard : e.portsOf (e.classify r.name) ≠ [] ∨ r.hasAddress = true
    · rw [if_pos hguard, List.findSome?_cons, hraw, List.findSome?_singleton,
        Engine.findOne?_templateName_iff hown]
      simp [hne, hguard]
    · rw [if_neg hguard, List.findSome?_singleton, hraw]
      simp [hne, hguard]

/-- **When directories and the engine agree on the own template.** Let what an entry refers to have
a template of its own that can be read, and let all addresses of the entry be addresses. Then the
engine compiles the rule for each of the addresses with that template. The directory takes the same
template exactly if the entry is written like what it refers to, or if nothing lies under the name
as written and the template is the default one. If it does, then the entry is rendered to the
compiled commands, address by address. -/
theorem renderEntry_compiled_iff
    (hown : e.findOne? t (d.direction.templateName (e.classify r.name).name) = some p)
    (hload : Template.load t p = .ok template)
    (has : List.Forall₂ (fun raw a ↦ Option.mapM Range.parse raw = .ok a) r.addresses as) :
    ∃ compiled,
      List.Forall₂ (fun a c ↦ e.compile t (d.ruleFor e r a) = .ok c ∧ c.template = p)
        as compiled ∧
      (e.find t (d.candidates e r) = .ok p ↔
        r.name = (e.classify r.name).name ∨
          e.findOne? t (d.direction.templateName r.name) = none ∧
            (e.portsOf (e.classify r.name) ≠ [] ∨ r.hasAddress = true) ∧
            d.defaultTemplate = (e.classify r.name).name) ∧
      (e.find t (d.candidates e r) = .ok p →
        d.renderEntry e t r = compiled.flatMap CompiledRule.commands) := by
  refine ⟨as.map fun a ↦ e.compileWith (d.ruleFor e r a) template, ?_, find_candidates_eq_iff hown,
    fun hfind ↦ ?_⟩
  · rw [List.forall₂_map_right_iff]
    exact List.forall₂_same.mpr fun a _ ↦
      ⟨Engine.compile_of_own hown hload, Template.path_of_load hload⟩
  · have hfound : e.findTemplate t (d.candidates e r) = .ok template :=
      bind_eq_ok.mpr ⟨p, hfind, hload⟩
    rw [renderEntry_of_parsed hfound has, List.flatMap_map]

/-! ## A service in capital letters -/

private def ownText : Text := "$IPTABLES -A $CHAIN -p tcp --dport 22 $SRC -j ACCEPT\n"

private def anyPortText : Text := "$IPTABLES -A $CHAIN $SRC -j ACCEPT\n"

/-- A rule for one address, with a template of its own and a default one that opens every port. -/
private def ownTree (fileName : Text) : Tree where
  entries :=
    [(["in"], .directory), (["in", fileName], .file (Utf8.encode "10.0.0.1\n")),
      (["t"], .directory), (["t", "ssh.incoming"], .file (Utf8.encode ownText)),
      (["t", "accept.incoming"], .file (Utf8.encode anyPortText))]

private def ownEngine : Engine := { templateDirs := ["t"], services := .ofText "ssh 22/tcp" }

private def ownDirectory : RuleDirectory := { path := "in", direction := .incoming }

private def ownEntry (name : Text) : RuleEntry := ⟨name, [some "10.0.0.1"]⟩

private def ownRange : Range := .host (.ofOctets [10, 0, 0, 1])

private def ownTemplate : Template := Template.parse "t/ssh.incoming" ownText

/-- Written like the service, the rule is rendered through its own template. -/
theorem renderEntry_compiled_iff_lower :
    ownEngine.findOne? (ownTree "10-ssh")
        (ownDirectory.direction.templateName (ownEngine.classify (ownEntry "ssh").name).name) =
      some "t/ssh.incoming" ∧
    Template.load (ownTree "10-ssh") "t/ssh.incoming" = .ok ownTemplate ∧
    List.Forall₂ (fun raw a ↦ Option.mapM Range.parse raw = .ok a) (ownEntry "ssh").addresses
      [some ownRange] ∧
    ∃ compiled,
      List.Forall₂
        (fun a c ↦
          ownEngine.compile (ownTree "10-ssh") (ownDirectory.ruleFor ownEngine (ownEntry "ssh") a) =
            .ok c ∧ c.template = "t/ssh.incoming".toList)
        [some ownRange] compiled ∧
      ownDirectory.renderEntry ownEngine (ownTree "10-ssh") (ownEntry "ssh") =
        compiled.flatMap CompiledRule.commands := by
  have hown : ownEngine.findOne? (ownTree "10-ssh")
      (ownDirectory.direction.templateName (ownEngine.classify (ownEntry "ssh").name).name) =
        some "t/ssh.incoming" := by decide +kernel
  have hload : Template.load (ownTree "10-ssh") "t/ssh.incoming" = .ok ownTemplate :=
    Template.load_eq_ok_iff.mpr ⟨ownText, by decide +kernel, rfl⟩
  have has : List.Forall₂ (fun raw a ↦ Option.mapM Range.parse raw = .ok a)
      (ownEntry "ssh").addresses [some ownRange] := .cons (by decide +kernel) .nil
  obtain ⟨compiled, hcompiled, hfind, hrender⟩ := renderEntry_compiled_iff hown hload has
  have hname : (ownEntry "ssh").name = (ownEngine.classify (ownEntry "ssh").name).name := by
    decide +kernel
  exact ⟨hown, hload, has, compiled, hcompiled, hrender (hfind.mpr (Or.inl hname))⟩

/-- Written otherwise, the rule is rendered through the default template, and lets the address in on
every port. -/
theorem renderEntry_not_compiled_upper :
    ownDirectory.entries (ownTree "10-SSH") = .ok [ownEntry "SSH"] ∧
    ownEngine.findOne? (ownTree "10-SSH")
        (ownDirectory.direction.templateName (ownEngine.classify (ownEntry "SSH").name).name) =
      some "t/ssh.incoming" ∧
    Template.load (ownTree "10-SSH") "t/ssh.incoming" = .ok ownTemplate ∧
    Range.parse "10.0.0.1" = .ok ownRange ∧
    (ownEngine.compile (ownTree "10-SSH")
        (ownDirectory.ruleFor ownEngine (ownEntry "SSH") (some ownRange))).map
      CompiledRule.commands =
        .ok ["/sbin/iptables -A INPUT -p tcp --dport 22 --src 10.0.0.1/32 -j ACCEPT"] ∧
    ownDirectory.render ownEngine (ownTree "10-SSH") =
      .ok ["/sbin/iptables -A INPUT --src 10.0.0.1/32 -j ACCEPT"] := by
  have hload : Template.load (ownTree "10-SSH") "t/ssh.incoming" = .ok ownTemplate :=
    Template.load_eq_ok_iff.mpr ⟨ownText, by decide +kernel, rfl⟩
  refine ⟨?_, ?_, hload, ?_, ?_, ?_⟩
  · decide +kernel
  · decide +kernel
  · decide +kernel
  · decide +kernel
  · decide +kernel

end RuleDirectory
end PacketFilter
