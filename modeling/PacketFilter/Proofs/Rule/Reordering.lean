import PacketFilter.Proofs.Generator.Agreement
import PacketFilter.Proofs.Service.Changes
import Mathlib.Data.List.Forall2
import Mathlib.Data.List.Perm.Basic

/-!
# The order of a services file

The order of a services file is visible: ports are kept as they were first seen, rules are written
port by port, and generated files group ports by number in that order. It decides nothing else. Two
texts with the same lines, in whatever order and however often each stands, give registries with
the same names, and under every name the same ports, each once. `Service.Rearranged` is that
relation between two services, and everything that is done with a service respects it: a rule's
commands are the same up to order, and so are the lines of a generated file.

## Why the order is lost and nothing else

Where a rule's template is searched depends on the name of its service, not on the ports, so both
engines take the same file or fail alike. The template looks at the list of ports in two places:
whether it is empty, which decides whether lines for any port give way, and in the loop over it,
which maps rearranged ports to rearranged commands.
-/

namespace PacketFilter

/-! ## Services -/

/-- Services of one name with the same ports, in orders that may differ. -/
structure Service.Rearranged (s t : Service) : Prop where
  name : s.name = t.name
  ports : s.ports.Perm t.ports

namespace Registry

variable {log log' : List Insertion} {r r' : Registry} {s t : Text}

/-- What is put under a name is known, up to order, from the insertions there are. -/
theorem perm_portsUnder (h : ∀ i, i ∈ log ↔ i ∈ log') (name : Text) :
    (portsUnder name log).Perm (portsUnder name log') := by
  have hnodup : ∀ log, (portsUnder name log).Nodup := fun _ ↦ Service.nodup_eraseDups _
  refine (List.perm_ext_iff_of_nodup (hnodup log) (hnodup log')).mpr fun p ↦ ?_
  simp only [mem_portsUnder, h]

theorem rel_find?_insertEach (h : ∀ i, i ∈ log ↔ i ∈ log') (name : Text) :
    Option.Rel Service.Rearranged ((empty.insertEach log).find? name)
      ((empty.insertEach log').find? name) := by
  have hperm := perm_portsUnder h name
  rw [find?_insertEach_empty, find?_insertEach_empty]
  by_cases hnil : portsUnder name log = []
  · rw [hnil] at hperm
    rw [if_pos hnil, if_pos hperm.nil_eq.symm]
    exact .none
  · rw [if_neg hnil, if_neg fun hnil' ↦ hnil (hnil' ▸ hperm).eq_nil]
    exact .some ⟨rfl, hperm⟩

/-! ## Registries -/

/-- Registries that find rearranged services under every name. -/
def Rearranged (r r' : Registry) : Prop :=
  ∀ name, Option.Rel Service.Rearranged (r.find? name) (r'.find? name)

/-- The lines of a text decide what it puts in; their order and number do not. -/
theorem mem_textInsertions_congr (h : ∀ line, line ∈ Text.lines s ↔ line ∈ Text.lines t)
    (i : Insertion) : i ∈ textInsertions s ↔ i ∈ textInsertions t := by
  simp only [textInsertions, Service.Line.codes, List.mem_flatMap, List.mem_filterMap,
    List.mem_filter, List.mem_map, h]

theorem ofText_eq (text : Text) : ofText text = empty.insertEach (textInsertions text) :=
  congrArg Prod.fst (addText_eq empty text)

theorem rearranged_ofText (h : ∀ line, line ∈ Text.lines s ↔ line ∈ Text.lines t) :
    (ofText s).Rearranged (ofText t) := by
  rw [ofText_eq, ofText_eq]
  exact rel_find?_insertEach (mem_textInsertions_congr h)

theorem Rearranged.isSome_eq (h : r.Rearranged r') (name : Text) :
    (r.find? name).isSome = (r'.find? name).isSome := by
  have hname := h name
  generalize r.find? name = found, r'.find? name = found' at hname ⊢
  cases hname with
  | none => rfl
  | some _ => rfl

theorem mem_names_iff (hr : r.Sound) {name : Text} :
    name ∈ r.services.map Service.name ↔
      Text.lower name = name ∧ (r.find? name).isSome = true := by
  rw [List.mem_map]
  constructor
  · rintro ⟨service, hservice, rfl⟩
    have hfind := find?_of_mem_services hr hservice
    exact ⟨(name_of_find? hr hfind).symm, by rw [hfind]; rfl⟩
  · rintro ⟨hlower, hsome⟩
    obtain ⟨service, hfind⟩ := Option.isSome_iff_exists.mp hsome
    have he := Sorted.mem_of_find? hfind
    exact ⟨service, List.mem_map.mpr ⟨_, he, rfl⟩, (name_of_find? hr hfind).trans hlower⟩

theorem filterMap_find?_names (hr : r.Sound) :
    (r.services.map Service.name).filterMap r.find? = r.services := by
  rw [List.filterMap_map]
  calc r.services.filterMap (r.find? ∘ Service.name)
      = r.services.filterMap some := List.filterMap_congr fun _ hs ↦ find?_of_mem_services hr hs
    _ = r.services := List.filterMap_some

theorem Rearranged.names_eq (h : r.Rearranged r') (hr : r.Sound) (hr' : r'.Sound) :
    r.services.map Service.name = r'.services.map Service.name := by
  refine Sorted.eq_of_mem_iff id (List.pairwise_map.mpr (pairwise_services hr))
    (List.pairwise_map.mpr (pairwise_services hr')) fun name ↦ ?_
  rw [mem_names_iff hr, mem_names_iff hr', h.isSome_eq]

/-- Registries that find rearranged services list rearranged services, one by one. -/
theorem Rearranged.forall₂_services (h : r.Rearranged r') (hr : r.Sound) (hr' : r'.Sound) :
    List.Forall₂ Service.Rearranged r.services r'.services := by
  have hfound : List.Forall₂ Service.Rearranged ((r.services.map Service.name).filterMap r.find?)
      ((r.services.map Service.name).filterMap r'.find?) := by
    refine List.rel_filterMap (R := Eq) ?_ (List.forall₂_same.mpr fun _ _ ↦ rfl)
    rintro name _ rfl
    exact h name
  rwa [filterMap_find?_names hr, h.names_eq hr hr', filterMap_find?_names hr'] at hfound

end Registry

/-! ## Templates -/

namespace Template

variable {ports ports' : List Port}

theorem Line.perm_render (l : Line) (c : Context) (h : ports.Perm ports') :
    (l.render { c with ports := ports }).Perm (l.render { c with ports := ports' }) := by
  -- What a line is substituted by and the families it is for do not depend on the list of ports.
  refine List.Perm.flatMap_left (l.families c) fun family _ ↦ List.Perm.map _ ?_
  rw [Line.portsOf, Line.portsOf]
  split
  · exact h.map some
  · exact .rfl

theorem isNarrowed_congr (t : Template) (c : Context) (h : ports.Perm ports') :
    t.isNarrowed { c with ports := ports } = t.isNarrowed { c with ports := ports' } := by
  simp only [isNarrowed, ne_eq, ← List.isEmpty_iff, h.isEmpty_eq]

theorem perm_render (t : Template) (c : Context) (h : ports.Perm ports') :
    (t.render { c with ports := ports }).Perm (t.render { c with ports := ports' }) := by
  rw [render, render, isNarrowed_congr t c h]
  split
  · exact List.Perm.flatMap_left _ fun l _ ↦ l.perm_render c h
  · exact .rfl

end Template

/-! ## Rules -/

/-- Outcomes that are one failure, or one rule with its commands in orders that may differ. -/
inductive CompiledRule.Rearranged : Except Error CompiledRule → Except Error CompiledRule → Prop
  | error (cause : Error) : Rearranged (.error cause) (.error cause)
  | ok (rule : CompiledRule) {commands : List Text} (h : rule.commands.Perm commands) :
    Rearranged (.ok rule) (.ok { rule with commands := commands })

namespace Engine

variable {e : Engine} {r r' : Registry}

theorem classify_congr (h : r.Rearranged r') (raw : Text) :
    classify { e with services := r } raw = classify { e with services := r' } raw := by
  have hname := h (Text.trim raw)
  simp only [classify, Identifier.classify]
  generalize r.find? (Text.trim raw) = found, r'.find? (Text.trim raw) = found' at hname ⊢
  cases hname with
  | none => rfl
  | some hs => simp only [hs.name]

theorem perm_portsOf (h : r.Rearranged r') (i : Identifier) :
    (portsOf { e with services := r } i).Perm (portsOf { e with services := r' } i) := by
  cases i with
  | numericPort n => exact .rfl
  | customName name => exact .rfl
  | serviceName name =>
    have hname := h name
    simp only [portsOf, Identifier.ports]
    generalize r.find? name = found, r'.find? name = found' at hname ⊢
    cases hname with
    | none => exact .rfl
    | some hs => exact hs.ports

/-- Compiling a rule with rearranged services takes the same template, or fails for the same
reason. -/
theorem rearranged_compile (h : r.Rearranged r') (t : Tree) (rule : Rule) :
    CompiledRule.Rearranged (compile { e with services := r } t rule)
      (compile { e with services := r' } t rule) := by
  have hports : (rule.ports.getD (portsOf { e with services := r } rule.identifier)).Perm
      (rule.ports.getD (portsOf { e with services := r' } rule.identifier)) := by
    cases rule.ports with
    | some ports => exact .rfl
    | none => exact perm_portsOf h rule.identifier
  -- The search path and the candidates are those of `e` in both engines.
  have hcompile : ∀ services : Registry, compile { e with services := services } t rule =
      ((e.locate t rule.identifier rule.direction).bind (Template.load t)).map
        (compileWith { e with services := services } rule) := by
    intro services
    show (e.locate t rule.identifier rule.direction).bind _ = _
    cases e.locate t rule.identifier rule.direction with
    | error cause => rfl
    | ok p =>
      show (Template.load t p).bind _ = (Template.load t p).map _
      cases Template.load t p with
      | error cause => rfl
      | ok template => rfl
  rw [hcompile, hcompile]
  cases (e.locate t rule.identifier rule.direction).bind (Template.load t) with
  | error cause => exact .error cause
  | ok template =>
    exact .ok (compileWith { e with services := r } rule template)
      (template.perm_render (e.context rule) hports)

end Engine

/-! ## Generated files -/

namespace Generator

/-- Rearranged services have generated files with the same lines, up to order. -/
theorem perm_fileLines {s t : Service} (h : s.Rearranged t) (hs : s.ports.Nodup) (d : Direction) :
    (fileLines s d).Perm (fileLines t d) := by
  have hgrouped : (groupedPorts s).Perm (groupedPorts t) :=
    (perm_groupedPorts hs).trans
      (h.ports.trans (perm_groupedPorts (h.ports.nodup_iff.mp hs)).symm)
  rw [fileLines, fileLines, h.name]
  exact ((hgrouped.map _).append_left _).append_right _

end Generator

/-! ## Texts with the same lines -/

namespace Engine

/-- **The order of a services file opens nothing.** If two texts have the same lines, in whatever
order and however often, then a raw name refers to the same in both, and compiling a rule for it
takes the same template and gives the same commands up to order, or fails for the same reason in
both. The two registries list services of the same names, one by one, and the files generated for
them have the same lines up to order. -/
theorem compile_of_same_lines {s t : Text}
    (h : ∀ line, line ∈ Text.lines s ↔ line ∈ Text.lines t) (e : Engine) :
    (∀ (tree : Tree) (rule : Rule) (raw : Text),
      let first := { e with services := .ofText s }
      let second := { e with services := .ofText t }
      CompiledRule.Rearranged
        (first.compile tree { rule with identifier := first.classify raw })
        (second.compile tree { rule with identifier := second.classify raw })) ∧
    List.Forall₂
      (fun s' t' : Service ↦ s'.name = t'.name ∧
        ∀ d, (Text.lines (Generator.fileText s' d)).Perm (Text.lines (Generator.fileText t' d)))
      (Registry.ofText s).services (Registry.ofText t).services := by
  have hrearranged := Registry.rearranged_ofText h
  have hplain : ∀ text, (Registry.ofText text).Plain := fun text ↦ Registry.plain_ofTexts [text]
  refine ⟨fun tree rule raw ↦ ?_, ?_⟩
  · intro first second
    show CompiledRule.Rearranged
      (first.compile tree { rule with identifier := first.classify raw }) _
    rw [show first.classify raw = second.classify raw from classify_congr hrearranged raw]
    exact rearranged_compile hrearranged tree _
  · have hservices := hrearranged.forall₂_services (hplain s).toSound (hplain t).toSound
    refine List.forall₂_iff_get.mpr ⟨hservices.length_eq, fun i hi hi' ↦ ?_⟩
    have hmem := List.get_mem (Registry.ofText s).services ⟨i, hi⟩
    have hmem' := List.get_mem (Registry.ofText t).services ⟨i, hi'⟩
    have hservice := hservices.get hi hi'
    refine ⟨hservice.name, fun d ↦ ?_⟩
    rw [Generator.lines_fileText (Registry.isNameChar_of_mem_name (hplain s) hmem),
      Generator.lines_fileText (Registry.isNameChar_of_mem_name (hplain t) hmem')]
    exact Generator.perm_fileLines hservice (Registry.nodup_ports (hplain s).toSound hmem) d

/-- Two services and an alias. -/
private def mailFirst : Text := "smtp 25/tcp mail\nsmtp 587/tcp\nhttp 80/tcp\n"

/-- The same lines in another order, one of them twice and one with a carriage return. -/
private def mailLast : Text := "http 80/tcp\nsmtp 587/tcp\r\nhttp 80/tcp\nsmtp 25/tcp mail"

private def rulesTree : Tree where
  entries :=
    [(["rules"], .directory),
      (["rules", "accept.incoming"], .file (Utf8.encode "$IPTABLES -A $CHAIN --dport $PORT\n"))]

private def mailEngine (services : Text) : Engine :=
  { templateDirs := ["/rules"], services := .ofText services }

/-- The service with two ports has them in different orders, and so have its commands. -/
theorem compile_of_same_lines_mail :
    (∀ line, line ∈ Text.lines mailFirst ↔ line ∈ Text.lines mailLast) ∧
    ((mailEngine mailFirst).compileNamed rulesTree "SMTP" .incoming none).map (·.commands) =
      .ok ["/sbin/iptables -A INPUT --dport 25", "/sbin/iptables -A INPUT --dport 587",
        "/sbin/ip6tables -A INPUT --dport 25", "/sbin/ip6tables -A INPUT --dport 587"] ∧
    ((mailEngine mailLast).compileNamed rulesTree "SMTP" .incoming none).map (·.commands) =
      .ok ["/sbin/iptables -A INPUT --dport 587", "/sbin/iptables -A INPUT --dport 25",
        "/sbin/ip6tables -A INPUT --dport 587", "/sbin/ip6tables -A INPUT --dport 25"] ∧
    CompiledRule.Rearranged
      ((mailEngine mailFirst).compileNamed rulesTree "SMTP" .incoming none)
      ((mailEngine mailLast).compileNamed rulesTree "SMTP" .incoming none) := by
  have hlines : Text.lines mailFirst ⊆ Text.lines mailLast ∧
      Text.lines mailLast ⊆ Text.lines mailFirst := by decide
  have hmem : ∀ line, line ∈ Text.lines mailFirst ↔ line ∈ Text.lines mailLast :=
    fun line ↦ ⟨fun h ↦ hlines.1 h, fun h ↦ hlines.2 h⟩
  refine ⟨hmem, by decide +kernel, by decide +kernel, ?_⟩
  exact (compile_of_same_lines hmem (mailEngine [])).1 rulesTree
    { identifier := .customName [], direction := .incoming } "SMTP"

end Engine
end PacketFilter
