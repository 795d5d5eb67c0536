import PacketFilter.Proofs.Template.Segments
import Mathlib.Data.List.Nodup

/-!
# Where commands come from

A rendered template is a list of texts, and a text does not say which line it was made from. The
emissions of a template are its commands with their origin: the line, the family and the port. The
commands are their texts, in order, so whatever is to be shown of every command is shown of every
emission, by looking at the three things it is made of.
-/

namespace PacketFilter.Template

/-- A command to be: the line it is made from, and the family and the port it is for. -/
structure Emission where
  line : Line
  family : Option Family
  port : Option Port

/-- The command of an emission. -/
def Emission.command (c : Context) (x : Emission) : Text := x.line.substitute c x.family x.port

/-- The families that rules with an address, or without one, are about. -/
def Context.families (c : Context) : List Family :=
  match c.address with
  | some r => [r.family]
  | none => [.v4, .v6]

namespace Line

/-- The emissions of a line. -/
def emissions (l : Line) (c : Context) : List Emission :=
  (l.families c).flatMap fun family ↦ (l.portsOf c).map (⟨l, family, ·⟩)

theorem render_eq_map_emissions (l : Line) (c : Context) :
    l.render c = (l.emissions c).map (Emission.command c) := by
  rw [render, emissions, List.map_flatMap]
  refine List.flatMap_congr fun family _ ↦ ?_
  rw [List.map_map]
  rfl

theorem mem_emissions {l : Line} {c : Context} {x : Emission} :
    x ∈ l.emissions c ↔ x.line = l ∧ x.family ∈ l.families c ∧ x.port ∈ l.portsOf c := by
  obtain ⟨k, family, port⟩ := x
  rw [emissions, List.mem_flatMap]
  constructor
  · rintro ⟨family', hf, hx⟩
    obtain ⟨port', hp, heq⟩ := List.mem_map.mp hx
    cases heq
    exact ⟨rfl, hf, hp⟩
  · rintro ⟨rfl, hf, hp⟩
    exact ⟨family, hf, List.mem_map.mpr ⟨port, hp, rfl⟩⟩

theorem families_of_iptables {l : Line} (h : l.has .iptables = true) (c : Context) :
    l.families c = c.families.map some := by
  rw [families, h, Context.families]
  cases c.address <;> rfl

theorem portsOf_of_usesPorts {l : Line} (h : l.usesPorts = true) (c : Context) :
    l.portsOf c = c.ports.map some := by rw [portsOf, if_pos h]

theorem portsOf_of_not_usesPorts {l : Line} (h : l.usesPorts = false) (c : Context) :
    l.portsOf c = [none] := by rw [portsOf, if_neg (by simp [h])]

theorem exists_mem_families (l : Line) {c : Context} (h : c.address = none) :
    ∃ family, family ∈ l.families c := by
  rw [families, h]
  cases l.has .iptables with
  | true => exact ⟨some .v4, List.mem_cons_self⟩
  | false => exact ⟨l.literalFamily, List.mem_singleton_self _⟩

theorem exists_mem_portsOf (l : Line) {c : Context} (h : c.ports ≠ []) :
    ∃ port, port ∈ l.portsOf c := by
  cases hl : l.usesPorts with
  | true =>
    obtain ⟨p, hp⟩ := List.exists_mem_of_ne_nil c.ports h
    rw [portsOf_of_usesPorts hl]
    exact ⟨some p, List.mem_map_of_mem hp⟩
  | false =>
    rw [portsOf_of_not_usesPorts hl]
    exact ⟨none, List.mem_singleton_self none⟩

theorem usesPorts_iff {l : Line} :
    l.usesPorts = true ↔ .port ∈ l.tokens ∨ .proto ∈ l.tokens := by
  rw [usesPorts, List.any_eq_true]
  constructor
  · rintro ⟨k, hk, hport⟩
    cases k with
    | port => exact Or.inl hk
    | proto => exact Or.inr hk
    | _ => cases hport
  · rintro (h | h)
    · exact ⟨_, h, rfl⟩
    · exact ⟨_, h, rfl⟩

theorem isPortless_iff {l : Line} :
    l.isPortless = true ↔
      l.usesPorts = false ∧ ∃ k ∈ l.tokens, k ∈ [Token.chain, .src, .dest, .address] := by
  rw [isPortless, Bool.and_eq_true, Bool.not_eq_true', List.any_eq_true]
  simp only [decide_eq_true_eq]

theorem isPortless_of_usesPorts {l : Line} (h : l.usesPorts = true) : l.isPortless = false := by
  rw [isPortless, h]
  rfl

theorem hasTokens_of_mem {l : Line} {k : Token} (h : k ∈ l.tokens) : l.hasTokens = true :=
  decide_eq_true (List.ne_nil_of_mem h)

end Line

/-! ## Whole templates -/

theorem flatMap_filter {α β : Type} (p : α → Bool) (f : α → List β) (as : List α) :
    (as.filter p).flatMap f = as.flatMap fun a ↦ if p a then f a else [] := by
  induction as with
  | nil => rfl
  | cons a as ih =>
    rw [List.flatMap_cons, ← ih, List.filter_cons]
    split
    · rw [List.flatMap_cons]
    · rfl

/-- The command lines that a context leaves standing. -/
def rendered (t : Template) (c : Context) : List Line :=
  (t.lines.filter Line.isCommand).filter fun l ↦ !(t.isNarrowed c && l.isPortless)

@[simp] theorem mem_rendered {t : Template} {c : Context} {l : Line} :
    l ∈ t.rendered c ↔
      l ∈ t.lines ∧ l.isCommand = true ∧ ¬(t.isNarrowed c = true ∧ l.isPortless = true) := by
  rw [rendered, List.mem_filter, List.mem_filter, Bool.not_eq_true', Bool.and_eq_false_iff,
    Bool.eq_false_iff, Bool.eq_false_iff, not_and_or, and_assoc]

theorem isNarrowed_iff {t : Template} {c : Context} :
    t.isNarrowed c = true ↔ c.ports ≠ [] ∧ ∃ l ∈ t.lines, l.usesPorts = true := by
  rw [isNarrowed, Bool.and_eq_true, decide_eq_true_eq, List.any_eq_true]

theorem isNarrowed_of_forall_not_usesPorts {t : Template}
    (h : ∀ l ∈ t.lines, l.usesPorts = false) (c : Context) : t.isNarrowed c = false := by
  rw [isNarrowed, List.any_eq_false.mpr fun l hl ↦ Bool.eq_false_iff.mp (h l hl), Bool.and_false]

/-- The emissions of a template with tokens. -/
def emissions (t : Template) (c : Context) : List Emission :=
  (t.rendered c).flatMap (·.emissions c)

theorem mem_emissions {t : Template} {c : Context} {x : Emission} :
    x ∈ t.emissions c ↔
      x.line ∈ t.rendered c ∧ x.family ∈ x.line.families c ∧ x.port ∈ x.line.portsOf c := by
  rw [emissions, List.mem_flatMap]
  constructor
  · rintro ⟨l, hl, hx⟩
    obtain ⟨rfl, hf, hp⟩ := Line.mem_emissions.mp hx
    exact ⟨hl, hf, hp⟩
  · exact fun ⟨hl, hf, hp⟩ ↦ ⟨x.line, hl, Line.mem_emissions.mpr ⟨rfl, hf, hp⟩⟩

theorem render_of_isTokenized {t : Template} (ht : t.isTokenized = true) (c : Context) :
    t.render c = (t.emissions c).map (Emission.command c) := by
  rw [render, if_pos ht, emissions, List.map_flatMap]
  exact List.flatMap_congr fun l _ ↦ l.render_eq_map_emissions c

/-- Once every command line has a token, it does not matter whether the template has one: without
command lines there is nothing to render in either case. -/
theorem render_eq_flatMap {t : Template}
    (h : ∀ l ∈ t.lines, l.isCommand = true → l.hasTokens = true) (c : Context) :
    t.render c = (t.rendered c).flatMap (·.render c) := by
  rw [render]
  by_cases ht : t.isTokenized = true
  · rw [if_pos ht]
    rfl
  · have hnone : t.lines.filter Line.isCommand = [] := by
      refine List.filter_eq_nil_iff.mpr fun l hl hc ↦ ht ?_
      exact List.any_eq_true.mpr ⟨l, hl, h l hl hc⟩
    rw [if_neg ht, rendered, hnone]
    rfl

theorem render_eq_map_emissions {t : Template}
    (h : ∀ l ∈ t.lines, l.isCommand = true → l.hasTokens = true) (c : Context) :
    t.render c = (t.emissions c).map (Emission.command c) := by
  rw [render_eq_flatMap h, emissions, List.map_flatMap]
  exact List.flatMap_congr fun l _ ↦ l.render_eq_map_emissions c

end PacketFilter.Template
