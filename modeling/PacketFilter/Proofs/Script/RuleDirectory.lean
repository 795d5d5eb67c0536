import PacketFilter.Proofs.Rule.Search
import PacketFilter.Script.RuleDirectory

/-!
# What a rule of a directory is rendered to

A rule goes through three stages, and each can put a remark in the place of commands: a template has
to be found, it has to be read, and each address has to be one. This module says once what comes out
of each stage, so that results about directories are about contexts and templates only.

`Engine.context?` is the context of one address, if it is an address, and `RuleDirectory.contexts`
are those of a rule. A rule that has a template is rendered to the commands of the template in these
contexts, with a remark in between for every text that is no address.
-/

namespace PacketFilter

/-! ## One address -/

namespace Engine

/-- What a template has to know of a rule for one address as written, if it is an address. -/
def context? (e : Engine) (r : Rule) : Option Text → Option Template.Context
  | none => some (e.context r)
  | some text =>
    match Range.parse text with
    | .ok range => some (e.context { r with address := some range })
    | .error _ => none

variable {e : Engine} {t : Template} {r : Rule} {raw : Option Text}

theorem renderAddress_of_context {c : Template.Context} (h : e.context? r raw = some c) :
    e.renderAddress t r raw = t.render c := by
  cases raw with
  | none =>
    rw [← Option.some_inj.mp h]
    rfl
  | some text =>
    rw [context?] at h
    rw [renderAddress]
    cases hp : Range.parse text with
    | ok range =>
      rw [hp] at h
      rw [← Option.some_inj.mp h]
      rfl
    | error cause =>
      rw [hp] at h
      cases h

theorem renderAddress_of_no_context (h : e.context? r raw = none) :
    ∃ text cause, raw = some text ∧ Range.parse text = .error cause ∧
      e.renderAddress t r raw =
        [Remark.ignoring r.direction r.identifier.name raw cause.message] := by
  cases raw with
  | none => cases h
  | some text =>
    rw [context?] at h
    rw [renderAddress]
    cases hp : Range.parse text with
    | ok range =>
      rw [hp] at h
      cases h
    | error cause => exact ⟨text, cause, rfl, hp, rfl⟩

theorem exists_of_context? {c : Template.Context} {text : Text}
    (h : e.context? r (some text) = some c) :
    ∃ range, Range.parse text = .ok range ∧ c = e.context { r with address := some range } := by
  rw [context?] at h
  cases hp : Range.parse text with
  | ok range =>
    rw [hp] at h
    exact ⟨range, rfl, (Option.some_inj.mp h).symm⟩
  | error cause =>
    rw [hp] at h
    cases h

theorem context?_of_parse {text : Text} {range : Range} (h : Range.parse text = .ok range) :
    e.context? r (some text) = some (e.context { r with address := some range }) := by
  rw [context?, h]

/-- Addresses that are all of them addresses are rendered in the context of each. -/
theorem flatMap_renderAddress {raws : List (Option Text)} {cs : List Template.Context}
    (h : List.Forall₂ (fun raw c ↦ e.context? r raw = some c) raws cs) :
    raws.flatMap (e.renderAddress t r) = cs.flatMap t.render := by
  induction h with
  | nil => rfl
  | cons hc _ ih => rw [List.flatMap_cons, List.flatMap_cons, renderAddress_of_context hc, ih]

end Engine

/-! ## The rules of a directory -/

namespace RuleEntry

theorem addressesOf_spec (content : Text) :
    addressesOf content = [none] ∨
      (addressesOf content ≠ [] ∧ ∀ raw ∈ addressesOf content, raw ≠ none) := by
  rw [addressesOf]
  split
  · exact Or.inl rfl
  · rename_i lines hlines
    refine Or.inr ⟨by simpa using hlines, fun raw hraw ↦ ?_⟩
    obtain ⟨text, -, rfl⟩ := List.mem_map.mp hraw
    exact Option.some_ne_none text

theorem hasAddress_iff {r : RuleEntry} : r.hasAddress = true ↔ ∃ text, some text ∈ r.addresses := by
  rw [hasAddress, List.any_eq_true]
  constructor
  · rintro ⟨raw, hraw, hsome⟩
    obtain ⟨text, rfl⟩ := Option.isSome_iff_exists.mp hsome
    exact ⟨text, hraw⟩
  · exact fun ⟨text, htext⟩ ↦ ⟨some text, htext, rfl⟩

end RuleEntry

namespace RuleDirectory

variable {d : RuleDirectory} {e : Engine} {t : Tree} {r : RuleEntry}

theorem mem_entries {entries : List RuleEntry} (h : d.entries t = .ok entries) (hr : r ∈ entries) :
    ∃ fileNames fileName content, t.fileNames d.path = .ok fileNames ∧ fileName ∈ fileNames ∧
      RuleEntry.nameOf? fileName = some r.name ∧ t.load (d.path.join fileName) = .ok content ∧
      r.addresses = RuleEntry.addressesOf content := by
  obtain ⟨fileNames, hfileNames, h⟩ := bind_eq_ok.mp h
  obtain ⟨found, hfound, h⟩ := bind_eq_ok.mp h
  cases h
  obtain ⟨read, hread, rfl⟩ := List.mem_filterMap.mp hr
  obtain ⟨fileName, hfileName, hentry⟩ := exists_of_mem_mapM hfound hread
  rw [readEntry] at hentry
  split at hentry
  · cases hentry
  · rename_i name hname
    obtain ⟨content, hcontent, hentry⟩ := bind_eq_ok.mp hentry
    cases hentry
    exact ⟨fileNames, fileName, content, hfileNames, hfileName, hname, hcontent, rfl⟩

/-- The rule that an entry stands for, before its addresses. -/
def ruleOf (d : RuleDirectory) (e : Engine) (r : RuleEntry) : Rule :=
  { identifier := e.classify r.name, direction := d.direction, chain := d.chain }

/-- The contexts in which the template of a rule is rendered. -/
def contexts (d : RuleDirectory) (e : Engine) (r : RuleEntry) : List Template.Context :=
  r.addresses.filterMap (e.context? (d.ruleOf e r))

theorem renderEntry_of_found {template : Template}
    (h : e.findTemplate t (d.candidates e r) = .ok template) :
    d.renderEntry e t r = r.addresses.flatMap (e.renderAddress template (d.ruleOf e r)) := by
  rw [renderEntry, h]
  rfl

/-- A rule that has a template is rendered to the template's commands, and to remarks on what is no
address. -/
theorem mem_renderEntry_iff {template : Template}
    (h : e.findTemplate t (d.candidates e r) = .ok template) {line : Text} :
    line ∈ d.renderEntry e t r ↔
      (∃ c ∈ d.contexts e r, line ∈ template.render c) ∨
      ∃ text cause, some text ∈ r.addresses ∧ Range.parse text = .error cause ∧
        line = Remark.ignoring d.direction (e.classify r.name).name (some text) cause.message := by
  rw [renderEntry_of_found h, List.mem_flatMap]
  constructor
  · rintro ⟨raw, hraw, hline⟩
    cases hc : e.context? (d.ruleOf e r) raw with
    | some c =>
      rw [Engine.renderAddress_of_context hc] at hline
      exact Or.inl ⟨c, List.mem_filterMap.mpr ⟨raw, hraw, hc⟩, hline⟩
    | none =>
      obtain ⟨text, cause, rfl, hcause, hremark⟩ :=
        Engine.renderAddress_of_no_context (t := template) hc
      rw [hremark, List.mem_singleton] at hline
      exact Or.inr ⟨text, cause, hraw, hcause, hline⟩
  · rintro (⟨c, hc, hline⟩ | ⟨text, cause, hraw, hcause, rfl⟩)
    · obtain ⟨raw, hraw, hcontext⟩ := List.mem_filterMap.mp hc
      exact ⟨raw, hraw, by rwa [Engine.renderAddress_of_context hcontext]⟩
    · refine ⟨some text, hraw, ?_⟩
      rw [Engine.renderAddress, hcause]
      exact List.mem_singleton_self _

end RuleDirectory
end PacketFilter
