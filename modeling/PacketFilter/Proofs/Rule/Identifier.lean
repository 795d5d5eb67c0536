import PacketFilter.Proofs.Service.Grammar
import PacketFilter.Rule.Engine

/-!
# What a name refers to

A name is taken without the blanks around it. If only digits are left, it is a port number or, if
they are too large for one, a name of its own; it is not looked up among the services then, even if
a service is called that way. Any other name is looked up, in letters of either case.

`Identifier.classify_cases` says all of this at once. What follows from it is that the spelling of a
name hardly matters. A service is called by its key, which is in lower case and has no blanks at its
ends, and a number by its numeral; so the name of what was found refers to it again. A name that
refers to nothing keeps its letters as they were, and has no ports in whatever case it is written.
-/

namespace PacketFilter

/-! ## Spellings -/

namespace Text

/-- A nonempty run of the digits of ASCII. -/
def IsDigits (t : Text) : Prop := t ≠ [] ∧ ∀ c ∈ t, isDigit c = true

instance (t : Text) : Decidable (IsDigits t) :=
  decidable_of_iff (t ≠ [] ∧ t.all isDigit = true) (by rw [List.all_eq_true, IsDigits])

/-- The text is a name in letters of either case, with blanks around it. -/
def Spells (t name : Text) : Prop :=
  ∃ front core back, t = front ++ (core ++ back) ∧ lower core = lower name ∧
    ∀ c ∈ front ++ back, isBlank c = true

variable {c : Char} {t name : Text}

/-! ### Characters -/

theorem lowerChar_of_isDigit (h : isDigit c = true) : lowerChar c = c := by
  refine if_neg fun hu ↦ ?_
  have hlow := (toNat_of_isUpper hu).1
  have hhigh := (toNat_of_isDigit h).2
  omega

@[simp] theorem isDigit_lowerChar (c : Char) : isDigit (lowerChar c) = isDigit c := by
  refine apply_lowerChar (fun d hlow _ ↦ ?_) c
  rw [Bool.eq_false_iff]
  intro hdigit
  have hhigh := (toNat_of_isDigit hdigit).2
  omega

@[simp] theorem isBlank_lowerChar (c : Char) : isBlank (lowerChar c) = isBlank c := by
  refine apply_lowerChar (fun d hlow hhigh ↦ ?_) c
  rw [Bool.eq_false_iff]
  intro hblank
  simp only [isBlank, Bool.or_eq_true, Bool.and_eq_true, decide_eq_true_eq, beq_iff_eq] at hblank
  omega

/-! ### Digits -/

@[simp] theorem isDigits_lower_iff : IsDigits (lower t) ↔ IsDigits t := by
  rw [IsDigits, IsDigits, lower, List.forall_mem_map, ne_eq, List.map_eq_nil_iff]
  simp only [isDigit_lowerChar]

theorem IsDigits.lower_eq (h : IsDigits t) : lower t = t :=
  (List.map_congr_left fun c hc ↦ lowerChar_of_isDigit (h.2 c hc)).trans (List.map_id t)

theorem isDigits_decimal (n : Nat) : IsDigits (decimal n) :=
  ⟨(solid_decimal n).1, fun _ ↦ isDigit_of_mem_decimal⟩

/-! ### Blanks around a name -/

theorem trim_lower (t : Text) : trim (lower t) = lower (trim t) := by
  have hblank : isBlank ∘ lowerChar = isBlank := funext isBlank_lowerChar
  rw [trim, trimEnd, trimStart, lower, List.dropWhile_map, hblank, ← List.map_reverse,
    List.dropWhile_map, hblank, ← List.map_reverse]
  rfl

/-- All spellings of a name are one, trimmed and in lower case. -/
theorem Spells.lower_trim (h : Spells t name) : lower (trim t) = lower (trim name) := by
  obtain ⟨front, core, back, rfl, hcore, hblank⟩ := h
  obtain ⟨hfront, hback⟩ := List.forall_mem_append.mp hblank
  rw [trim_isBlank_append hfront, trim_append_of_isBlank hback, ← trim_lower, hcore, trim_lower]

end Text

/-! ## What a name is taken for -/

open Text

namespace Identifier

/-- Digits are a port number or too large for one. Other names are looked up. -/
theorem classify_cases (services : Registry) (raw : Text) :
    (∃ n : PortNumber, IsDigits (trim raw) ∧ digitsValue 10 (trim raw) = n.val ∧
      classify services raw = .numericPort n) ∨
    (IsDigits (trim raw) ∧ 65535 < digitsValue 10 (trim raw) ∧
      classify services raw = .customName (trim raw)) ∨
    (∃ s, ¬IsDigits (trim raw) ∧ services.find? (trim raw) = some s ∧
      classify services raw = .serviceName s.name) ∨
    (¬IsDigits (trim raw) ∧ services.find? (trim raw) = none ∧
      classify services raw = .customName (trim raw)) := by
  have hdigits : (trim raw ≠ [] ∧ (trim raw).all isDigit = true) ↔ IsDigits (trim raw) := by
    rw [List.all_eq_true, IsDigits]
  by_cases h : IsDigits (trim raw)
  · simp only [classify, if_pos (hdigits.mpr h)]
    cases hn : Port.number? (trim raw) with
    | some n => exact Or.inl ⟨n, h, (Service.Line.number?_eq_some_iff.mp hn).value, rfl⟩
    | none =>
      refine Or.inr (Or.inl ⟨h, ?_, rfl⟩)
      by_contra hle
      have hread : Port.number? (trim raw) = some ⟨digitsValue 10 (trim raw), by omega⟩ :=
        Service.Line.number?_eq_some_iff.mpr ⟨h.1, h.2, rfl⟩
      rw [hn] at hread
      cases hread
  · simp only [classify, if_neg (hdigits.not.mpr h)]
    cases hs : services.find? (trim raw) with
    | some s => exact Or.inr (Or.inr (Or.inl ⟨s, h, rfl, rfl⟩))
    | none => exact Or.inr (Or.inr (Or.inr ⟨h, rfl, rfl⟩))

variable {services : Registry}

@[simp]
theorem classify_trim (raw : Text) : classify services (trim raw) = classify services raw := by
  rw [classify, trim_trim, classify]

@[simp] theorem classify_decimal (n : PortNumber) :
    classify services (decimal n.val) = .numericPort n := by
  have hdigits := isDigits_decimal n.val
  have hvalue : digitsValue 10 (decimal n.val) = n.val :=
    digitsValue_toDigits (by decide) (by decide) n.val
  have hcases := classify_cases services (decimal n.val)
  rw [trim_of_solid (solid_decimal n.val), hvalue] at hcases
  rcases hcases with ⟨m, -, hm, h⟩ | ⟨-, hlarge, -⟩ | ⟨s, hnot, -⟩ | ⟨hnot, -⟩
  · rw [h, Fin.ext hm]
  · exact absurd n.isLt (by omega)
  · exact absurd hdigits hnot
  · exact absurd hdigits hnot

theorem classify_name_classify (hr : services.Sound) (raw : Text) :
    classify services (classify services raw).name = classify services raw := by
  rcases classify_cases services raw with ⟨n, -, -, h⟩ | ⟨-, -, h⟩ | ⟨s, hnot, hs, h⟩ | ⟨-, -, h⟩
  · rw [h]
    exact classify_decimal n
  · rw [h]
    exact (classify_trim raw).trans h
  · rw [h]
    show classify services s.name = .serviceName s.name
    have hname : trim s.name = s.name ∧ ¬IsDigits s.name ∧ services.find? s.name = some s := by
      rw [Registry.name_of_find? hr hs]
      refine ⟨by rw [trim_lower, trim_trim], fun hd ↦ hnot (isDigits_lower_iff.mp hd), ?_⟩
      rw [Registry.find?, lower_lower]
      exact hs
    obtain ⟨htrim, hdigits, hfind⟩ := hname
    have hcases := classify_cases services s.name
    rw [htrim, hfind] at hcases
    rcases hcases with ⟨m, hd, -⟩ | ⟨hd, -⟩ | ⟨s', -, hs', h'⟩ | ⟨-, hnone, -⟩
    · exact absurd hd hdigits
    · exact absurd hd hdigits
    · rw [h', Option.some_inj.mp hs']
    · cases hnone
  · rw [h]
    exact (classify_trim raw).trans h

end Identifier

/-! ## Ports -/

namespace Registry

/-- A name finds the service that is called by it in letters of either case. -/
theorem find?_eq_some_iff {r : Registry} (hr : r.Sound) {name : Text} {s : Service} :
    r.find? name = some s ↔ s ∈ r.services ∧ lower s.name = lower name := by
  constructor
  · intro h
    refine ⟨List.mem_map_of_mem (f := Prod.snd) (Sorted.mem_of_find? h), ?_⟩
    rw [name_of_find? hr h, lower_lower]
  · rintro ⟨hs, hname⟩
    have hfind := find?_of_mem_services hr hs
    rwa [find?, hname] at hfind

end Registry

namespace Engine

variable {e : Engine} {raw raw' : Text} {p : Port}

theorem mem_portsOf_of_isDigits (h : IsDigits (trim raw)) :
    p ∈ e.portsOf (e.classify raw) ↔ digitsValue 10 (trim raw) = p.number.val := by
  rw [classify]
  rcases Identifier.classify_cases e.services raw with
    ⟨n, -, hvalue, hc⟩ | ⟨-, hlarge, hc⟩ | ⟨s, hnot, -⟩ | ⟨hnot, -⟩
  · rw [hc, hvalue]
    show p ∈ Protocol.all.map (Port.mk n) ↔ n.val = p.number.val
    obtain ⟨m, protocol⟩ := p
    cases protocol <;> simp [Protocol.all, Fin.ext_iff, eq_comm]
  · have hbelow := p.number.isLt
    rw [hc]
    exact iff_of_false List.not_mem_nil (by omega)
  · exact absurd h hnot
  · exact absurd h hnot

theorem portsOf_serviceName (he : e.services.Sound) {name : Text} {s : Service}
    (hs : e.services.find? name = some s) : e.portsOf (.serviceName s.name) = s.ports := by
  have hagain : e.services.find? s.name = some s :=
    Registry.find?_of_mem_services he ((Registry.find?_eq_some_iff he).mp hs).1
  rw [portsOf, Identifier.ports, hagain]
  rfl

theorem portsOf_of_not_isDigits (he : e.services.Sound) (h : ¬IsDigits (trim raw)) :
    e.portsOf (e.classify raw) =
      ((e.services.find? (trim raw)).map Service.ports).getD [] := by
  rw [classify]
  rcases Identifier.classify_cases e.services raw with
    ⟨n, hd, -⟩ | ⟨hd, -⟩ | ⟨s, -, hs, hc⟩ | ⟨-, hnone, hc⟩
  · exact absurd hd h
  · exact absurd hd h
  · rw [hc, portsOf_serviceName he hs, hs]
    rfl
  · rw [hc, hnone]
    rfl

/-- The ports of a name are those of its number, or those of the service it names. -/
theorem mem_portsOf_classify_iff (he : e.services.Sound) :
    p ∈ e.portsOf (e.classify raw) ↔
      (IsDigits (trim raw) ∧ digitsValue 10 (trim raw) = p.number.val) ∨
      (¬IsDigits (trim raw) ∧
        ∃ s ∈ e.services.services, lower s.name = lower (trim raw) ∧ p ∈ s.ports) := by
  by_cases hd : IsDigits (trim raw)
  · simp only [mem_portsOf_of_isDigits hd, hd, true_and, not_true_eq_false, false_and, or_false]
  · have hservice : (∃ s ∈ e.services.services, lower s.name = lower (trim raw) ∧ p ∈ s.ports) ↔
        ∃ s, e.services.find? (trim raw) = some s ∧ p ∈ s.ports := by
      simp only [Registry.find?_eq_some_iff he, and_assoc]
    rw [portsOf_of_not_isDigits he hd, hservice]
    cases e.services.find? (trim raw) <;> simp [hd]

/-- A name stands for some ports if it is a port number, or if it is no number at all and a service
is called by it. -/
theorem portsOf_classify_ne_nil_iff (he : e.services.Sound) :
    e.portsOf (e.classify raw) ≠ [] ↔
      (IsDigits (trim raw) ∧ digitsValue 10 (trim raw) ≤ 65535) ∨
      (¬IsDigits (trim raw) ∧
        ∃ s ∈ e.services.services, lower s.name = lower (trim raw)) := by
  constructor
  · intro hne
    obtain ⟨p, hp⟩ := List.exists_mem_of_ne_nil _ hne
    rcases (mem_portsOf_classify_iff he).mp hp with ⟨hd, hvalue⟩ | ⟨hd, s, hs, hname, -⟩
    · have hbelow := p.number.isLt
      exact Or.inl ⟨hd, by omega⟩
    · exact Or.inr ⟨hd, s, hs, hname⟩
  · rintro (⟨hd, hle⟩ | ⟨hd, s, hs, hname⟩)
    · let p : Port := ⟨⟨digitsValue 10 (trim raw), by omega⟩, .tcp⟩
      exact List.ne_nil_of_mem ((mem_portsOf_of_isDigits (p := p) hd).mpr rfl)
    · rw [portsOf_of_not_isDigits he hd, (Registry.find?_eq_some_iff he).mpr ⟨hs, hname⟩]
      obtain ⟨entry, hentry, rfl⟩ := List.mem_map.mp hs
      exact (he.ports entry hentry).1

/-- The spelling of a name makes no difference to its ports or to their order. -/
theorem portsOf_classify_congr (he : e.services.Sound)
    (h : lower (trim raw) = lower (trim raw')) :
    e.portsOf (e.classify raw) = e.portsOf (e.classify raw') := by
  have hdigits : IsDigits (trim raw) ↔ IsDigits (trim raw') := by
    rw [← isDigits_lower_iff, h, isDigits_lower_iff]
  by_cases hd : IsDigits (trim raw)
  · -- Digits have no case, so both names are one.
    have hsame : trim raw = trim raw' := by
      rw [← hd.lower_eq, h, (hdigits.mp hd).lower_eq]
    rw [classify, classify, ← Identifier.classify_trim raw, hsame, Identifier.classify_trim]
  · rw [portsOf_of_not_isDigits he hd, portsOf_of_not_isDigits he (hdigits.not.mp hd),
      Registry.find?, Registry.find?, h]

/-- **A name refers to one thing, however it is spelled.** Whatever a registry was filled by, the
name of what a text refers to refers to the same again. Two texts that spell one name, in letters of
either case and with blanks around it, stand for the same ports. There are some exactly if the text
without the blanks around it is a number up to 65535, or is no number of whatever size and is the
name of a service in letters of either case. -/
theorem classify_stable {cs : List Registry.Change} (he : e.services = Registry.after cs)
    (raw : Text) :
    e.classify (e.classify raw).name = e.classify raw ∧
    (∀ name raw', Spells raw name → Spells raw' name →
      e.portsOf (e.classify raw') = e.portsOf (e.classify raw)) ∧
    (e.portsOf (e.classify raw) ≠ [] ↔
      (IsDigits (trim raw) ∧ digitsValue 10 (trim raw) ≤ 65535) ∨
      (¬IsDigits (trim raw) ∧
        ∃ s ∈ e.services.services, lower s.name = lower (trim raw))) := by
  have hsound : e.services.Sound := by
    rw [he]
    exact Registry.sound_after cs
  refine ⟨Identifier.classify_name_classify hsound raw, fun name raw' h h' ↦ ?_,
    portsOf_classify_ne_nil_iff hsound⟩
  exact portsOf_classify_congr hsound (h'.lower_trim.trans h.lower_trim.symm)

/-- One service is called by a number that is too large for a port, another by one that is not. -/
private def numbered : List Registry.Change :=
  [.read "SSH 22/tcp secure-shell\n99999 80/tcp\n", .read "0022 23/udp\n"]

private def numberedEngine : Engine := { services := .after numbered }

/-- The number that is too large has no ports, though a service is called by it, and the other one
has those of its value. The name of the third service is found in any case and with blanks around
it. -/
theorem classify_stable_numbered :
    numberedEngine.services = Registry.after numbered ∧
    (∃ s ∈ numberedEngine.services.services, s.name = "99999") ∧
    numberedEngine.portsOf (numberedEngine.classify " 99999") = [] ∧
    numberedEngine.portsOf (numberedEngine.classify "0022\t") = [⟨22, .tcp⟩, ⟨22, .udp⟩] ∧
    numberedEngine.classify (numberedEngine.classify "0022\t").name =
      numberedEngine.classify "0022\t" ∧
    numberedEngine.portsOf (numberedEngine.classify "ssh") = [⟨22, .tcp⟩] ∧
    Spells "ssh" "ssh" ∧ Spells "\tSsh " "ssh" ∧
    numberedEngine.portsOf (numberedEngine.classify "\tSsh ") =
      numberedEngine.portsOf (numberedEngine.classify "ssh") := by
  have hservice : ∃ s ∈ numberedEngine.services.services, s.name = "99999" := by decide +kernel
  have hspells : Spells "ssh" "ssh" ∧ Spells "\tSsh " "ssh" :=
    ⟨⟨[], "ssh", [], rfl, rfl, by simp⟩, ⟨"\t", "Ssh", " ", rfl, rfl, List.all_eq_true.mp rfl⟩⟩
  refine ⟨rfl, hservice, ?_, by decide +kernel, (classify_stable rfl "0022\t").1,
    by decide +kernel, hspells.1, hspells.2,
    (classify_stable rfl "ssh").2.1 "ssh" "\tSsh " hspells.1 hspells.2⟩
  by_contra hne
  rcases (classify_stable rfl " 99999").2.2.mp hne with ⟨-, hle⟩ | ⟨hnot, -⟩
  · exact absurd hle (by decide)
  · exact absurd (by decide) hnot

end Engine
end PacketFilter
