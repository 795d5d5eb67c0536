import PacketFilter.Proofs.Sorted
import PacketFilter.Proofs.Text.Pieces
import PacketFilter.Service.Registry
import Mathlib.Data.List.Nodup
import Mathlib.Data.List.TakeWhile

/-!
# What every registry satisfies

A registry starts empty and grows by one port under one name at a time, and everything that is
known of its services follows from that one step. `Registry.Sound` collects what holds whatever the
names are: keys ascend and are in lower case, a service is found under its own name, and its ports
are some ports, each once.

What the names look like is a second matter, because it depends on where they come from. Names in
services files are made of name characters, so a registry that was read from texts has `Plain`
names: no blank, no line break and no dollar sign is in them. That is what lets a name stand in a
line of a template.
-/

namespace PacketFilter

/-! ## Letters in lower case -/

namespace Text

theorem toNat_of_isUpper {c : Char} (h : isUpper c = true) :
    65 ≤ c.toNat ∧ c.toNat ≤ 90 := by
  rw [isUpper, Bool.and_eq_true, decide_eq_true_eq, decide_eq_true_eq, Char.le_def, Char.le_def,
    UInt32.le_iff_toNat_le, UInt32.le_iff_toNat_le] at h
  exact h

theorem toNat_lowerChar {c : Char} (h : isUpper c = true) :
    (lowerChar c).toNat = c.toNat + 32 := by
  obtain ⟨hlo, hhi⟩ := toNat_of_isUpper h
  have hvalid : (c.toNat + 32).isValidChar := Or.inl (by omega)
  rw [lowerChar, if_pos h, Char.ofNat, dif_pos hvalid]
  rfl

private theorem isLower_lowerChar {c : Char} (h : isUpper c = true) :
    isLower (lowerChar c) = true := by
  obtain ⟨hlo, hhi⟩ := toNat_of_isUpper h
  have hn := toNat_lowerChar h
  rw [isLower, Bool.and_eq_true, decide_eq_true_eq, decide_eq_true_eq, Char.le_def, Char.le_def,
    UInt32.le_iff_toNat_le, UInt32.le_iff_toNat_le]
  show 97 ≤ (lowerChar c).toNat ∧ (lowerChar c).toNat ≤ 122
  omega

@[simp] theorem isUpper_lowerChar (c : Char) : isUpper (lowerChar c) = false := by
  cases h : isUpper c with
  | false => rwa [lowerChar, if_neg (by simp [h])]
  | true =>
    refine Bool.eq_false_iff.mpr fun hu ↦ ?_
    have hlo := (toNat_of_isUpper h).1
    have hhi := (toNat_of_isUpper hu).2
    rw [toNat_lowerChar h] at hhi
    omega

/-- The case of a letter makes no difference to what holds of no letter. -/
theorem apply_lowerChar {p : Char → Bool}
    (hp : ∀ d : Char, 65 ≤ d.toNat → d.toNat ≤ 122 → p d = false) (c : Char) :
    p (lowerChar c) = p c := by
  cases hu : isUpper c with
  | false => rw [lowerChar, if_neg (by simp [hu])]
  | true =>
    obtain ⟨hlow, hhigh⟩ := toNat_of_isUpper hu
    have hnat := toNat_lowerChar hu
    rw [hp c hlow (by omega), hp (lowerChar c) (by omega) (by omega)]

@[simp] theorem lower_lower (t : Text) : lower (lower t) = lower t := by
  rw [lower, lower, List.map_map]
  refine List.map_congr_left fun c _ ↦ ?_
  show lowerChar (lowerChar c) = lowerChar c
  rw [lowerChar, if_neg (by simp)]

end Text

/-! ## Services -/

namespace Service

variable {α : Type} [DecidableEq α]

@[simp] theorem mem_addNew {as : List α} {a b : α} : b ∈ addNew as a ↔ b ∈ as ∨ b = a := by
  rw [addNew]
  split
  · rename_i h
    refine ⟨Or.inl, fun hb ↦ hb.elim id fun heq ↦ ?_⟩
    rw [heq]
    exact h
  · rw [List.mem_append, List.mem_singleton]

theorem nodup_addNew {as : List α} (h : as.Nodup) (a : α) : (addNew as a).Nodup := by
  rw [addNew]
  split
  · exact h
  · rename_i ha
    exact List.Nodup.append h (List.nodup_singleton a) (by simpa using ha)

/-- Entries taken in one by one end up in the list, each once. -/
theorem nodup_foldl_addNew {as : List α} (h : as.Nodup) (bs : List α) :
    (bs.foldl addNew as).Nodup := by
  induction bs generalizing as with
  | nil => exact h
  | cons b bs ih => exact ih (nodup_addNew h b)

@[simp] theorem mem_foldl_addNew {as bs : List α} {a : α} :
    a ∈ bs.foldl addNew as ↔ a ∈ as ∨ a ∈ bs := by
  induction bs generalizing as with
  | nil => simp
  | cons b bs ih => rw [List.foldl_cons, ih, mem_addNew, List.mem_cons, or_assoc]

theorem mem_portNumbers {s : Service} {n : PortNumber} :
    n ∈ s.portNumbers ↔ ∃ p ∈ s.ports, p.number = n := by
  rw [portNumbers, mem_foldl_addNew, List.mem_map]
  simp

theorem nodup_portNumbers (s : Service) : s.portNumbers.Nodup :=
  nodup_foldl_addNew List.nodup_nil _

namespace Line

theorem isNameChar_lowerChar {c : Char} (h : isNameChar c = true) :
    isNameChar (Text.lowerChar c) = true := by
  cases hu : Text.isUpper c with
  | false => rwa [Text.lowerChar, if_neg (by simp [hu])]
  | true =>
    have hascii : (Text.lowerChar c).toNat < 128 := by
      have := (Text.toNat_of_isUpper hu).2
      rw [Text.toNat_lowerChar hu]
      omega
    rw [isNameChar, Text.isWord, if_pos hascii, Text.isAlphanumeric, Text.isLetter,
      Text.isLower_lowerChar hu]
    simp

theorem isNameChar_of_read? {t : Text} {line : Line} (h : read? t = some line) :
    ∀ name ∈ line.name :: line.aliases, ∀ c ∈ name, isNameChar c = true := by
  simp only [read?, Option.bind_eq_bind, Option.bind_eq_some_iff] at h
  obtain ⟨rest, -, ⟨protocol, rest⟩, -, number, -, h⟩ := h
  split at h
  · rename_i hok
    obtain ⟨-, -, halias⟩ := hok
    rw [isAliasList, Bool.and_eq_true, List.all_eq_true] at halias
    rw [← Option.some_inj.mp h]
    intro name hname c hc
    rcases List.mem_cons.mp hname with rfl | hname
    · exact List.mem_takeWhile_imp hc
    -- The list of aliases holds name characters and blanks, and words hold no blanks.
    · have hchar := halias.1 c (Text.mem_of_mem_words hname hc)
      rw [(Text.solid_of_mem_words hname).2 c hc, Bool.or_false] at hchar
      exact hchar
  · exact absurd h (by simp)

end Line
end Service

/-! ## Registries -/

namespace Registry

/-- What every registry satisfies, whatever the names in it are. -/
structure Sound (r : Registry) : Prop where
  ascending : Sorted.Ascending Text.compare r.entries
  named : ∀ e ∈ r.entries, e.2.name = e.1 ∧ Text.lower e.1 = e.1
  ports : ∀ e ∈ r.entries, e.2.ports ≠ [] ∧ e.2.ports.Nodup

/-- What a registry satisfies that was read from texts: every name is made of name characters as
well. -/
structure Plain (r : Registry) : Prop extends r.Sound where
  nameChars : ∀ e ∈ r.entries, ∀ c ∈ e.1, Service.Line.isNameChar c = true

/-- The registry of several texts, read one after the other. -/
def ofTexts (texts : List Text) : Registry := texts.foldl (fun r text ↦ (r.addText text).1) empty

@[simp] theorem sound_empty : Sound empty :=
  ⟨Sorted.ascending_nil, fun _ he ↦ absurd he List.not_mem_nil,
    fun _ he ↦ absurd he List.not_mem_nil⟩

/-! ### One port more -/

variable {r : Registry}

private theorem mem_insert (hr : r.Sound) {name : Text} {p : Port} {e : Text × Service}
    (he : e ∈ (r.insert name p).entries) :
    e = (Text.lower name,
      (((Sorted.find? Text.compare (Text.lower name) r.entries).getD
        ⟨Text.lower name, []⟩).add p)) ∨ e ∈ r.entries := by
  rcases (Sorted.mem_update_iff hr.ascending).mp he with he | ⟨-, he⟩
  · exact Or.inl he
  · exact Or.inr he

theorem sound_insert (hr : r.Sound) (name : Text) (p : Port) : (r.insert name p).Sound := by
  -- The service that the port is added to is sound, whether it was there before or not.
  have hold : ∀ s : Service, s = (Sorted.find? Text.compare (Text.lower name) r.entries).getD
      ⟨Text.lower name, []⟩ → s.name = Text.lower name ∧ s.ports.Nodup := by
    rintro s rfl
    cases hf : Sorted.find? Text.compare (Text.lower name) r.entries with
    | none => exact ⟨rfl, List.nodup_nil⟩
    | some s =>
      have he := Sorted.mem_of_find? hf
      exact ⟨(hr.named _ he).1, (hr.ports _ he).2⟩
  obtain ⟨hname, hports⟩ := hold _ rfl
  refine ⟨Sorted.ascending_update hr.ascending _ _, fun e he ↦ ?_, fun e he ↦ ?_⟩
  · rcases mem_insert hr he with rfl | he
    · exact ⟨hname, Text.lower_lower name⟩
    · exact hr.named e he
  · rcases mem_insert hr he with rfl | he
    · exact ⟨List.ne_nil_of_mem (Service.mem_addNew.mpr (Or.inr rfl)),
        Service.nodup_addNew hports p⟩
    · exact hr.ports e he

theorem plain_insert (hr : r.Plain) {name : Text}
    (h : ∀ c ∈ name, Service.Line.isNameChar c = true) (p : Port) : (r.insert name p).Plain := by
  refine ⟨sound_insert hr.toSound name p, fun e he ↦ ?_⟩
  rcases mem_insert hr.toSound he with rfl | he
  · intro c hc
    obtain ⟨b, hb, rfl⟩ := List.mem_map.mp hc
    exact Service.Line.isNameChar_lowerChar (h b hb)
  · exact hr.nameChars e he

/-! ### Lines and texts -/

theorem plain_insertAll (hr : r.Plain) {names : List Text}
    (h : ∀ name ∈ names, ∀ c ∈ name, Service.Line.isNameChar c = true) (p : Port) :
    (r.insertAll names p).Plain := by
  induction names generalizing r with
  | nil => exact hr
  | cons name names ih =>
    exact ih (plain_insert hr (h name List.mem_cons_self) p)
      fun n hn ↦ h n (List.mem_cons_of_mem _ hn)

theorem plain_addLine (hr : r.Plain) (raw : Text) : (r.addLine raw).1.Plain := by
  rw [addLine]
  by_cases hblank : Text.trim (Service.Line.code raw) = []
  · rw [if_pos hblank]
    exact hr
  · rw [if_neg hblank]
    cases hread : Service.Line.read? (Service.Line.code raw) with
    | none => exact hr
    | some line => exact plain_insertAll hr (Service.Line.isNameChar_of_read? hread) line.port

theorem plain_addText (hr : r.Plain) (text : Text) : (r.addText text).1.Plain :=
  List.foldlRecOn (motive := fun found : Registry × Nat ↦ found.1.Plain) (Text.lines text) _ hr
    fun _ hfound raw _ ↦ plain_addLine hfound raw

theorem plain_ofTexts (texts : List Text) : (ofTexts texts).Plain :=
  List.foldlRecOn (motive := Plain) texts _ ⟨sound_empty, fun _ he ↦ absurd he List.not_mem_nil⟩
    fun _ hr text _ ↦ plain_addText hr text

/-! ### What follows for a service -/

variable {s : Service}

theorem name_of_find? (hr : r.Sound) {name : Text} (h : r.find? name = some s) :
    s.name = Text.lower name := (hr.named _ (Sorted.mem_of_find? h)).1

theorem find?_of_mem_services (hr : r.Sound) (hs : s ∈ r.services) : r.find? s.name = some s := by
  obtain ⟨e, he, rfl⟩ := List.mem_map.mp hs
  obtain ⟨hname, hlower⟩ := hr.named e he
  rw [find?, hname, hlower]
  exact Sorted.find?_of_mem hr.ascending he

theorem pairwise_services (hr : r.Sound) :
    r.services.Pairwise fun s t ↦ Text.compare s.name t.name = .lt := by
  refine List.pairwise_map.mpr (hr.ascending.imp_of_mem fun {e f} he hf hlt ↦ ?_)
  rw [(hr.named e he).1, (hr.named f hf).1]
  exact hlt

theorem nodup_ports (hr : r.Sound) (hs : s ∈ r.services) : s.ports.Nodup := by
  obtain ⟨e, he, rfl⟩ := List.mem_map.mp hs
  exact (hr.ports e he).2

theorem isNameChar_of_mem_name (hr : r.Plain) (hs : s ∈ r.services) :
    ∀ c ∈ s.name, Service.Line.isNameChar c = true := by
  obtain ⟨e, he, rfl⟩ := List.mem_map.mp hs
  rw [(hr.named e he).1]
  exact hr.nameChars e he

end Registry
end PacketFilter
