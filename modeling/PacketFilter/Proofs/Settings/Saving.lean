import PacketFilter.Proofs.Except
import PacketFilter.Proofs.Files.Tree
import PacketFilter.Proofs.Yaml.Parser
import PacketFilter.Settings.Reading
import PacketFilter.Settings.Writing

/-!
# Saved settings are loaded back

The file of settings is a mapping whose last entry is again one, so it is read as the document of
its entries. What is left is that each setting is read by what it wants: a text whatever its style,
a number if its numeral is taken for one, and the interface as a text unless it is null. The last is
where a text could be mistaken, and it is not since a text that looks like null is never plain.
-/

namespace PacketFilter.Settings

open Yaml

variable {d : Document} {t : Text} {n : Nat} {b : BlockPolicy} {s : Settings}

/-! ## Numerals -/

/-- A numeral starts with a digit, and with a zero only if it is that of zero. -/
theorem decimal_cases (n : Nat) : Text.decimal n = ['0'] ∨
    ∃ c cs, Text.decimal n = c :: cs ∧ Text.isDigit c = true ∧ c ≠ '0' := by
  obtain rfl | hn := Nat.eq_zero_or_pos n
  · exact Or.inl rfl
  · have hhead : (Text.decimal n).head? ≠ some '0' :=
      Text.head?_toDigits_ne_zero (by decide) (by decide) hn
    have hne : Text.decimal n ≠ [] := Nat.toDigits_ne_nil
    obtain ⟨c, cs, hcs⟩ := List.exists_cons_of_ne_nil hne
    have hmem : c ∈ Text.decimal n := by
      rw [hcs]
      exact List.mem_cons_self
    refine Or.inr ⟨c, cs, hcs, Text.isDigit_of_mem_decimal hmem, ?_⟩
    rintro rfl
    exact hhead (by rw [hcs]; rfl)

theorem natural?_decimal {bound : Nat} (h : n < bound) :
    Yaml.natural? bound (Text.decimal n) = some n := by
  have hforms : isZeroPadded (Text.decimal n) = false ∧
      dropPlus (Text.decimal n) = Text.decimal n ∧ based? (Text.decimal n) = none := by
    obtain hzero | ⟨c, cs, hcs, hdigit, hc⟩ := decimal_cases n
    · rw [hzero]
      decide
    · have hplus : c ≠ '+' := by
        rintro rfl
        cases hdigit
      have hminus : c ≠ '-' := by
        rintro rfl
        cases hdigit
      rw [hcs]
      simp [isZeroPadded, startsSigned, dropPlus, based?, hc, hplus, hminus]
  obtain ⟨hpadded, hplus, hbased⟩ := hforms
  rw [Yaml.natural?, hpadded, hplus, magnitude?, hbased, Text.number?_decimal]
  simp [h]

/-! ## Values -/

/-- A list that was written element by element is read back. -/
theorem mapM_map_eq_some {α β : Type} {write : α → β} {read : β → Option α}
    (h : ∀ a, read (write a) = some a) (xs : List α) : (xs.map write).mapM read = some xs := by
  have hpure : read ∘ write = fun a ↦ pure (id a) := funext h
  rw [List.mapM_map, hpure, List.mapM_pure, List.map_id]
  rfl

@[simp] theorem text?_textNode (d : Document) (t : Text) : text? d (textNode t) = some t := rfl

@[simp] theorem texts?_map_textNode (d : Document) (ts : List Text) :
    texts? d (.sequence (ts.map textNode)) = some ts := by
  refine mapM_map_eq_some ?_ ts
  exact text?_textNode d

theorem natural?_wordNode (d : Document) (h : n < Bits.values 64) :
    natural? d (wordNode (Text.decimal n)) = some n := by
  rw [natural?]
  exact (if_pos (Or.inl rfl)).trans (natural?_decimal h)

/-- A text that is wanted as one or null is no null, in whatever style it is written. -/
@[simp] theorem optionalText?_textNode (d : Document) (t : Text) :
    optionalText? d (textNode t) = some (some t) := by
  show (if styleOf t ≠ .plain then some (some t)
    else some (if t = [] ∨ isNull t = true then none else some t)) = _
  by_cases hstyle : styleOf t = .plain
  · have hambiguous := (allowsPlain_of_styleOf hstyle).1
    simp only [isAmbiguous, Bool.or_eq_false_iff, decide_eq_false_iff_not] at hambiguous
    obtain ⟨⟨⟨⟨⟨⟨hne, hnull⟩, -⟩, -⟩, -⟩, -⟩, -⟩ := hambiguous
    simp [hstyle, hne, hnull]
  · exact if_pos hstyle

@[simp]
theorem optionalText?_null (d : Document) : optionalText? d (wordNode "null") = some none := by
  rfl

/-! ## Entries -/

@[simp] theorem entries?_map (d : Document) (es : List (Text × Node)) :
    entries? d (.mapping (es.map fun e ↦ (wordNode e.1, e.2))) = some es := by
  refine mapM_map_eq_some ?_ es
  intro e
  rfl

theorem field?_of_mem {α : Type} {es : List (Text × Node)} {key : Text} {node : Node}
    {read : Node → Option α} {a : α} (hnodup : (es.map Prod.fst).Nodup) (hmem : (key, node) ∈ es)
    (hread : read node = some a) (default : α) : field? es key default read = some a := by
  have hfilter : es.filter (fun e ↦ e.1 = key) = [(key, node)] := by
    induction es with
    | nil => cases hmem
    | cons e es ih =>
      rw [List.map_cons, List.nodup_cons] at hnodup
      by_cases he : e.1 = key
      · have hnot : key ∉ es.map Prod.fst := he ▸ hnodup.1
        have hrest : es.filter (fun e ↦ e.1 = key) = [] := by
          rw [List.filter_eq_nil_iff]
          intro e' he' heq
          exact hnot (List.mem_map.mpr ⟨e', he', of_decide_eq_true heq⟩)
        rw [List.filter_cons_of_pos (by simpa using he), hrest]
        obtain rfl | hmem := List.mem_cons.mp hmem
        · rfl
        · exact absurd (List.mem_map.mpr ⟨_, hmem, rfl⟩) hnot
      · rw [List.filter_cons_of_neg (by simpa using he)]
        refine ih hnodup.2 ((List.mem_cons.mp hmem).resolve_left ?_)
        rintro rfl
        exact he rfl
  rw [field?, hfilter]
  exact hread

/-! ## Settings -/

theorem print_eq (s : Settings) :
    s.print = nestedText s.placeEntries "blacklist" (blockingEntries s.blocking) := by
  rw [print, nestedText, List.append_assoc]
  rfl

/-- The names of settings that say when to block, with what stands under them. -/
def blockingNodes (b : BlockPolicy) : List (Text × Node) :=
  [("block_after", wordNode (Text.decimal b.blockAfter)),
    ("block_all_after", wordNode (Text.decimal b.blockAllAfter)), ("template", textNode b.template)]

/-- The names of settings, with what stands under them. -/
def nodes (s : Settings) : List (Text × Node) :=
  [("template_dirs", .sequence (s.templateDirs.map textNode)),
    ("generic_template", textNode s.genericTemplate), ("services_file", textNode s.servicesFile),
    ("base_dir", textNode s.baseDir), ("patterns_dir", textNode s.patternsDir),
    ("wtmp_file", textNode s.loginFile), ("device", (s.device.map textNode).getD (wordNode "null")),
    ("blacklist", .mapping ((blockingEntries s.blocking).map entryNodes))]

theorem readBlocking?_entries (d : Document) (hafter : b.blockAfter < Bits.values 64)
    (hall : b.blockAllAfter < Bits.values 64) :
    readBlocking? d (.mapping ((blockingEntries b).map entryNodes)) = some b := by
  have hentries : entries? d (.mapping ((blockingEntries b).map entryNodes)) =
      some (blockingNodes b) := entries?_map d (blockingNodes b)
  have hnodup : ((blockingNodes b).map Prod.fst).Nodup := by
    show (["block_after", "block_all_after", "template"] : List Text).Nodup
    decide
  rw [readBlocking?, hentries]
  simp only [Option.bind_eq_bind, Option.bind_some]
  rw [field?_of_mem hnodup (by simp [blockingNodes]) (natural?_wordNode d hafter),
    field?_of_mem hnodup (by simp [blockingNodes]) (natural?_wordNode d hall),
    field?_of_mem hnodup (by simp [blockingNodes]) (text?_textNode d b.template)]
  rfl

/-- **The document of settings is read as the settings.** -/
theorem ofDocument?_nodes (hafter : s.blocking.blockAfter < Bits.values 64)
    (hall : s.blocking.blockAllAfter < Bits.values 64) :
    ofDocument? ⟨.mapping (s.nodes.map fun e ↦ (wordNode e.1, e.2)), []⟩ = some s := by
  set d : Document := ⟨.mapping (s.nodes.map fun e ↦ (wordNode e.1, e.2)), []⟩ with hd
  have hentries : entries? d d.root = some s.nodes := entries?_map d s.nodes
  have hnodup : (s.nodes.map Prod.fst).Nodup := by
    show (["template_dirs", "generic_template", "services_file", "base_dir", "patterns_dir",
      "wtmp_file", "device", "blacklist"] : List Text).Nodup
    decide
  have hdevice : optionalText? d ((s.device.map textNode).getD (wordNode "null")) =
      some s.device := by
    cases s.device with
    | none => exact optionalText?_null d
    | some device => exact optionalText?_textNode d device
  rw [ofDocument?, hentries]
  simp only [Option.bind_eq_bind, Option.bind_some]
  rw [field?_of_mem hnodup (by simp [nodes]) (texts?_map_textNode d s.templateDirs),
    field?_of_mem hnodup (by simp [nodes]) (text?_textNode d s.genericTemplate),
    field?_of_mem hnodup (by simp [nodes]) (text?_textNode d s.servicesFile),
    field?_of_mem hnodup (by simp [nodes]) (text?_textNode d s.baseDir),
    field?_of_mem hnodup (by simp [nodes]) (text?_textNode d s.patternsDir),
    field?_of_mem hnodup (by simp [nodes]) (text?_textNode d s.loginFile),
    field?_of_mem hnodup (by simp [nodes]) hdevice,
    field?_of_mem hnodup (by simp [nodes]) (readBlocking?_entries d hafter hall)]
  rfl

/-- **The text of settings is read as the settings.** -/
theorem parse?_print (hafter : s.blocking.blockAfter < Bits.values 64)
    (hall : s.blocking.blockAllAfter < Bits.values 64) : parse? s.print = some s := by
  have hplaces : ∀ e ∈ s.placeEntries, Scanner.IsName e.1 := by
    have hnames : ∀ key ∈ s.placeEntries.map Prod.fst, Scanner.IsName key := by
      show ∀ key ∈ (["template_dirs", "generic_template", "services_file", "base_dir",
        "patterns_dir", "wtmp_file", "device"] : List Text), Scanner.IsName key
      decide
    exact fun e he ↦ hnames e.1 (List.mem_map_of_mem he)
  have hblocking : ∀ e ∈ blockingEntries s.blocking, Scanner.IsName e.1 := by
    have hnames : ∀ key ∈ (blockingEntries s.blocking).map Prod.fst, Scanner.IsName key := by
      show ∀ key ∈ (["block_after", "block_all_after", "template"] : List Text), Scanner.IsName key
      decide
    exact fun e he ↦ hnames e.1 (List.mem_map_of_mem he)
  have hnodes : s.placeEntries.map entryNodes ++
      [(wordNode "blacklist", .mapping ((blockingEntries s.blocking).map entryNodes))] =
      s.nodes.map fun e ↦ (wordNode e.1, e.2) := by
    rw [placeEntries, nodes]
    cases s.device <;> rfl
  have hread := parse?_nestedText hplaces (by decide : Scanner.IsName "blacklist") hblocking
    (List.cons_ne_nil _ _) (List.cons_ne_nil _ _)
  rw [hnodes] at hread
  rw [parse?, print_eq, hread]
  exact ofDocument?_nodes hafter hall

/-! ## Files -/

/-- A file of settings can be put at a path: the directory it is in is there, and the path is not
that of a directory. -/
def Writable (t : Tree) (p : Path) : Prop :=
  t.isDirectory (directoryOf p) = true ∧ ∃ t', t.write p [] = .ok t'

theorem blockAfter_le_of_checkThresholds (h : checkThresholds b = .ok ()) :
    b.blockAfter ≤ b.blockAllAfter := by
  rw [checkThresholds] at h
  split_ifs at h
  omega

theorem blockAfter_le_of_check (h : check s = .ok ()) :
    s.blocking.blockAfter ≤ s.blocking.blockAllAfter := by
  simp only [check, bind_eq_ok] at h
  obtain ⟨-, -, -, -, -, -, -, -, -, -, h⟩ := h
  cases hresult : checkThresholds s.blocking with
  | ok => exact blockAfter_le_of_checkThresholds hresult
  | error reason =>
    rw [hresult] at h
    cases h

/-- **Settings that pass their check are loaded back from the file they are saved to**, whatever
the texts in them look like. The thresholds are numbers of 64 bits. -/
theorem load_of_save {t : Tree} {p : Path} (hcheck : check s = .ok ())
    (hall : s.blocking.blockAllAfter < Bits.values 64) (hp : Writable t p) :
    ∃ t', s.save t p = .ok t' ∧ load t' p = .ok s := by
  obtain ⟨hdirectory, _, hempty⟩ := hp
  obtain ⟨l, hl, hfree, hlast, -⟩ := Tree.write_eq_ok_iff.mp hempty
  have hwrite : t.write p (Utf8.encode s.print) = .ok (t.put l (.file (Utf8.encode s.print))) :=
    Tree.write_eq_ok_iff.mpr ⟨l, hl, hfree, hlast, rfl⟩
  have hafter : s.blocking.blockAfter < Bits.values 64 :=
    lt_of_le_of_lt (blockAfter_le_of_check hcheck) hall
  refine ⟨t.put l (.file (Utf8.encode s.print)), ?_, ?_⟩
  · rw [save, hdirectory, hwrite]
    rfl
  · rw [load, Tree.readText_of_write hwrite]
    apply bind_eq_ok.mpr
    refine ⟨s.print, rfl, ?_⟩
    rw [parse?_print hafter hall]
    show (check s).map (fun _ ↦ s) = _
    rw [hcheck]
    rfl

/-- Settings whose texts look like something else. -/
def lookalikes : Settings where
  templateDirs := ["/rule: d #1", "/\n two\nlines \n\n"]
  genericTemplate := "null"
  servicesFile := " - 'quoted' \t"
  baseDir := "0x1F"
  patternsDir := ""
  loginFile := "1e3"
  device := some "true"
  blocking := { blockAfter := 1, blockAllAfter := 1, template := "~" }

/-- A tree with a directory for the settings. -/
def settingsTree : Tree where
  entries := [(["etc"], .directory)]

theorem load_of_save_lookalikes :
    check lookalikes = .ok () ∧ lookalikes.blocking.blockAllAfter < Bits.values 64 ∧
      Writable settingsTree "/etc/config" ∧
      ∃ t', lookalikes.save settingsTree "/etc/config" = .ok t' ∧
        load t' "/etc/config" = .ok lookalikes := by
  have hcheck : check lookalikes = .ok () := by rfl
  have hall : lookalikes.blocking.blockAllAfter < Bits.values 64 := by decide
  have hp : Writable settingsTree "/etc/config" := ⟨by decide +kernel, _, rfl⟩
  exact ⟨hcheck, hall, hp, load_of_save hcheck hall hp⟩

end PacketFilter.Settings
