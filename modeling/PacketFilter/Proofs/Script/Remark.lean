import PacketFilter.Proofs.Rule.Identifier
import PacketFilter.Proofs.Script.RuleDirectory
import PacketFilter.Proofs.Text.Rows
import PacketFilter.Script.AddressDirectory

/-!
# What remarks repeat

A remark repeats a name, an address as written and a reason, each as it stands. It starts with
`# Ignoring ` in any case, and it is one row exactly if none of the three holds a line feed.

Reasons are the wording of failures. What they quote is escaped, so an address that could not be read
does no harm in the reason, only in its place before it. Names of templates and paths are not quoted:
a reason is as tame as the name that was looked for and the directories it was looked for in.
-/

namespace PacketFilter

open Text

/-! ## Remarks and banners -/

namespace Remark

/-- A remark is broken up exactly by a line feed in what it repeats. -/
theorem mem_ignoring_iff {d : Direction} {name : Text} {target : Option Text} {reason : Text} :
    '\n' ∈ ignoring d name target reason ↔
      '\n' ∈ name ∨ (∃ address, target = some address ∧ '\n' ∈ address) ∨ '\n' ∈ reason := by
  have hdirection : '\n' ∉ d.name := by cases d <;> decide
  unfold ignoring
  cases target with
  | none => simp [hdirection]
  | some address => simp [hdirection]

theorem rows_ignoring (d : Direction) (name : Text) (target : Option Text) (reason : Text) :
    ∃ row rest, rows (ignoring d name target reason) = row :: rest ∧
      "# Ignoring ".toList <+: row := by
  have hstart : '\n' ∉ "# Ignoring ".toList := by decide
  have hsplit : ∃ rest, ignoring d name target reason = "# Ignoring ".toList ++ rest := by
    unfold ignoring
    simp only [List.append_assoc]
    exact ⟨_, rfl⟩
  obtain ⟨rest, hrest⟩ := hsplit
  obtain ⟨row, more, -, hrows⟩ := rows_append hstart rest
  exact ⟨_, more, hrest ▸ hrows, List.prefix_append _ _⟩

theorem not_mem_banner {title : Text} (h : '\n' ∉ title) : ∀ l ∈ banner title, '\n' ∉ l := by
  have hrule : '\n' ∉ List.replicate width '#' := by decide
  have hhash : '\n' ∉ "#".toList := by decide
  have hstart : '\n' ∉ "# ".toList := by decide
  intro l hl
  simp only [banner, List.mem_cons, List.not_mem_nil, or_false] at hl
  rcases hl with rfl | rfl | rfl | rfl | rfl
  · exact hrule
  · exact hhash
  · rw [List.mem_append, not_or]
    exact ⟨hstart, h⟩
  · exact hhash
  · exact hrule

theorem head?_banner (title : Text) : ∀ l ∈ banner title, l.head? = some '#' := by
  intro l hl
  simp only [banner, List.mem_cons, List.not_mem_nil, or_false] at hl
  rcases hl with rfl | rfl | rfl | rfl | rfl <;> rfl

end Remark

/-! ## Paths and messages -/

theorem Path.not_mem_join {dir name : Path} (hdir : '\n' ∉ dir) (hname : '\n' ∉ name) :
    '\n' ∉ Path.join dir name := by
  have hslash : '\n' ∉ "/".toList := by decide
  rw [Path.join]
  split_ifs
  · exact hname
  · rw [List.mem_append, not_or]
    exact ⟨hdir, hname⟩
  · rw [List.mem_append, List.mem_append, not_or, not_or]
    exact ⟨⟨hdir, hslash⟩, hname⟩

theorem Direction.not_mem_templateName {name : Text} (h : '\n' ∉ name) (d : Direction) :
    '\n' ∉ d.templateName name := by
  have hdot : '\n' ∉ ".".toList := by decide
  have hdirection : '\n' ∉ d.name := by cases d <;> decide
  rw [Direction.templateName, List.mem_append, List.mem_append, not_or, not_or]
  exact ⟨⟨h, hdot⟩, hdirection⟩

namespace Error

theorem not_mem_message_malformedAddress (t : Text) : '\n' ∉ (malformedAddress t).message := by
  have hstart : '\n' ∉ "Malformed address: ".toList := by decide
  show '\n' ∉ "Malformed address: ".toList ++ quoted t
  rw [List.mem_append, not_or]
  exact ⟨hstart, not_mem_quoted t⟩

theorem not_mem_message_noTemplate {names : List Text} (h : ∀ name ∈ names, '\n' ∉ name) :
    '\n' ∉ (noTemplate names).message := by
  have hstart : '\n' ∉ "Could not find any templates called ".toList := by decide
  show '\n' ∉ "Could not find any templates called ".toList ++ joinWith " or " names
  rw [List.mem_append, not_or]
  refine ⟨hstart, fun hmem ↦ ?_⟩
  refine forall_mem_joinWith (P := (· ≠ '\n')) (by simp) (fun name hname c hc ↦ ?_) _ hmem rfl
  rintro rfl
  exact h name hname hc

theorem not_mem_message_file {p : Path} (h : '\n' ∉ p) (cause : FileError) :
    '\n' ∉ (file p cause).message := by
  have hstart : '\n' ∉ "I/O error on ".toList := by decide
  have hcolon : '\n' ∉ ": ".toList := by decide
  have hcause : '\n' ∉ cause.message := by cases cause <;> decide
  show '\n' ∉ "I/O error on ".toList ++ p ++ ": ".toList ++ cause.message
  simp only [List.mem_append, not_or]
  exact ⟨⟨⟨hstart, h⟩, hcolon⟩, hcause⟩

end Error

/-! ## Reasons

A rule is left out because an address is none, or because its template was not found or not read. -/

theorem Range.exists_of_parse_error {text : Text} {cause : Error}
    (h : Range.parse text = .error cause) : ∃ t, cause = .malformedAddress t := by
  rw [Range.parse] at h
  split at h
  · cases h
  · cases h
    exact ⟨_, rfl⟩

theorem Range.not_mem_message {text : Text} {cause : Error}
    (h : Range.parse text = .error cause) : '\n' ∉ cause.message := by
  obtain ⟨t, rfl⟩ := Range.exists_of_parse_error h
  exact Error.not_mem_message_malformedAddress t

theorem Template.exists_of_load_error {t : Tree} {p : Path} {cause : Error}
    (h : Template.load t p = .error cause) : ∃ c, cause = .file p c := by
  rw [Template.load, Tree.load] at h
  cases hread : t.readText p with
  | ok content =>
    rw [hread] at h
    cases h
  | error c =>
    rw [hread] at h
    cases h
    exact ⟨c, rfl⟩

namespace Engine

variable {e : Engine} {t : Tree}

/-- Why no template is there for some names is told in one row, if the names and the search path
hold no line feed. -/
theorem not_mem_message_findTemplate {names : List Text} {cause : Error}
    (hdirs : ∀ p ∈ e.templateDirs, '\n' ∉ p) (hnames : ∀ name ∈ names, '\n' ∉ name)
    (h : e.findTemplate t names = .error cause) : '\n' ∉ cause.message := by
  cases hfind : names.findSome? (e.findOne? t) with
  | none =>
    rw [findTemplate, find, hfind] at h
    cases h
    exact Error.not_mem_message_noTemplate hnames
  | some p =>
    obtain ⟨name, hname, hone⟩ := List.exists_of_findSome?_eq_some hfind
    obtain ⟨dir, hdir, rfl⟩ := exists_of_findOne? hone
    rw [findTemplate, find_eq_ok_iff.mpr hfind] at h
    obtain ⟨c, rfl⟩ := Template.exists_of_load_error h
    exact Error.not_mem_message_file (Path.not_mem_join (hdirs dir hdir) (hnames name hname)) c

end Engine

/-! ## Names -/

theorem Text.not_mem_lower {t : Text} (h : '\n' ∉ t) : '\n' ∉ lower t := by
  intro hmem
  obtain ⟨c, hc, heq⟩ := List.mem_map.mp hmem
  have hfeed : (lowerChar c == '\n') = (c == '\n') := by
    refine apply_lowerChar (p := (· == '\n')) (fun d hlow _ ↦ beq_eq_false_iff_ne.mpr ?_) c
    rintro rfl
    exact absurd hlow (by decide)
  rw [heq, beq_self_eq_true, eq_comm, beq_iff_eq] at hfeed
  exact h (hfeed ▸ hc)

/-- What a name refers to is called by the name itself, without blanks and in lower case. -/
theorem Engine.not_mem_classify_name {e : Engine} (he : e.services.Sound) {raw : Text}
    (h : '\n' ∉ raw) : '\n' ∉ (e.classify raw).name := by
  have htrim : '\n' ∉ trim raw := fun hmem ↦ h (mem_of_mem_trim hmem)
  rw [classify]
  rcases Identifier.classify_cases e.services raw with
    ⟨n, -, -, hc⟩ | ⟨-, -, hc⟩ | ⟨s, -, hs, hc⟩ | ⟨-, -, hc⟩
  · rw [hc]
    exact not_mem_decimal n.val
  · rw [hc]
    exact htrim
  · rw [hc]
    show '\n' ∉ s.name
    rw [Registry.name_of_find? he hs]
    exact not_mem_lower htrim
  · rw [hc]
    exact htrim

/-! ## Entries

What a directory lists is made of the names of its files and of the lines in them. -/

namespace AddressDirectory

variable {d : AddressDirectory} {t : Tree}

theorem mem_addresses {addresses : List Text} (h : d.addresses t = .ok addresses) {a : Text}
    (ha : a ∈ addresses) :
    ∃ names, t.fileNames d.path = .ok names ∧ ∃ name ∈ names, a = addressOf name := by
  obtain ⟨names, hnames, h⟩ := bind_eq_ok.mp h
  cases h
  rw [Sorted.mem_dedup, Text.sort, List.mem_mergeSort] at ha
  obtain ⟨name, hname, rfl⟩ := List.mem_map.mp ha
  exact ⟨names, hnames, name, (List.mem_filter.mp hname).1, rfl⟩

theorem mem_of_mem_addressOf {name : Text} {c : Char} (h : c ∈ addressOf name) : c ∈ name := by
  rw [addressOf] at h
  cases hend : beforeEnd? ".auto" name with
  | none => rwa [hend] at h
  | some front =>
    rw [hend] at h
    rw [beforeEnd?_eq_some_iff.mp hend]
    exact List.mem_append_left _ h

end AddressDirectory

namespace RuleEntry

theorem mem_of_mem_nameOf? {fileName name : Text} (h : nameOf? fileName = some name) {c : Char}
    (hc : c ∈ name) : c ∈ fileName := by
  obtain ⟨⟨number, rest⟩, hcut, h⟩ := Option.bind_eq_some_iff.mp h
  dsimp only at h
  split at h
  · cases h
    rw [eq_append_of_cut? hcut]
    exact List.mem_append_right _ (List.mem_cons_of_mem _ hc)
  · cases h

theorem not_mem_of_mem_addressesOf {content text : Text} (h : some text ∈ addressesOf content) :
    '\n' ∉ text := by
  rw [addressesOf] at h
  split at h
  · cases List.mem_singleton.mp h
  · obtain ⟨line, hline, heq⟩ := List.mem_map.mp h
    cases heq
    obtain ⟨raw, hraw, rfl⟩ := List.mem_map.mp (List.mem_filter.mp hline).1
    exact fun hmem ↦ not_mem_of_mem_lines hraw (mem_of_mem_trim hmem)

end RuleEntry

end PacketFilter
