import PacketFilter.Proofs.Files.Tree
import PacketFilter.Proofs.Template.Segments
import PacketFilter.Rule.Engine
import Mathlib.Data.List.Find

/-!
# Where templates are searched

A rule names its template, and what a rule is called is up to whoever writes it. The engine looks
for each candidate name in every directory of its search path before it goes on to the next name,
and takes the first file that it finds. So there are two orders, and names come before directories.

## No way out

A name that is looked for is plain: it is the name of one file. A path that ends in a plain name
leads into the directory it starts with and no further, whatever the tree looks like and whatever
other names a rule may have. Two trees with the same directories, and with the same files directly
in the directories of the search path, are therefore the same to the engine: `SameInside` is what
compiling depends on. Nothing that lies elsewhere is read, or makes a difference by being there.
-/

namespace PacketFilter

/-- The name of a single file that is not hidden. -/
structure PlainName (name : Text) : Prop where
  ne_nil : name ≠ []
  not_hidden : name.head? ≠ some '.'
  slash_not_mem : '/' ∉ name
  nul_not_mem : '\x00' ∉ name

theorem PlainName.isName {name : Text} (h : PlainName name) : Path.IsName name where
  ne_nil := h.ne_nil
  ne_here heq := h.not_hidden (heq ▸ rfl)
  ne_above heq := h.not_hidden (heq ▸ rfl)
  slash_not_mem := h.slash_not_mem

namespace Engine

variable {e : Engine} {t : Tree} {names : List Text} {name : Text} {p : Path}

@[simp] theorem isPlainName_iff : isPlainName name = true ↔ PlainName name := by
  simp only [isPlainName, Bool.and_eq_true, decide_eq_true_eq, Bool.not_eq_true',
    List.any_eq_false, Bool.or_eq_true, beq_iff_eq, not_or]
  constructor
  · rintro ⟨⟨hne, hhead⟩, hchars⟩
    exact ⟨hne, hhead, fun h ↦ (hchars _ h).1 rfl, fun h ↦ (hchars _ h).2 rfl⟩
  · rintro ⟨hne, hhead, hslash, hnul⟩
    refine ⟨⟨hne, hhead⟩, fun c hc ↦ ⟨?_, ?_⟩⟩
    · rintro rfl
      exact hslash hc
    · rintro rfl
      exact hnul hc

/-! ## One name -/

theorem findOne?_eq_some_iff :
    e.findOne? t name = some p ↔ PlainName name ∧ ∃ front dir back,
      e.templateDirs = front ++ dir :: back ∧ p = dir.join name ∧ t.isFile p = true ∧
        ∀ other ∈ front, t.isFile (other.join name) = false := by
  rw [findOne?, ← isPlainName_iff]
  split_ifs with hplain
  · rw [and_iff_right hplain, List.find?_map, Option.map_eq_some_iff]
    simp only [List.find?_eq_some_iff_append, Function.comp_apply, Bool.not_eq_true']
    constructor
    · rintro ⟨dir, ⟨hfile, front, back, hdirs, hfront⟩, rfl⟩
      exact ⟨front, dir, back, hdirs, rfl, hfile, hfront⟩
    · rintro ⟨front, dir, back, hdirs, rfl, hfile, hfront⟩
      exact ⟨dir, ⟨hfile, front, back, hdirs, hfront⟩, rfl⟩
  · exact iff_of_false (by simp) fun h ↦ hplain h.1

theorem findOne?_eq_none_iff :
    e.findOne? t name = none ↔
      (PlainName name → ∀ dir ∈ e.templateDirs, t.isFile (dir.join name) = false) := by
  rw [findOne?, ← isPlainName_iff]
  split_ifs with hplain
  · simp [hplain]
  · exact iff_of_true rfl fun h ↦ absurd h hplain

/-- A template that is found lies in a directory of the search path, under the name looked for. -/
theorem exists_of_findOne? (h : e.findOne? t name = some p) :
    ∃ dir ∈ e.templateDirs, p = dir.join name := by
  obtain ⟨-, front, dir, back, hdirs, rfl, -, -⟩ := findOne?_eq_some_iff.mp h
  exact ⟨dir, hdirs ▸ List.mem_append_right front List.mem_cons_self, rfl⟩

/-! ## Several names -/

theorem find_eq_ok_iff : e.find t names = .ok p ↔ names.findSome? (e.findOne? t) = some p := by
  rw [find]
  cases names.findSome? (e.findOne? t) <;> simp

theorem find_eq_error_iff {cause : Error} :
    e.find t names = .error cause ↔
      cause = .noTemplate names ∧ ∀ name ∈ names, e.findOne? t name = none := by
  rw [find, ← List.findSome?_eq_none_iff]
  cases names.findSome? (e.findOne? t) with
  | none => simp [eq_comm]
  | some p => simp

theorem exists_of_findTemplate {template : Template} (h : e.findTemplate t names = .ok template) :
    ∃ p, names.findSome? (e.findOne? t) = some p ∧ Template.load t p = .ok template := by
  obtain ⟨p, hp, htemplate⟩ := bind_eq_ok.mp h
  exact ⟨p, find_eq_ok_iff.mp hp, htemplate⟩

theorem find_eq_ok_iff_first :
    e.find t names = .ok p ↔ ∃ earlier name later front dir back,
      names = earlier ++ name :: later ∧ e.templateDirs = front ++ dir :: back ∧
      p = dir.join name ∧ PlainName name ∧ t.isFile p = true ∧
      (∀ other ∈ earlier, PlainName other →
        ∀ dir' ∈ e.templateDirs, t.isFile (dir'.join other) = false) ∧
      ∀ dir' ∈ front, t.isFile (dir'.join name) = false := by
  rw [find_eq_ok_iff, List.findSome?_eq_some_iff]
  simp only [findOne?_eq_some_iff, findOne?_eq_none_iff]
  constructor
  · rintro ⟨earlier, name, later, hnames, ⟨hplain, front, dir, back, hdirs, hp, hfile, hfront⟩,
      hearlier⟩
    exact ⟨earlier, name, later, front, dir, back, hnames, hdirs, hp, hplain, hfile, hearlier,
      hfront⟩
  · rintro ⟨earlier, name, later, front, dir, back, hnames, hdirs, hp, hplain, hfile, hearlier,
      hfront⟩
    exact ⟨earlier, name, later, hnames, ⟨hplain, front, dir, back, hdirs, hp, hfile, hfront⟩,
      hearlier⟩

/-! ## Inside the search path -/

/-- A plain name leads to what is called so in the directory. -/
theorem locate_join_of_isFile {dir : Path} (hplain : PlainName name)
    (hfile : t.isFile (dir.join name) = true) :
    t.locate (dir.join name) = .ok (t.nominal dir ++ [name]) := by
  rw [Tree.isFile] at hfile
  split at hfile
  · rename_i content hentry
    obtain ⟨l, hl, -⟩ := Tree.at?_eq_some_iff.mp hentry
    rw [hl, ← Tree.nominal_of_locate hl, Tree.nominal_join hplain.isName]
  · cases hfile

/-- Two trees differ at most in files that do not lie directly in a directory of the search path. -/
structure SameInside (e : Engine) (t t' : Tree) : Prop where
  working : t'.working = t.working
  directories : ∀ l, t'.entry? l = some .directory ↔ t.entry? l = some .directory
  templates : ∀ dir ∈ e.templateDirs, ∀ name, PlainName name →
    t'.entry? (t.nominal dir ++ [name]) = t.entry? (t.nominal dir ++ [name])

theorem sameInside_put {l : Location} (hl : t.entry? l ≠ some .directory)
    (hout : ∀ dir ∈ e.templateDirs, ∀ name, PlainName name → t.nominal dir ++ [name] ≠ l)
    (content : Bytes) : e.SameInside t (t.put l (.file content)) where
  working := rfl
  directories k := by
    by_cases hk : k = l
    · have hroot : l ≠ [] := fun h ↦ hl (by rw [h]; rfl)
      rw [hk, Tree.entry_put_self hroot]
      exact iff_of_false (by simp) hl
    · rw [Tree.entry_put_of_ne hk]
  templates dir hdir name hplain := Tree.entry_put_of_ne (hout dir hdir name hplain) _

namespace SameInside

variable {t' : Tree} (h : e.SameInside t t')
include h

theorem at?_join {dir : Path} (hdir : dir ∈ e.templateDirs) (hplain : PlainName name) :
    t'.at? (dir.join name) = t.at? (dir.join name) := by
  refine Tree.at?_of_directories h.working h.directories ?_
  rw [Tree.nominal_join hplain.isName]
  exact h.templates dir hdir name hplain

theorem findOne?_eq (name : Text) : e.findOne? t' name = e.findOne? t name := by
  rw [findOne?, findOne?]
  split_ifs with hplain
  · refine List.find?_congr fun p hp ↦ ?_
    obtain ⟨dir, hdir, rfl⟩ := List.mem_map.mp hp
    exact Tree.isFile_congr (h.at?_join hdir (isPlainName_iff.mp hplain))
  · rfl

theorem find_eq (names : List Text) : e.find t' names = e.find t names := by
  rw [find, find, funext h.findOne?_eq]

theorem load_eq (hfind : e.find t names = .ok p) : Template.load t' p = Template.load t p := by
  obtain ⟨-, name, -, front, dir, back, -, hdirs, rfl, hplain, hfile, -⟩ :=
    find_eq_ok_iff_first.mp hfind
  have hdir : dir ∈ e.templateDirs := hdirs ▸ List.mem_append_right front List.mem_cons_self
  rw [Template.load, Template.load, Tree.load_congr (h.at?_join hdir hplain) hfile]

theorem compile_eq (r : Rule) : e.compile t' r = e.compile t r := by
  rw [compile, compile, locate, locate, h.find_eq]
  cases hfind : e.find t (e.candidates r.identifier r.direction) with
  | error cause => rfl
  | ok p =>
    show (Template.load t' p).bind _ = (Template.load t p).bind _
    rw [h.load_eq hfind]

end SameInside

/-- **The first template, and none from outside.** What is located for an identifier is a file with
a plain name that is one of the identifier's candidates, in a directory of the search path. No
candidate before it that is plain is a file in any of the directories, and it is no file in those
before its own. Nothing is located if, and only if, no plain candidate is a file in any of the
directories. What is located lies directly in its directory, and compiling a rule, whatever its
name, depends on no file that does not. -/
theorem locate_confined (e : Engine) (t : Tree) (i : Identifier) (d : Direction) :
    (∀ p, e.locate t i d = .ok p ↔ ∃ earlier name later front dir back,
      e.candidates i d = earlier ++ name :: later ∧ e.templateDirs = front ++ dir :: back ∧
      p = dir.join name ∧ PlainName name ∧ t.isFile p = true ∧
      (∀ other ∈ earlier, PlainName other →
        ∀ dir' ∈ e.templateDirs, t.isFile (dir'.join other) = false) ∧
      ∀ dir' ∈ front, t.isFile (dir'.join name) = false) ∧
    (∀ cause, e.locate t i d = .error cause ↔
      cause = .noTemplate (e.candidates i d) ∧
        ∀ name ∈ e.candidates i d, PlainName name →
          ∀ dir ∈ e.templateDirs, t.isFile (dir.join name) = false) ∧
    (∀ p, e.locate t i d = .ok p → ∃ dir ∈ e.templateDirs, ∃ name ∈ e.candidates i d,
      t.locate p = .ok (t.nominal dir ++ [name])) ∧
    ∀ t', e.SameInside t t' → ∀ r, e.compile t' r = e.compile t r := by
  refine ⟨fun p ↦ find_eq_ok_iff_first, fun cause ↦ ?_, fun p hp ↦ ?_, fun t' h ↦ h.compile_eq⟩
  · rw [locate, find_eq_error_iff]
    simp only [findOne?_eq_none_iff]
  · obtain ⟨earlier, name, later, front, dir, back, hnames, hdirs, rfl, hplain, hfile, -⟩ :=
      find_eq_ok_iff_first.mp hp
    exact ⟨dir, hdirs ▸ List.mem_append_right front List.mem_cons_self,
      name, hnames ▸ List.mem_append_right earlier List.mem_cons_self,
      locate_join_of_isFile hplain hfile⟩

/-! ## A name that points outside -/

/-- A file beside the directory of templates. -/
private def outsideTree : Tree where
  entries :=
    [(["secret.incoming"], .file (Utf8.encode "$IPTABLES -A $CHAIN -j ACCEPT\n")),
      (["t"], .directory), (["t", "ssh.incoming"], .file (Utf8.encode "$IPTABLES -F\n"))]

private def insideEngine : Engine := { templateDirs := ["t"] }

/-- The rule's name leads to the file, but nothing is located for it, and it does not matter what
is in the file. -/
theorem locate_confined_outside :
    outsideTree.isFile (Path.join "t" "../secret.incoming") = true ∧
    insideEngine.locate outsideTree (.customName "../secret") .incoming =
      .error (.noTemplate ["../secret.incoming"]) ∧
    insideEngine.locate outsideTree (.customName "ssh") .incoming = .ok "t/ssh.incoming" ∧
    ∀ r, insideEngine.compile (outsideTree.put ["secret.incoming"] (.file [])) r =
      insideEngine.compile outsideTree r := by
  have hinside : insideEngine.SameInside outsideTree
      (outsideTree.put ["secret.incoming"] (.file [])) := by
    refine sameInside_put (by decide +kernel) (fun dir hdir name _ heq ↦ ?_) []
    have hnominal : outsideTree.nominal "t" = ["t".toList] := by decide +kernel
    rw [List.mem_singleton.mp hdir, hnominal] at heq
    exact absurd (congrArg List.length heq) (by simp)
  have hspec := locate_confined insideEngine outsideTree
  refine ⟨by decide +kernel, ?_, ?_, (hspec (.customName "ssh") .incoming).2.2.2 _ hinside⟩
  · refine ((hspec (.customName "../secret") .incoming).2.1 _).mpr ⟨rfl, ?_⟩
    intro name hname hplain
    rw [List.mem_singleton.mp hname] at hplain
    exact absurd rfl hplain.not_hidden
  · refine ((hspec (.customName "ssh") .incoming).1 _).mpr
      ⟨[], _, [], [], "t".toList, [], rfl, rfl, rfl, ?_, by decide +kernel, by simp, by simp⟩
    exact isPlainName_iff.mp (by decide)

end Engine
end PacketFilter
