import PacketFilter.Files.Tree
import PacketFilter.Proofs.Except
import PacketFilter.Proofs.Files.Path
import PacketFilter.Proofs.Sorted
import PacketFilter.Proofs.Text.Utf8

/-!
# Laws of directory trees

A path leads to a location by steps from name to name, each of which looks at the tree. Without
links there is only one location that it can lead to, and that is read off its names alone: the
*nominal* one. So a path that leads anywhere means the same in every tree with the same working
directory, and two spellings of a path mean the same if their names do.

A tree is a map from locations to entries while its locations ascend. Then the names in a directory
are listed in their order.
-/

namespace PacketFilter

/-! ## The order of locations -/

namespace Location

private theorem compare_eq_compareLex : compare = List.compareLex Text.compare := by
  funext s t
  induction s generalizing t with
  | nil => cases t <;> rfl
  | cons a s ih =>
    cases t with
    | nil => rfl
    | cons b t =>
      rw [compare, List.compareLex_cons_cons, ih]

instance : Std.TransCmp compare := by
  rw [compare_eq_compareLex]
  infer_instance

instance : Std.LawfulEqCmp compare := by
  rw [compare_eq_compareLex]
  infer_instance

@[simp] theorem compare_concat (dir : Location) (a b : Text) :
    compare (dir ++ [a]) (dir ++ [b]) = Text.compare a b := by
  induction dir with
  | nil =>
    show (Text.compare a b).then .eq = _
    cases Text.compare a b <;> rfl
  | cons c dir ih =>
    have hself : Text.compare c c = .eq := Std.ReflCmp.compare_self
    show (Text.compare c c).then (compare (dir ++ [a]) (dir ++ [b])) = _
    rw [hself, ih]
    rfl

end Location

namespace Tree

variable {t : Tree} {p dir : Path} {l : Location} {name : Text}

/-! ## What a path leads to -/

theorem eq_of_step {l' : Location} (h : t.step l name = .ok l') :
    l' = if name = [] ∨ name = ['.'] then l
      else if name = ['.', '.'] then l.dropLast else l ++ [name] := by
  rw [step] at h
  split at h
  · cases h
  · cases h
  · split_ifs at h ⊢ <;> cases h <;> rfl

/-- A path that leads anywhere leads to what it names. -/
theorem nominal_of_locate (h : t.locate p = .ok l) : t.nominal p = l := by
  have hfold : ∀ (pieces : List Text) (start l : Location),
      pieces.foldlM (step t) start = .ok l →
      (pieces.filter fun n ↦ n ≠ [] ∧ n ≠ ['.']).foldl
        (fun l name ↦ if name = ['.', '.'] then l.dropLast else l ++ [name]) start = l := by
    intro pieces
    induction pieces with
    | nil =>
      intro start l h
      cases h
      rfl
    | cons piece pieces ih =>
      intro start l h
      rw [List.foldlM_cons] at h
      obtain ⟨next, hnext, h⟩ := bind_eq_ok.mp h
      have hstep := eq_of_step hnext
      by_cases hskip : piece = [] ∨ piece = ['.']
      · rw [if_pos hskip] at hstep
        rw [List.filter_cons_of_neg (by simpa using fun hne ↦ hskip.resolve_left hne),
          ← hstep]
        exact ih next l h
      · rw [if_neg hskip] at hstep
        rw [List.filter_cons_of_pos (by simpa [not_or] using hskip), List.foldl_cons, ← hstep]
        exact ih next l h
  rw [locate] at h
  split at h
  · cases h
  split at h
  · cases h
  split at h
  · cases h
  · exact hfold _ _ _ h

theorem nominal_eq_of_names {t' : Tree} {q : Path} (hworking : t'.working = t.working)
    (hnames : Path.names p = Path.names q) (habsolute : Path.isAbsolute p = Path.isAbsolute q) :
    t'.nominal p = t.nominal q := by
  rw [nominal, nominal, hnames, habsolute, hworking]

theorem nominal_join (h : Path.IsName name) :
    t.nominal (dir.join name) = t.nominal dir ++ [name] := by
  rw [nominal, Path.names_join h, Path.isAbsolute_join h, List.foldl_append]
  exact if_neg h.ne_above

/-- A path with a file name names what is called so in the directory that its parent names. -/
theorem exists_parent_nominal (h : Path.fileName? p = some name) :
    ∃ parent, Path.parent? p = some parent ∧ t.nominal p = t.nominal parent ++ [name] := by
  obtain ⟨parent, hparent, hname, hnames, habsolute⟩ := Path.exists_parent_of_fileName? h
  refine ⟨parent, hparent, ?_⟩
  rw [nominal, hnames, habsolute, List.foldl_append]
  exact if_neg hname.ne_above

/-! ## Files and the names of files -/

/-- The bytes of a file; none if there is no file. -/
def bytesAt (t : Tree) (p : Path) : Bytes :=
  match t.read p with
  | .ok content => content
  | .error _ => []

theorem at?_eq_some_iff {e : Entry} :
    t.at? p = some e ↔ ∃ l, t.locate p = .ok l ∧ t.entry? l = some e := by
  rw [at?]
  constructor
  · intro h
    split at h
    · rename_i l hl
      exact ⟨l, hl, h⟩
    · cases h
  · rintro ⟨l, hl, hentry⟩
    rw [hl]
    exact hentry

theorem read_eq_ok_iff {content : Bytes} :
    t.read p = .ok content ↔ t.at? p = some (.file content) := by
  rw [at?_eq_some_iff, read, bind_eq_ok]
  refine exists_congr fun l ↦ and_congr_right fun _ ↦ ?_
  cases t.entry? l with
  | none => simp
  | some e => cases e <;> simp

theorem read_of_isFile (h : t.isFile p = true) : t.read p = .ok (t.bytesAt p) := by
  rw [isFile] at h
  split at h
  · rename_i content hfile
    have hread : t.read p = .ok content := read_eq_ok_iff.mpr hfile
    rw [bytesAt, hread]
  · cases h

theorem load_of_decode? {text : Text} (h : t.isFile p = true)
    (htext : Utf8.decode? (t.bytesAt p) = some text) : t.load p = .ok text := by
  have hread : t.readText p = .ok text :=
    bind_eq_ok.mpr ⟨t.bytesAt p, read_of_isFile h, by rw [htext]⟩
  rw [load, hread]
  rfl

theorem load_of_decode?_eq_none (h : t.isFile p = true)
    (htext : Utf8.decode? (t.bytesAt p) = none) : t.load p = .error (.file p .notUtf8) := by
  have hread : t.readText p = .error .notUtf8 :=
    bind_eq_error.mpr (Or.inr ⟨t.bytesAt p, read_of_isFile h, by rw [htext]⟩)
  rw [load, hread]
  rfl

/-- A tree is a map from locations to what is there. -/
def Ordered (t : Tree) : Prop := Sorted.Ascending Location.compare t.entries

instance (t : Tree) : Decidable t.Ordered :=
  inferInstanceAs (Decidable (Sorted.Ascending Location.compare t.entries))

theorem eq_concat_of_nameIn? {dir : Location} (h : nameIn? dir l = some name) :
    l = dir ++ [name] := by
  rw [nameIn?] at h
  split_ifs at h with hdir
  rw [← hdir]
  exact (List.dropLast_append_getLast? name h).symm

theorem list_of_isDirectory (h : t.isDirectory p = true) :
    ∃ dir, t.list p =
      .ok (t.entries.filterMap fun (l, e) ↦ (nameIn? dir l).map fun name ↦ (name, e)) := by
  obtain ⟨dir, hdir, hentry⟩ := at?_eq_some_iff.mp (of_decide_eq_true h)
  exact ⟨dir, bind_eq_ok.mpr ⟨dir, hdir, by rw [hentry]⟩⟩

/-- The names of the files in a directory are in order, and each leads to a file. -/
theorem fileNames_of_isDirectory (ht : t.Ordered) (h : t.isDirectory p = true) :
    ∃ names, t.fileNames p = .ok names ∧ names.Pairwise (Text.compare · · = .lt) ∧
      ∀ name ∈ names, t.isFile (p.join name) = true := by
  obtain ⟨dir, hlist⟩ := list_of_isDirectory h
  rw [fileNames, hlist]
  refine ⟨_, rfl, ?_, fun name hname ↦ (List.mem_filter.mp hname).2⟩
  refine List.Pairwise.filter _ (List.pairwise_map.mpr (List.Pairwise.filterMap _ ?_ ht))
  intro x y hlt found hfound found' hfound'
  obtain ⟨name, hin, rfl⟩ := Option.map_eq_some_iff.mp hfound
  obtain ⟨name', hin', rfl⟩ := Option.map_eq_some_iff.mp hfound'
  rw [eq_concat_of_nameIn? hin, eq_concat_of_nameIn? hin', Location.compare_concat] at hlt
  exact hlt

/-! ## Trees with the same directories -/

section Directories

variable {t' : Tree}

/-- A path goes through directories only, so it is the same one in every tree that has them. -/
theorem locate_of_directories (hworking : t'.working = t.working)
    (hdirectories : ∀ k, t.entry? k = some .directory → t'.entry? k = some .directory)
    (h : t.locate p = .ok l) : t'.locate p = .ok l := by
  have hstep : ∀ {start next : Location} {name : Text}, t.step start name = .ok next →
      t'.step start name = .ok next := by
    intro start next name h
    rw [step] at h
    split at h
    · cases h
    · cases h
    · next hdirectory => rwa [step, hdirectories start hdirectory]
  have hfold : ∀ (pieces : List Text) (start : Location),
      pieces.foldlM (step t) start = .ok l → pieces.foldlM (step t') start = .ok l := by
    intro pieces
    induction pieces with
    | nil => exact fun _ h ↦ h
    | cons piece pieces ih =>
      intro start h
      rw [List.foldlM_cons] at h ⊢
      obtain ⟨next, hnext, h⟩ := bind_eq_ok.mp h
      exact bind_eq_ok.mpr ⟨next, hstep hnext, ih next h⟩
  rw [locate] at h ⊢
  split at h
  · cases h
  split at h
  · cases h
  split at h
  · cases h
  · next hnul hnil hlong =>
    rw [if_neg hnul, if_neg hnil, if_neg hlong, hworking]
    exact hfold _ _ h

variable (hworking : t'.working = t.working)
  (hdirectories : ∀ k, t'.entry? k = some .directory ↔ t.entry? k = some .directory)
include hworking hdirectories

theorem locate_eq_ok_iff_of_directories : t'.locate p = .ok l ↔ t.locate p = .ok l :=
  ⟨locate_of_directories hworking.symm fun k ↦ (hdirectories k).mp,
    locate_of_directories hworking fun k ↦ (hdirectories k).mpr⟩

/-- Besides the directories, only the location that a path names matters to it. -/
theorem at?_of_directories (h : t'.entry? (t.nominal p) = t.entry? (t.nominal p)) :
    t'.at? p = t.at? p := by
  refine Option.ext fun e ↦ ?_
  simp only [at?_eq_some_iff, locate_eq_ok_iff_of_directories hworking hdirectories]
  refine exists_congr fun l ↦ and_congr_right fun hl ↦ ?_
  rw [← nominal_of_locate hl, h]

end Directories

theorem isFile_congr {t' : Tree} (h : t'.at? p = t.at? p) : t'.isFile p = t.isFile p := by
  rw [isFile, isFile, h]

theorem load_congr {t' : Tree} (h : t'.at? p = t.at? p) (hfile : t.isFile p = true) :
    t'.load p = t.load p := by
  have hread : t'.read p = t.read p := by
    rw [read_of_isFile hfile, read_eq_ok_iff, h, ← read_eq_ok_iff]
    exact read_of_isFile hfile
  rw [load, load, readText, readText, hread]

/-! ## Writing -/

theorem entry_put_self (hl : l ≠ []) (e : Entry) : Tree.entry? (t.put l e) l = some e := by
  unfold entry?
  rw [if_neg hl]
  exact Sorted.find?_insert_self t.entries l e

theorem entry_put_of_ne {l' : Location} (h : l' ≠ l) (e : Entry) :
    Tree.entry? (t.put l e) l' = t.entry? l' := by
  unfold entry?
  split_ifs
  · rfl
  · exact Sorted.find?_update_of_ne t.entries h _

/-- A path goes through directories only, so it is the same one after a change elsewhere. -/
theorem locate_put {l' : Location} (hl : t.entry? l ≠ some .directory) (h : t.locate p = .ok l')
    (e : Entry) : (t.put l e).locate p = .ok l' := by
  have hworking : (t.put l e).working = t.working := rfl
  refine locate_of_directories hworking (fun k hk ↦ ?_) h
  have hne : k ≠ l := fun heq ↦ hl (heq ▸ hk)
  rw [entry_put_of_ne hne, hk]

theorem write_eq_ok_iff {t' : Tree} {content : Bytes} :
    t.write p content = .ok t' ↔ ∃ l, t.locate p = .ok l ∧ t.entry? l ≠ some .directory ∧
      p.getLast? ≠ some '/' ∧ t' = t.put l (.file content) := by
  have hslash : p.getLast? ≠ some '/' → p.withoutSlash = p := by
    intro h
    obtain rfl | ⟨q, c, rfl⟩ := List.eq_nil_or_concat' p
    · rfl
    · have hc : c ≠ '/' := by simpa using h
      simp [Path.withoutSlash, hc]
  rw [write, bind_eq_ok]
  constructor
  · rintro ⟨l, hl, h⟩
    split_ifs at h with hfails
    rw [not_or] at hfails
    rw [hslash hfails.2] at hl
    cases h
    exact ⟨l, hl, hfails.1, hfails.2, rfl⟩
  · rintro ⟨l, hl, hdirectory, hlast, rfl⟩
    refine ⟨l, by rwa [hslash hlast], ?_⟩
    rw [if_neg (not_or.mpr ⟨hdirectory, hlast⟩)]

/-- **What is written is read back.** -/
theorem read_of_write {t' : Tree} {content : Bytes} (h : t.write p content = .ok t') :
    t'.read p = .ok content := by
  obtain ⟨l, hl, hdirectory, -, rfl⟩ := write_eq_ok_iff.mp h
  have hne : l ≠ [] := by
    rintro rfl
    exact hdirectory rfl
  refine bind_eq_ok.mpr ⟨l, locate_put hdirectory hl _, ?_⟩
  rw [entry_put_self hne]

theorem readText_of_write {t' : Tree} {text : Text} (h : t.write p (Utf8.encode text) = .ok t') :
    t'.readText p = .ok text :=
  bind_eq_ok.mpr ⟨Utf8.encode text, read_of_write h, by rw [Utf8.decode?_encode]⟩

end Tree
end PacketFilter
