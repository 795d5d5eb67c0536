import PacketFilter.Proofs.Files.Tree
import PacketFilter.Proofs.Script.RuleDirectory

/-!
# What a file of a rule directory adds to the script

The commands for a directory of rules are one segment for each file, in the order of the file names.
A segment is worked out from the name and the bytes of its file, from what the directory and the
engine are set to and from the templates, never from another file; so a file that is added, removed
or changed adds, removes or changes its own segment only. Within a segment there is one piece for
each address: the template's commands, or one remark where there is no template or no address.

All of this holds once the files are read. A rule's file that is not text is not left out with a
remark. It fails the whole directory, and the segments of all other files are lost with it.
-/

namespace PacketFilter.RuleDirectory

/-! ## Segments -/

/-- The rule that a file of a given name and with given bytes holds. -/
def entryOf? (fileName : Text) (content : Bytes) : Option RuleEntry := do
  let name ← RuleEntry.nameOf? fileName
  let text ← Utf8.decode? content
  return ⟨name, RuleEntry.addressesOf text⟩

/-- The bytes that a file of a given name holds can be used: they are text, or the file is no
rule's and they are not looked at. -/
def Usable (fileName : Text) (content : Bytes) : Prop :=
  RuleEntry.nameOf? fileName = none ∨ ∃ text, Utf8.decode? content = some text

/-- The commands of a rule, given what came of looking for its template. -/
def renderFound (d : RuleDirectory) (e : Engine) (found : Except Error Template) (r : RuleEntry) :
    List Text :=
  match found with
  | .error cause => r.addresses.map fun raw ↦ Remark.ignoring d.direction r.name raw cause.message
  | .ok template => r.addresses.flatMap (e.renderAddress template (d.ruleOf e r))

/-- What a file adds to the script, where `find` looks for templates. -/
def segment (d : RuleDirectory) (e : Engine) (find : List Text → Except Error Template)
    (fileName : Text) (content : Bytes) : List Text :=
  match entryOf? fileName content with
  | some r => d.renderFound e (find (d.candidates e r)) r
  | none => []

/-- What stands in a rule's segment for one of its addresses. -/
inductive Piece (d : RuleDirectory) (e : Engine) (found : Except Error Template) (r : RuleEntry) :
    Option Text → List Text → Prop
  | noTemplate {cause : Error} (raw : Option Text) (h : found = .error cause) :
    Piece d e found r raw [Remark.ignoring d.direction r.name raw cause.message]
  | noAddress {template : Template} {text : Text} {cause : Error} (h : found = .ok template)
    (hcause : Range.parse text = .error cause) :
    Piece d e found r (some text)
      [Remark.ignoring d.direction (e.classify r.name).name (some text) cause.message]
  | commands {template : Template} {raw : Option Text} {c : Template.Context}
    (h : found = .ok template) (hc : e.context? (d.ruleOf e r) raw = some c) :
    Piece d e found r raw (template.render c)

variable {d : RuleDirectory} {e : Engine} {t : Tree} {r : RuleEntry} {fileName : Text}

/-- A rule's commands are put together from one piece for each of its addresses. -/
theorem exists_pieces_renderFound (d : RuleDirectory) (e : Engine)
    (found : Except Error Template) (r : RuleEntry) :
    ∃ pieces, List.Forall₂ (Piece d e found r) r.addresses pieces ∧
      d.renderFound e found r = pieces.flatten := by
  cases found with
  | error cause =>
    refine ⟨r.addresses.map fun raw ↦ [Remark.ignoring d.direction r.name raw cause.message], ?_, ?_⟩
    · rw [List.forall₂_map_right_iff]
      exact List.forall₂_same.mpr fun raw _ ↦ .noTemplate raw rfl
    · rw [← List.flatMap_def, ← List.map_eq_flatMap]
      rfl
  | ok template =>
    refine ⟨r.addresses.map (e.renderAddress template (d.ruleOf e r)), ?_, List.flatMap_def⟩
    rw [List.forall₂_map_right_iff]
    refine List.forall₂_same.mpr fun raw _ ↦ ?_
    cases hc : e.context? (d.ruleOf e r) raw with
    | some c =>
      rw [Engine.renderAddress_of_context hc]
      exact .commands rfl hc
    | none =>
      obtain ⟨text, cause, rfl, hcause, hremark⟩ :=
        Engine.renderAddress_of_no_context (t := template) hc
      rw [hremark]
      exact .noAddress rfl hcause

/-! ## Reading the files -/

theorem readEntry_of_usable (hfile : t.isFile (d.path.join fileName) = true)
    (h : Usable fileName (t.bytesAt (d.path.join fileName))) :
    d.readEntry t fileName = .ok (entryOf? fileName (t.bytesAt (d.path.join fileName))) := by
  rw [readEntry, entryOf?]
  cases hname : RuleEntry.nameOf? fileName with
  | none => rfl
  | some name =>
    obtain hnone | ⟨text, htext⟩ := h
    · rw [hname] at hnone
      cases hnone
    · rw [htext]
      exact bind_eq_ok.mpr ⟨text, Tree.load_of_decode? hfile htext, rfl⟩

theorem readEntry_of_not_usable (hfile : t.isFile (d.path.join fileName) = true)
    (h : ¬ Usable fileName (t.bytesAt (d.path.join fileName))) :
    d.readEntry t fileName = .error (.file (d.path.join fileName) .notUtf8) := by
  rw [Usable, not_or] at h
  obtain ⟨hname, htext⟩ := h
  rw [readEntry]
  cases hrule : RuleEntry.nameOf? fileName with
  | none => exact absurd hrule hname
  | some name =>
    have hbytes : Utf8.decode? (t.bytesAt (d.path.join fileName)) = none :=
      Option.eq_none_iff_forall_ne_some.mpr fun text h ↦ htext ⟨text, h⟩
    exact bind_eq_error.mpr (Or.inl (Tree.load_of_decode?_eq_none hfile hbytes))

section Names

variable {names : List Text}

theorem render_of_usable (hnames : t.fileNames d.path = .ok names)
    (hfiles : ∀ n ∈ names, t.isFile (d.path.join n) = true)
    (h : ∀ n ∈ names, Usable n (t.bytesAt (d.path.join n))) :
    d.render e t = .ok (names.flatMap fun n ↦
      d.segment e (e.findTemplate t) n (t.bytesAt (d.path.join n))) := by
  have hread : names.mapM (d.readEntry t) =
      .ok (names.map fun n ↦ entryOf? n (t.bytesAt (d.path.join n))) := by
    refine mapM_eq_ok_iff.mpr (List.forall₂_map_right_iff.mpr (List.forall₂_same.mpr ?_))
    intro n hn
    exact readEntry_of_usable (hfiles n hn) (h n hn)
  have hentries : d.entries t =
      .ok (names.filterMap fun n ↦ entryOf? n (t.bytesAt (d.path.join n))) := by
    refine bind_eq_ok.mpr ⟨names, hnames, bind_eq_ok.mpr ⟨_, hread, ?_⟩⟩
    rw [List.filterMap_map]
    rfl
  refine bind_eq_ok.mpr ⟨_, hentries, congrArg Except.ok ?_⟩
  rw [List.filterMap_eq_flatMap_toList, List.flatMap_assoc]
  refine List.flatMap_congr fun n _ ↦ ?_
  rw [segment]
  cases entryOf? n (t.bytesAt (d.path.join n)) with
  | none => rfl
  | some r => exact List.flatMap_singleton _ r

theorem usable_of_render (hnames : t.fileNames d.path = .ok names)
    (hfiles : ∀ n ∈ names, t.isFile (d.path.join n) = true) {lines : List Text}
    (h : d.render e t = .ok lines) : ∀ n ∈ names, Usable n (t.bytesAt (d.path.join n)) := by
  obtain ⟨entries, hentries, -⟩ := bind_eq_ok.mp h
  obtain ⟨_, hlisted, hentries⟩ := bind_eq_ok.mp hentries
  obtain ⟨found, hfound, -⟩ := bind_eq_ok.mp hentries
  rw [hnames] at hlisted
  rw [← Except.ok.inj hlisted] at hfound
  have hread : ∀ n ∈ names, ∃ entry, d.readEntry t n = .ok entry :=
    ((List.forall₂_and_left _ _).mp
      ((mapM_eq_ok_iff.mp hfound).imp fun _ entry h ↦ ⟨⟨entry, h⟩, h⟩)).1
  intro n hn
  by_contra husable
  obtain ⟨entry, hentry⟩ := hread n hn
  rw [readEntry_of_not_usable (hfiles n hn) husable] at hentry
  cases hentry

theorem render_eq_error_iff_read (hnames : t.fileNames d.path = .ok names) {cause : Error} :
    d.render e t = .error cause ↔ names.mapM (d.readEntry t) = .error cause := by
  constructor
  · intro h
    obtain h | ⟨_, -, h⟩ := bind_eq_error.mp h
    · obtain h | ⟨_, hlisted, h⟩ := bind_eq_error.mp h
      · rw [hnames] at h
        cases h
      · rw [hnames] at hlisted
        rw [Except.ok.inj hlisted]
        obtain h | ⟨_, -, h⟩ := bind_eq_error.mp h
        · exact h
        · cases h
    · cases h
  · intro h
    refine bind_eq_error.mpr (Or.inl (bind_eq_error.mpr (Or.inr ⟨names, hnames, ?_⟩)))
    exact bind_eq_error.mpr (Or.inl h)

theorem render_eq_error_iff (hnames : t.fileNames d.path = .ok names)
    (hfiles : ∀ n ∈ names, t.isFile (d.path.join n) = true) {cause : Error} :
    d.render e t = .error cause ↔ ∃ front n back, names = front ++ n :: back ∧
      (∀ m ∈ front, Usable m (t.bytesAt (d.path.join m))) ∧
      ¬ Usable n (t.bytesAt (d.path.join n)) ∧ cause = .file (d.path.join n) .notUtf8 := by
  rw [render_eq_error_iff_read hnames, mapM_eq_error_iff]
  refine exists_congr fun front ↦ exists_congr fun n ↦ exists_congr fun back ↦
    and_congr_right fun hsplit ↦ ?_
  have hfront : ∀ m ∈ front, t.isFile (d.path.join m) = true := fun m hm ↦
    hfiles m (hsplit ▸ List.mem_append_left _ hm)
  have hfile : t.isFile (d.path.join n) = true :=
    hfiles n (hsplit ▸ List.mem_append_right _ List.mem_cons_self)
  refine and_congr (forall₂_congr fun m hm ↦ ?_) ?_
  · by_cases husable : Usable m (t.bytesAt (d.path.join m))
    · exact iff_of_true ⟨_, readEntry_of_usable (hfront m hm) husable⟩ husable
    · rw [readEntry_of_not_usable (hfront m hm) husable]
      refine iff_of_false ?_ husable
      rintro ⟨_, h⟩
      cases h
  · by_cases husable : Usable n (t.bytesAt (d.path.join n))
    · rw [readEntry_of_usable hfile husable]
      refine iff_of_false ?_ fun h ↦ h.1 husable
      intro h
      cases h
    · rw [readEntry_of_not_usable hfile husable, and_iff_right husable, Except.error.injEq, eq_comm]

end Names

/-- **A directory is its segments, if its rules are text.** A directory of rules that is there has
files in the order of their names. It is rendered exactly if each of them can be used, and then to
their segments, one after another; otherwise the failure is that of the first file that is not text.
A segment has one piece for each address of its rule. -/
theorem render_eq_segments_iff (ht : t.Ordered) (hdirectory : t.isDirectory d.path = true) :
    ∃ names, t.fileNames d.path = .ok names ∧ names.Pairwise (Text.compare · · = .lt) ∧
      ((∃ lines, d.render e t = .ok lines) ↔
        ∀ n ∈ names, Usable n (t.bytesAt (d.path.join n))) ∧
      (∀ lines, d.render e t = .ok lines → lines = names.flatMap fun n ↦
        d.segment e (e.findTemplate t) n (t.bytesAt (d.path.join n))) ∧
      (∀ cause, d.render e t = .error cause ↔ ∃ front n back, names = front ++ n :: back ∧
        (∀ m ∈ front, Usable m (t.bytesAt (d.path.join m))) ∧
        ¬ Usable n (t.bytesAt (d.path.join n)) ∧ cause = .file (d.path.join n) .notUtf8) ∧
      ∀ find n content r, entryOf? n content = some r →
        ∃ pieces, List.Forall₂ (Piece d e (find (d.candidates e r)) r) r.addresses pieces ∧
          d.segment e find n content = pieces.flatten := by
  obtain ⟨names, hnames, horder, hfiles⟩ := Tree.fileNames_of_isDirectory ht hdirectory
  refine ⟨names, hnames, horder, ⟨?_, ?_⟩, ?_, fun _ ↦ render_eq_error_iff hnames hfiles, ?_⟩
  · rintro ⟨lines, hrender⟩
    exact usable_of_render hnames hfiles hrender
  · exact fun husable ↦ ⟨_, render_of_usable hnames hfiles husable⟩
  · intro lines hrender
    have hsegments := render_of_usable (e := e) hnames hfiles (usable_of_render hnames hfiles hrender)
    rw [hrender] at hsegments
    exact Except.ok.inj hsegments
  · intro find n content r hr
    obtain ⟨pieces, hpieces, hflatten⟩ :=
      exists_pieces_renderFound d e (find (d.candidates e r)) r
    refine ⟨pieces, hpieces, ?_⟩
    rw [segment, hr]
    exact hflatten

instance (fileName : Text) (content : Bytes) : Decidable (Usable fileName content) :=
  decidable_of_iff (RuleEntry.nameOf? fileName = none ∨ (Utf8.decode? content).isSome = true)
    (or_congr Iff.rfl Option.isSome_iff_exists)

/-! Two directories: in one, what is not text is no rule's; in the other it is. -/

private def shellEngine : Engine where
  templateDirs := ["t".toList]
  services := .ofText "ssh 22/tcp"

private def inDirectory : RuleDirectory := { path := "in", direction := .incoming }

private def withFiles (files : List (Location × Entry)) : Tree where
  entries := (["in".toList], .directory) :: files ++ [(["t".toList], .directory),
    (["t".toList, "accept.incoming".toList],
      .file (Utf8.encode "$IPTABLES -A $CHAIN --dport $PORT $SRC -j ACCEPT\n"))]

private def mixedTree : Tree := withFiles
  [(["in".toList, "10-ssh".toList], .file (Utf8.encode "10.0.0.1\nnowhere\n")),
    (["in".toList, "README".toList], .file [0xFF])]

private def spoiltTree : Tree := withFiles
  [(["in".toList, "10-ssh".toList], .file [0xFF]),
    (["in".toList, "20-ssh".toList], .file (Utf8.encode "10.0.0.1\n"))]

theorem render_eq_segments_iff_mixed :
    mixedTree.Ordered ∧ mixedTree.isDirectory inDirectory.path = true ∧
    inDirectory.render shellEngine mixedTree =
      .ok ["/sbin/iptables -A INPUT --dport 22 --src 10.0.0.1/32 -j ACCEPT",
        "# Ignoring incoming rule ssh to nowhere because Malformed address: \"nowhere\""] := by
  have hordered : mixedTree.Ordered := by decide +kernel
  have hdirectory : mixedTree.isDirectory inDirectory.path = true := by decide +kernel
  refine ⟨hordered, hdirectory, ?_⟩
  obtain ⟨names, hnames, -, hiff, hlines, -⟩ :=
    render_eq_segments_iff (e := shellEngine) hordered hdirectory
  have hlisted : mixedTree.fileNames inDirectory.path = .ok ["10-ssh", "README"] := by
    decide +kernel
  rw [hlisted] at hnames
  cases hnames
  obtain ⟨lines, hrender⟩ := hiff.mpr (by decide +kernel)
  rw [hrender, hlines lines hrender]
  decide +kernel

/-- One rule's file that is not text, and the commands of the other rule are lost. -/
theorem render_fails_on_bytes :
    inDirectory.segment shellEngine (shellEngine.findTemplate spoiltTree) "20-ssh"
      (spoiltTree.bytesAt "in/20-ssh") =
        ["/sbin/iptables -A INPUT --dport 22 --src 10.0.0.1/32 -j ACCEPT"] ∧
    inDirectory.render shellEngine spoiltTree = .error (.file "in/10-ssh" .notUtf8) := by
  decide +kernel

end PacketFilter.RuleDirectory
