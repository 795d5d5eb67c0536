import PacketFilter.Proofs.Script.Remark
import PacketFilter.Proofs.Template.Segments
import PacketFilter.Script.Firewall

/-!
# What the rows of a script are

The script is run by a shell, row by row. Every line the program builds for it is one of five kinds:
a line of the fixed block at the start, a line of a banner, a command rendered from a template, a
remark, or the line that runs further scripts. The question is whether every *row* is.

Commands are never broken up: a template's lines hold no line feed, and squeezing turns those of a
value into spaces. The fixed lines are what they are, and banners repeat the base directory only. So
everything comes down to remarks. A remark that repeats a file name with a line feed has a further
row, which is the rest of that name, and the shell runs it.

`rows_script_accounted_iff` says that this is the whole of it: the rows of a script are accounted for
exactly if the further rows of its remarks are, and there are none if no file name and no directory
of templates holds a line feed.
-/

namespace PacketFilter

open Text

/-! ## Commands -/

namespace Template

theorem Line.not_mem_substitute {l : Line} (h : '\n' ∉ l.raw) (c : Context)
    (family : Option Family) (port : Option Port) : '\n' ∉ l.substitute c family port := by
  rw [substitute]
  split
  · exact not_mem_squeeze _
  · exact fun hmem ↦ h (mem_of_mem_trimEnd hmem)

theorem not_mem_render {t : Template} (ht : ∀ l ∈ t.lines, '\n' ∉ l.raw) (c : Context) :
    ∀ command ∈ t.render c, '\n' ∉ command := by
  intro command hmem
  rw [render] at hmem
  split at hmem
  · obtain ⟨l, hl, hcommand⟩ := List.mem_flatMap.mp hmem
    obtain ⟨family, -, hcommand⟩ := List.mem_flatMap.mp hcommand
    obtain ⟨port, -, rfl⟩ := List.mem_map.mp hcommand
    exact Line.not_mem_substitute (ht l (List.mem_filter.mp (List.mem_filter.mp hl).1).1) _ _ _
  · obtain ⟨l, hl, rfl⟩ := List.mem_map.mp hmem
    exact fun h ↦ ht l (List.mem_filter.mp hl).1 (mem_of_mem_trimEnd h)

theorem not_mem_raw_of_load {t : Tree} {p : Path} {template : Template}
    (h : Template.load t p = .ok template) : ∀ l ∈ template.lines, '\n' ∉ l.raw := by
  obtain ⟨content, -, rfl⟩ := load_eq_ok_iff.mp h
  intro l hl
  obtain ⟨raw, hraw, rfl⟩ := List.mem_map.mp hl
  exact not_mem_of_mem_lines hraw

end Template

namespace Firewall

variable {e : Engine} {t : Tree} {base : Path} {l : Text}

/-! ## Kinds of rows -/

/-- A command of a template on the search path, for a rule in its direction's chain. -/
def Rendered (e : Engine) (t : Tree) (l : Text) : Prop :=
  ∃ names template, e.findTemplate t names = .ok template ∧
    ∃ rule : Rule, rule.chain = none ∧ rule.device = none ∧ rule.ports = none ∧
      l ∈ (e.compileWith rule template).commands

/-- The titles of the sections. -/
def titles (base : Path) : List Text :=
  ["whitelist" ++ " from " ++ base.join "whitelist.d",
    "blacklist" ++ " from " ++ base.join "blacklist.d",
    "Run rules from " ++ base.join "local.d" ++ " using run-parts"] ++
  Direction.all.map fun d ↦ d.name ++ " rules from " ++ base.join (d.name ++ ".d")

/-- The rows that a script should consist of. -/
inductive Accounted (e : Engine) (t : Tree) (base : Path) : Text → Prop
  | fixed {row : Text} (h : row ∈ header ++ flush ++ permitLoopback) : Accounted e t base row
  | banner {row title : Text} (ht : title ∈ titles base) (h : row ∈ Remark.banner title) :
      Accounted e t base row
  | command {row : Text} (h : Rendered e t row) : Accounted e t base row
  | remark {row : Text} (h : "# Ignoring ".toList <+: row) : Accounted e t base row
  | runParts : Accounted e t base ("run-parts " ++ base.join "local.d")

/-- The directories whose file names are repeated in the script. -/
def directories (base : Path) : List Path :=
  [base.join "whitelist.d", base.join "blacklist.d"] ++
    Direction.all.map fun d ↦ base.join (d.name ++ ".d")

/-- No name that a remark may repeat holds a line feed. -/
structure Tame (e : Engine) (t : Tree) (base : Path) : Prop where
  fileNames : ∀ p ∈ directories base, ∀ names, t.fileNames p = .ok names →
    ∀ name ∈ names, '\n' ∉ name
  templateDirs : ∀ p ∈ e.templateDirs, '\n' ∉ p

/-- What is known of every line that the script is put together from. -/
structure Kept (e : Engine) (t : Tree) (base : Path) (l : Text) : Prop where
  first : ∃ row rest, rows l = row :: rest ∧ Accounted e t base row
  broken : '\n' ∈ l → ∃ d name target reason, l = Remark.ignoring d name target reason
  tame : e.services.Sound → Tame e t base → '\n' ∉ l

namespace Kept

theorem of_accounted (h : Accounted e t base l) (hl : '\n' ∉ l) : Kept e t base l where
  first := ⟨l, [], rows_eq_singleton hl, h⟩
  broken hmem := absurd hmem hl
  tame _ _ := hl

theorem of_remark {d : Direction} {name : Text} {target : Option Text} {reason : Text}
    (h : e.services.Sound → Tame e t base → '\n' ∉ name ∧
      (∀ address, target = some address → '\n' ∉ address) ∧ '\n' ∉ reason) :
    Kept e t base (Remark.ignoring d name target reason) where
  first := by
    obtain ⟨row, rest, hrows, hstart⟩ := Remark.rows_ignoring d name target reason
    exact ⟨row, rest, hrows, .remark hstart⟩
  broken _ := ⟨d, name, target, reason, rfl⟩
  tame he ht hmem := by
    obtain ⟨hname, htarget, hreason⟩ := h he ht
    rcases Remark.mem_ignoring_iff.mp hmem with hn | ⟨address, ha, hmem⟩ | hr
    · exact hname hn
    · exact htarget address ha hmem
    · exact hreason hr

end Kept

/-! ## One address -/

theorem kept_renderAddress {names : List Text} {template : Template}
    (hfound : e.findTemplate t names = .ok template) {rule : Rule} (hchain : rule.chain = none)
    (hdevice : rule.device = none) (hports : rule.ports = none) {raw : Option Text}
    (hname : e.services.Sound → Tame e t base → '\n' ∉ rule.identifier.name)
    (hraw : Tame e t base → ∀ text, raw = some text → '\n' ∉ text) :
    ∀ l ∈ e.renderAddress template rule raw, Kept e t base l := by
  obtain ⟨p, -, hload⟩ := Engine.exists_of_findTemplate hfound
  have hlines := Template.not_mem_raw_of_load hload
  have hcommand : ∀ rule : Rule, rule.chain = none → rule.device = none → rule.ports = none →
      ∀ l ∈ (e.compileWith rule template).commands, Kept e t base l := by
    intro rule hchain hdevice hports l hl
    exact .of_accounted (.command ⟨names, template, hfound, rule, hchain, hdevice, hports, hl⟩)
      (Template.not_mem_render hlines _ l hl)
  cases raw with
  | none => exact hcommand rule hchain hdevice hports
  | some text =>
    rw [Engine.renderAddress]
    cases hp : Range.parse text with
    | ok range => exact hcommand _ hchain hdevice hports
    | error cause =>
      intro l hl
      rw [List.mem_singleton.mp hl]
      exact .of_remark fun he ht ↦ ⟨hname he ht, hraw ht, Range.not_mem_message hp⟩

/-! ## Directories of addresses -/

theorem kept_addressDirectory {d : AddressDirectory} (hpath : d.path ∈ directories base)
    (htemplate : '\n' ∉ d.template) {ls : List Text} (h : d.render e t = .ok ls) :
    ∀ l ∈ ls, Kept e t base l := by
  obtain ⟨addresses, haddresses, h⟩ := bind_eq_ok.mp h
  have htame : Tame e t base → ∀ a ∈ addresses, '\n' ∉ a := by
    intro ht a ha hmem
    obtain ⟨names, hnames, name, hname, rfl⟩ := AddressDirectory.mem_addresses haddresses ha
    exact ht.fileNames _ hpath names hnames name hname (AddressDirectory.mem_of_mem_addressOf hmem)
  cases hfound : e.findTemplate t [Direction.incoming.templateName d.template] with
  | error cause =>
    rw [hfound] at h
    cases h
    intro l hl
    obtain ⟨a, ha, rfl⟩ := List.mem_map.mp hl
    refine .of_remark fun _ ht ↦ ⟨htemplate, ?_, ?_⟩
    · rintro address heq
      cases heq
      exact htame ht a ha
    · refine Engine.not_mem_message_findTemplate ht.templateDirs (fun name hname ↦ ?_) hfound
      rw [List.mem_singleton.mp hname]
      exact Direction.not_mem_templateName htemplate _
  | ok template =>
    rw [hfound] at h
    cases h
    intro l hl
    obtain ⟨a, ha, hl⟩ := List.mem_flatMap.mp hl
    refine kept_renderAddress hfound rfl rfl rfl
      (fun he _ ↦ Engine.not_mem_classify_name he htemplate) ?_ l hl
    rintro ht text heq
    cases heq
    exact htame ht a ha

/-! ## Directories of rules -/

theorem kept_ruleDirectory {d : RuleDirectory} (hpath : d.path ∈ directories base)
    (hchain : d.chain = none) (hdefault : '\n' ∉ d.defaultTemplate) {ls : List Text}
    (h : d.render e t = .ok ls) : ∀ l ∈ ls, Kept e t base l := by
  obtain ⟨entries, hentries, h⟩ := bind_eq_ok.mp h
  cases h
  intro l hl
  obtain ⟨r, hr, hl⟩ := List.mem_flatMap.mp hl
  obtain ⟨fileNames, fileName, content, hfileNames, hfileName, hname, -, haddresses⟩ :=
    RuleDirectory.mem_entries hentries hr
  have htame : Tame e t base → '\n' ∉ r.name := fun ht hmem ↦
    ht.fileNames _ hpath fileNames hfileNames fileName hfileName
      (RuleEntry.mem_of_mem_nameOf? hname hmem)
  have haddress : ∀ text, some text ∈ r.addresses → '\n' ∉ text := by
    rw [haddresses]
    exact fun text ↦ RuleEntry.not_mem_of_mem_addressesOf
  cases hfound : e.findTemplate t (d.candidates e r) with
  | error cause =>
    rw [RuleDirectory.renderEntry, hfound] at hl
    obtain ⟨raw, hraw, rfl⟩ := List.mem_map.mp hl
    refine .of_remark fun _ ht ↦ ⟨htame ht, ?_, ?_⟩
    · rintro address rfl
      exact haddress address hraw
    · refine Engine.not_mem_message_findTemplate ht.templateDirs (fun name hname ↦ ?_) hfound
      have hcandidates : name = d.direction.templateName r.name ∨
          name = d.direction.templateName d.defaultTemplate := by
        rw [RuleDirectory.candidates] at hname
        split at hname
        · simpa using hname
        · exact Or.inl (List.mem_singleton.mp hname)
      rcases hcandidates with rfl | rfl
      · exact Direction.not_mem_templateName (htame ht) _
      · exact Direction.not_mem_templateName hdefault _
  | ok template =>
    rw [RuleDirectory.renderEntry_of_found hfound] at hl
    obtain ⟨raw, hraw, hl⟩ := List.mem_flatMap.mp hl
    refine kept_renderAddress hfound hchain rfl rfl
      (fun he ht ↦ Engine.not_mem_classify_name he (htame ht)) ?_ l hl
    rintro _ text rfl
    exact haddress text hraw

/-! ## Sections -/

private theorem mem_all (d : Direction) : d ∈ Direction.all := by cases d <;> decide

private theorem not_mem_of_mem_titles (hbase : '\n' ∉ base) :
    ∀ title ∈ titles base, '\n' ∉ title := by
  have hjoin : ∀ name : Text, '\n' ∉ name → '\n' ∉ Path.join base name :=
    fun _ hname ↦ Path.not_mem_join hbase hname
  have hdirection : ∀ d : Direction, '\n' ∉ d.name := by
    rintro (_ | _) <;> decide
  intro title ht
  rcases List.mem_append.mp ht with ht | ht
  · simp only [List.mem_cons, List.not_mem_nil, or_false] at ht
    rcases ht with rfl | rfl | rfl <;> simp [hjoin]
  · obtain ⟨d, -, rfl⟩ := List.mem_map.mp ht
    simp [hjoin, hdirection]

theorem kept_section (hbase : '\n' ∉ base) {p : Path} {title : Text}
    (ht : title ++ p ∈ titles base) {body : Except Error (List Text)}
    (hbody : ∀ ls, body = .ok ls → ∀ l ∈ ls, Kept e t base l) {ls : List Text}
    (h : sectionOf t p title body = .ok ls) : ∀ l ∈ ls, Kept e t base l := by
  rw [sectionOf] at h
  split at h
  · obtain ⟨inner, hinner, h⟩ := bind_eq_ok.mp h
    cases h
    intro l hl
    rcases List.mem_append.mp hl with hl | hl
    · exact .of_accounted (.banner ht hl)
        (Remark.not_mem_banner (not_mem_of_mem_titles hbase _ ht) l hl)
    · exact hbody inner hinner l hl
  · cases h
    exact fun l hl ↦ absurd hl List.not_mem_nil

theorem kept_localSection (hbase : '\n' ∉ base) : ∀ l ∈ localSection t base, Kept e t base l := by
  have hlocal : '\n' ∉ Path.join base "local.d" := Path.not_mem_join hbase (by decide)
  have hrun : '\n' ∉ "run-parts ".toList := by decide
  have ht : "Run rules from ".toList ++ base.join "local.d" ++ " using run-parts" ∈ titles base :=
    List.mem_append_left _ (List.mem_cons_of_mem _ (List.mem_cons_of_mem _ List.mem_cons_self))
  intro l hl
  simp only [localSection] at hl
  split at hl
  · rcases List.mem_append.mp hl with hl | hl
    · exact .of_accounted (.banner ht hl)
        (Remark.not_mem_banner (not_mem_of_mem_titles hbase _ ht) l hl)
    · rw [List.mem_singleton.mp hl]
      refine .of_accounted .runParts ?_
      rw [List.mem_append, not_or]
      exact ⟨hrun, hlocal⟩
  · exact absurd hl List.not_mem_nil

theorem kept_lines (hbase : '\n' ∉ base) {ls : List Text} (h : lines e t base = .ok ls) :
    ∀ l ∈ ls, Kept e t base l := by
  obtain ⟨allowed, hallowed, h⟩ := bind_eq_ok.mp h
  obtain ⟨blocked, hblocked, h⟩ := bind_eq_ok.mp h
  obtain ⟨rules, hrules, h⟩ := bind_eq_ok.mp h
  cases h
  have hbegin : ∀ l ∈ header ++ flush ++ permitLoopback, '\n' ∉ l := by decide +kernel
  have haccept : '\n' ∉ "accept".toList := by decide
  have hreject : '\n' ∉ "reject".toList := by decide
  intro l hl
  rw [List.mem_append, List.mem_append, List.mem_append, List.mem_append] at hl
  -- The parts of the script, from the first to the last.
  rcases hl with (((hl | hl) | hl) | hl) | hl
  · exact .of_accounted (.fixed hl) (hbegin l hl)
  · refine kept_section hbase ?_ (fun ls h ↦ kept_addressDirectory ?_ haccept h) hallowed l hl
    · exact List.mem_append_left _ List.mem_cons_self
    · exact List.mem_append_left _ List.mem_cons_self
  · refine kept_section hbase ?_ (fun ls h ↦ kept_addressDirectory ?_ hreject h) hblocked l hl
    · exact List.mem_append_left _ (List.mem_cons_of_mem _ List.mem_cons_self)
    · exact List.mem_append_left _ (List.mem_cons_of_mem _ List.mem_cons_self)
  · obtain ⟨ls, hls, hl⟩ := List.mem_flatten.mp hl
    obtain ⟨d, -, hsection⟩ := exists_of_mem_mapM hrules hls
    refine kept_section hbase ?_ (fun ls h ↦ kept_ruleDirectory ?_ rfl haccept h) hsection l hl
    · exact List.mem_append_right _ (List.mem_map_of_mem (mem_all d))
    · exact List.mem_append_right _ (List.mem_map_of_mem (mem_all d))
  · exact kept_localSection hbase l hl

/-! ## Scripts -/

theorem lines_ne_nil {ls : List Text} (h : lines e t base = .ok ls) : ls ≠ [] := by
  obtain ⟨allowed, -, h⟩ := bind_eq_ok.mp h
  obtain ⟨blocked, -, h⟩ := bind_eq_ok.mp h
  obtain ⟨rules, -, h⟩ := bind_eq_ok.mp h
  cases h
  simp [header]

/-- **Nothing but remarks can leave its line.** Let a script be made for a base directory without a
line feed in its path. Its rows are those of the lines it is put together from, and the empty one at
the end. A line with a line feed is a remark with one in its name, its address or its reason. So
every row is accounted for exactly if every further row of a remark is; and if no file name and no
directory of templates holds a line feed, the rows are the lines, and each is accounted for. -/
theorem rows_script_accounted_iff (hbase : '\n' ∉ base) {text : Text}
    (h : script e t base = .ok text) :
    ∃ ls, lines e t base = .ok ls ∧ rows text = ls.flatMap rows ++ [[]] ∧
      (∀ l ∈ ls, '\n' ∈ l → ∃ d name target reason, l = Remark.ignoring d name target reason ∧
        ('\n' ∈ name ∨ (∃ address, target = some address ∧ '\n' ∈ address) ∨ '\n' ∈ reason)) ∧
      ((∀ row ∈ ls.flatMap rows, Accounted e t base row) ↔
        ∀ d name target reason, Remark.ignoring d name target reason ∈ ls →
          ∀ row ∈ (rows (Remark.ignoring d name target reason)).tail, Accounted e t base row) ∧
      (e.services.Sound → Tame e t base →
        rows text = ls ++ [[]] ∧ ∀ l ∈ ls, Accounted e t base l) := by
  obtain ⟨ls, hls, h⟩ := bind_eq_ok.mp h
  cases h
  have hkept := kept_lines hbase hls
  have hrows := rows_joinWith (lines_ne_nil hls)
  refine ⟨ls, hls, hrows, fun l hl hmem ↦ ?_, ?_, fun he ht ↦ ?_⟩
  · obtain ⟨d, name, target, reason, rfl⟩ := (hkept l hl).broken hmem
    exact ⟨d, name, target, reason, rfl, Remark.mem_ignoring_iff.mp hmem⟩
  · constructor
    · intro hall d name target reason hl row hrow
      exact hall row (List.mem_flatMap.mpr ⟨_, hl, List.mem_of_mem_tail hrow⟩)
    · intro htail row hrow
      obtain ⟨l, hl, hrow⟩ := List.mem_flatMap.mp hrow
      obtain ⟨first, rest, hsplit, hfirst⟩ := (hkept l hl).first
      have hmem : row = first ∨ row ∈ (rows l).tail := by
        rw [hsplit] at hrow ⊢
        exact List.mem_cons.mp hrow
      rcases hmem with rfl | hrest
      · exact hfirst
      -- Only a line with a line feed has further rows, and such a line is a remark.
      · have hfeed : '\n' ∈ l := by
          by_contra hnot
          rw [tail_rows_eq_nil_iff.mpr hnot] at hrest
          exact List.not_mem_nil hrest
        obtain ⟨d, name, target, reason, rfl⟩ := (hkept l hl).broken hfeed
        exact htail d name target reason hl row hrest
  · have hone : ∀ l ∈ ls, rows l = [l] := fun l hl ↦ rows_eq_singleton ((hkept l hl).tame he ht)
    refine ⟨?_, fun l hl ↦ ?_⟩
    · rw [hrows, List.flatMap_congr hone, List.flatMap_singleton']
    · obtain ⟨first, rest, hsplit, hfirst⟩ := (hkept l hl).first
      rw [hone l hl] at hsplit
      obtain ⟨rfl, -⟩ := List.cons.inj hsplit
      exact hfirst

/-! ## A name that leaves its line -/

/-- A rule whose name goes on in a second row, and no templates. -/
private def rebootTree : Tree where
  entries :=
    [(["base"], .directory), (["base", "incoming.d"], .directory),
      (["base", "incoming.d", "10-a\nreboot"], .file [])]

/-- Its remark, which repeats the name in two places. -/
private def rebootRemark : Text :=
  "# Ignoring incoming rule a\nreboot because Could not find any templates called a\nreboot.incoming"

private def rebootScript : Text :=
  joinWith "\n" (header ++ flush ++ permitLoopback ++
    Remark.banner "incoming rules from base/incoming.d" ++ [rebootRemark]) ++ "\n"

private theorem script_reboot : script {} rebootTree "base" = .ok rebootScript := by
  decide +kernel

/-- The second row of the remark. -/
private def rebootRow : Text := "reboot because Could not find any templates called a"

private theorem mem_rows_reboot : rebootRow ∈ (rows rebootScript).dropLast := by decide +kernel

private theorem not_accounted_reboot : ¬Accounted {} rebootTree "base" rebootRow := by
  intro h
  cases h with
  | fixed h => exact absurd h (by decide +kernel)
  | banner ht h => exact absurd (Remark.head?_banner _ _ h) (by decide)
  | command h =>
    obtain ⟨names, template, hfound, -⟩ := h
    obtain ⟨p, hp, -⟩ := Engine.exists_of_findTemplate hfound
    obtain ⟨name, -, hone⟩ := List.exists_of_findSome?_eq_some hp
    obtain ⟨dir, hdir, -⟩ := Engine.exists_of_findOne? hone
    exact absurd hdir List.not_mem_nil
  | remark h => exact absurd h (by decide)

theorem rows_script_accounted_iff_reboot :
    '\n' ∉ "base".toList ∧ script {} rebootTree "base" = .ok rebootScript ∧
      ∃ ls, lines {} rebootTree "base" = .ok ls ∧
        ∃ d name target reason, Remark.ignoring d name target reason ∈ ls ∧
          ∃ row ∈ (rows (Remark.ignoring d name target reason)).tail,
            ¬Accounted {} rebootTree "base" row := by
  have hbase : '\n' ∉ "base".toList := by decide
  refine ⟨hbase, script_reboot, ?_⟩
  obtain ⟨ls, hls, hrows, -, hiff, -⟩ := rows_script_accounted_iff hbase script_reboot
  refine ⟨ls, hls, ?_⟩
  by_contra hall
  have htail : ∀ d name target reason, Remark.ignoring d name target reason ∈ ls →
      ∀ row ∈ (rows (Remark.ignoring d name target reason)).tail,
        Accounted {} rebootTree "base" row :=
    fun d name target reason hl row hrow ↦
      by_contra fun hnot ↦ hall ⟨d, name, target, reason, hl, row, hrow, hnot⟩
  have hrow : rebootRow ∈ ls.flatMap rows := by
    have hmem := mem_rows_reboot
    rwa [hrows, List.dropLast_concat] at hmem
  exact not_accounted_reboot (hiff.mpr htail rebootRow hrow)

/-- A script with a row that is not accounted for: the rest of a file's name, as a command. -/
theorem script_runs_file_name :
    '\n' ∉ "base".toList ∧ script {} rebootTree "base" = .ok rebootScript ∧
      rebootRow ∈ (rows rebootScript).dropLast ∧ rebootRow.head? ≠ some '#' ∧
      ¬Accounted {} rebootTree "base" rebootRow :=
  ⟨by decide, script_reboot, mem_rows_reboot, by decide, not_accounted_reboot⟩

end Firewall
end PacketFilter
