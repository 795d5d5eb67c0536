import PacketFilter.Proofs.Service.Registry
import PacketFilter.Proofs.Text.Rows
import Mathlib.Data.List.Induction

/-!
# What a registry remembers

A registry is filled by texts and by single insertions, and it may be emptied in between. What is
left of such a history is one list: `insertions`, the names and ports that were put in since the
registry was last emptied. A name is found with the ports of its own insertions, each at the place
of its first one, and it is not found if it has none.

## One list for every kind of change

Each change does to the registry what it does to the list, so a registry is that of its insertions
alone. And a registry is known from what is found in it. Two histories with the same ports under
every name therefore end in the same registry, and for that it does not matter where a text is cut
between two lines, or whether a text is read once or twice.
-/

namespace PacketFilter

/-! ## The code of a text -/

namespace Service.Line

@[simp] theorem trim_code_eq_nil_iff {raw : Text} : Text.trim (code raw) = [] ↔ code raw = [] := by
  rw [Text.trim_eq_nil_iff, code, Text.trimEnd_trimEnd]

/-- The carriage return of a line ending is a blank at the end or part of the comment. -/
@[simp] theorem code_dropReturn (raw : Text) : code (Text.dropReturn raw) = code raw := by
  rcases Text.dropReturn_spec raw with h | h
  · rw [h]
  · conv_rhs => rw [h]
    generalize Text.dropReturn raw = front
    rw [code, code, Text.before, Text.before, List.takeWhile_append]
    split
    · rename_i hlength
      rw [(List.takeWhile_prefix _).eq_of_length hlength]
      exact (Text.trimEnd_concat (by decide) front).symm
    · rfl

/-- The lines of a text without their comments. Lines of which that leaves nothing are not in it. -/
def codes (text : Text) : List Text := ((Text.lines text).map code).filter (· ≠ [])

theorem codes_eq_rows (text : Text) :
    codes text = ((Text.rows text).map code).filter (· ≠ []) := by
  have hlines : (Text.lines text).map code = ((Text.lineRuns text).map Prod.fst).map code := by
    rw [Text.lines, List.map_map, List.map_map]
    refine List.map_congr_left fun r _ ↦ ?_
    obtain ⟨run, ended⟩ := r
    cases ended with
    | true => exact code_dropReturn run
    | false => rfl
  rw [codes, hlines]
  rcases Text.rows_eq_map_lineRuns text with h | h
  · rw [h]
  · rw [h, List.map_append, List.filter_append]
    exact (List.append_nil _).symm

@[simp] theorem codes_append_cons (s t : Text) : codes (s ++ '\n' :: t) = codes s ++ codes t := by
  rw [codes_eq_rows, codes_eq_rows, codes_eq_rows, Text.rows_append_cons, List.map_append,
    List.filter_append]

end Service.Line

/-! ## First occurrences -/

namespace Service

variable {α : Type} [DecidableEq α]

@[simp] theorem eraseDups_concat (as : List α) (a : α) :
    (as ++ [a]).eraseDups = addNew as.eraseDups a := by
  rw [List.eraseDups_append, addNew]
  simp only [List.mem_eraseDups]
  by_cases ha : a ∈ as
  · rw [if_pos ha, List.removeAll, List.filter_cons_of_neg (by simpa using ha)]
    exact List.append_nil _
  · rw [if_neg ha, List.removeAll, List.filter_cons_of_pos (by simpa using ha)]
    rfl

theorem nodup_eraseDups (as : List α) : as.eraseDups.Nodup := by
  induction as using List.reverseRecOn with
  | nil => exact List.nodup_nil
  | append_singleton as a ih =>
    rw [eraseDups_concat]
    exact nodup_addNew ih a

theorem eraseDups_append_of_subset {as bs : List α} (h : bs ⊆ as) :
    (as ++ bs).eraseDups = as.eraseDups := by
  have hnone : bs.removeAll as = [] := List.filter_eq_nil_iff.mpr fun b hb ↦ by simp [h hb]
  rw [List.eraseDups_append, hnone, List.eraseDups_nil, List.append_nil]

end Service

/-! ## Insertions -/

namespace Registry

/-- A port that is put under a name. -/
structure Insertion where
  name : Text
  port : Port
  deriving DecidableEq, Repr

/-- The registry with insertions made one after the other. -/
def insertEach (r : Registry) (log : List Insertion) : Registry :=
  log.foldl (fun r i ↦ r.insert i.name i.port) r

/-- The ports that insertions put under a name, in letters of either case: each of them once, at
the place of its first insertion. -/
def portsUnder (name : Text) (log : List Insertion) : List Port :=
  ((log.filter fun i ↦ Text.lower i.name = Text.lower name).map Insertion.port).eraseDups

/-- What a line puts in: its port under its name, and then under each alias. -/
def lineInsertions (line : Service.Line) : List Insertion :=
  (line.name :: line.aliases).map fun name ↦ ⟨name, line.port⟩

/-- What the lines of a text put in. A line that cannot be read puts in nothing. -/
def textInsertions (text : Text) : List Insertion :=
  ((Service.Line.codes text).filterMap Service.Line.read?).flatMap lineInsertions

/-- The number of lines that cannot be read. -/
def unread (text : Text) : Nat :=
  (Service.Line.codes text).countP fun t ↦ (Service.Line.read? t).isNone

variable {r r' : Registry} {name : Text} {log log' : List Insertion} {i : Insertion}

@[simp] theorem insertEach_append (r : Registry) (log log' : List Insertion) :
    r.insertEach (log ++ log') = (r.insertEach log).insertEach log' := List.foldl_append

theorem sound_insertEach (hr : r.Sound) (log : List Insertion) : (r.insertEach log).Sound :=
  List.foldlRecOn (motive := Sound) log _ hr fun _ h i _ ↦ sound_insert h i.name i.port

/-! ### Ports under a name -/

theorem portsUnder_concat_self (h : Text.lower i.name = Text.lower name) :
    portsUnder name (log ++ [i]) = Service.addNew (portsUnder name log) i.port := by
  rw [portsUnder, List.filter_append, List.filter_cons_of_pos (by simpa using h),
    List.map_append]
  exact Service.eraseDups_concat _ _

theorem portsUnder_concat_of_ne (h : Text.lower i.name ≠ Text.lower name) :
    portsUnder name (log ++ [i]) = portsUnder name log := by
  rw [portsUnder, List.filter_append, List.filter_cons_of_neg (by simpa using h), List.filter_nil,
    List.append_nil, portsUnder]

theorem mem_portsUnder {p : Port} :
    p ∈ portsUnder name log ↔ ∃ i ∈ log, Text.lower i.name = Text.lower name ∧ i.port = p := by
  rw [portsUnder, List.mem_eraseDups, List.mem_map]
  simp only [List.mem_filter, decide_eq_true_eq, and_assoc]

theorem portsUnder_eq_nil_iff :
    portsUnder name log = [] ↔ ∀ i ∈ log, Text.lower i.name ≠ Text.lower name := by
  simp only [List.eq_nil_iff_forall_not_mem, mem_portsUnder]
  exact ⟨fun h i hi hname ↦ h i.port ⟨i, hi, hname, rfl⟩, fun h _ ⟨i, hi, hname, _⟩ ↦ h i hi hname⟩

theorem portsUnder_append_self (name : Text) (log log' : List Insertion) :
    portsUnder name (log ++ log' ++ log') = portsUnder name (log ++ log') := by
  rw [portsUnder, List.filter_append, List.map_append, portsUnder]
  refine Service.eraseDups_append_of_subset ?_
  rw [List.filter_append, List.map_append]
  exact List.subset_append_right _ _

/-! ### What is found -/

theorem find?_insert_self (hr : r.Sound) (p : Port) (h : Text.lower i.name = Text.lower name) :
    (r.insert i.name p).find? name =
      some (((r.find? name).getD ⟨Text.lower name, []⟩).add p) := by
  rw [find?, find?, ← h]
  exact Sorted.find?_update_self hr.ascending _ _

theorem find?_insert_of_ne (p : Port) (h : Text.lower i.name ≠ Text.lower name) :
    (r.insert i.name p).find? name = r.find? name :=
  Sorted.find?_update_of_ne r.entries (Ne.symm h) _

/-- A registry finds a name that insertions were made under, with their ports, and no other. -/
theorem find?_insertEach_empty (log : List Insertion) (name : Text) :
    (empty.insertEach log).find? name =
      if portsUnder name log = [] then none
      else some ⟨Text.lower name, portsUnder name log⟩ := by
  -- Ports are listed by their first insertions, so the list is followed to its end.
  induction log using List.reverseRecOn with
  | nil => rfl
  | append_singleton log i ih =>
    have hconcat : empty.insertEach (log ++ [i]) = (empty.insertEach log).insert i.name i.port :=
      insertEach_append _ _ _
    rw [hconcat]
    by_cases h : Text.lower i.name = Text.lower name
    · have hold : ((empty.insertEach log).find? name).getD ⟨Text.lower name, []⟩ =
          ⟨Text.lower name, portsUnder name log⟩ := by
        rw [ih]
        split
        · rename_i hnil
          rw [hnil]
          rfl
        · rfl
      have hne : portsUnder name (log ++ [i]) ≠ [] :=
        List.ne_nil_of_mem (mem_portsUnder.mpr ⟨i, by simp, h, rfl⟩)
      rw [find?_insert_self (sound_insertEach sound_empty log) i.port h, hold, if_neg hne,
        portsUnder_concat_self h]
      rfl
    · rw [find?_insert_of_ne i.port h, ih, portsUnder_concat_of_ne h]

theorem eq_of_find?_eq (hr : r.Sound) (hr' : r'.Sound)
    (h : ∀ name, r.find? name = r'.find? name) : r = r' := by
  -- A key that is not in lower case is never asked for, but it is in neither.
  have habsent : ∀ {q : Registry}, q.Sound → ∀ {k : Text}, Text.lower k ≠ k →
      Sorted.find? Text.compare k q.entries = none := by
    intro q hq k hk
    cases hf : Sorted.find? Text.compare k q.entries with
    | none => rfl
    | some s => exact absurd (hq.named _ (Sorted.mem_of_find? hf)).2 hk
  have hentries : r.entries = r'.entries := by
    refine Sorted.eq_of_find?_eq hr.ascending hr'.ascending fun k ↦ ?_
    by_cases hk : Text.lower k = k
    · have hfind := h k
      rwa [find?, find?, hk] at hfind
    · rw [habsent hr hk, habsent hr' hk]
  cases r
  cases r'
  exact congrArg _ hentries

theorem insertEach_eq_of_portsUnder_eq (h : ∀ name, portsUnder name log = portsUnder name log') :
    empty.insertEach log = empty.insertEach log' := by
  refine eq_of_find?_eq (sound_insertEach sound_empty log) (sound_insertEach sound_empty log')
    fun name ↦ ?_
  rw [find?_insertEach_empty, find?_insertEach_empty, h]

/-! ### Texts -/

theorem insertAll_eq (r : Registry) (line : Service.Line) :
    r.insertAll (line.name :: line.aliases) line.port = r.insertEach (lineInsertions line) := by
  rw [insertAll, insertEach, lineInsertions, List.foldl_map]

theorem addLine_of_blank {raw : Text} (h : Service.Line.code raw = []) :
    r.addLine raw = (r, false) := by
  rw [addLine]
  exact if_pos (Service.Line.trim_code_eq_nil_iff.mpr h)

theorem addLine_of_read {raw : Text} {line : Service.Line} (h : Service.Line.code raw ≠ [])
    (hread : Service.Line.read? (Service.Line.code raw) = some line) :
    r.addLine raw = (r.insertEach (lineInsertions line), false) := by
  simp only [addLine, hread, if_neg (Service.Line.trim_code_eq_nil_iff.not.mpr h), insertAll_eq]

theorem addLine_of_unread {raw : Text} (h : Service.Line.code raw ≠ [])
    (hread : Service.Line.read? (Service.Line.code raw) = none) : r.addLine raw = (r, true) := by
  simp only [addLine, hread, if_neg (Service.Line.trim_code_eq_nil_iff.not.mpr h)]

/-- Reading lines from where others have been read and `n` of them skipped. -/
private theorem foldl_addLine (raws : List Text) (r : Registry) (n : Nat) :
    raws.foldl (fun (r, skipped) raw ↦
        let (r, skip) := r.addLine raw
        (r, if skip then skipped + 1 else skipped)) (r, n) =
      (r.insertEach ((((raws.map Service.Line.code).filter (· ≠ [])).filterMap
          Service.Line.read?).flatMap lineInsertions),
        n + ((raws.map Service.Line.code).filter (· ≠ [])).countP
          fun t ↦ (Service.Line.read? t).isNone) := by
  induction raws generalizing r n with
  | nil => rfl
  | cons raw raws ih =>
    rw [List.foldl_cons, List.map_cons]
    show raws.foldl _ ((r.addLine raw).1, if (r.addLine raw).2 then n + 1 else n) = _
    rw [ih]
    by_cases hblank : Service.Line.code raw = []
    · rw [addLine_of_blank hblank, List.filter_cons_of_neg (by simpa using hblank)]
      rfl
    · rw [List.filter_cons_of_pos (by simpa using hblank), List.countP_cons]
      cases hread : Service.Line.read? (Service.Line.code raw) with
      | none =>
        rw [addLine_of_unread hblank hread, List.filterMap_cons_none hread]
        simp only [Option.isNone_none, if_true, Nat.add_assoc, Nat.add_comm 1]
      | some line =>
        rw [addLine_of_read hblank hread, List.filterMap_cons_some hread, List.flatMap_cons,
          insertEach_append]
        rfl

/-- A text makes its insertions and skips the lines that cannot be read, whatever is there. -/
theorem addText_eq (r : Registry) (text : Text) :
    r.addText text = (r.insertEach (textInsertions text), unread text) := by
  rw [addText, foldl_addLine, Nat.zero_add]
  rfl

@[simp] theorem textInsertions_append_cons (s t : Text) :
    textInsertions (s ++ '\n' :: t) = textInsertions s ++ textInsertions t := by
  rw [textInsertions, Service.Line.codes_append_cons, List.filterMap_append, List.flatMap_append]
  rfl

@[simp]
theorem unread_append_cons (s t : Text) : unread (s ++ '\n' :: t) = unread s + unread t := by
  rw [unread, Service.Line.codes_append_cons, List.countP_append]
  rfl

/-- Reading two texts in one, with a line break between them, is reading one after the other. -/
theorem addText_append_cons (r : Registry) (s t : Text) :
    r.addText (s ++ '\n' :: t) =
      (((r.addText s).1.addText t).1, (r.addText s).2 + ((r.addText s).1.addText t).2) := by
  rw [addText_eq, addText_eq, addText_eq, textInsertions_append_cons, unread_append_cons,
    insertEach_append]

/-! ## Changes -/

/-- A change of a registry. -/
inductive Change where
  | read (text : Text)
  | insert (name : Text) (p : Port)
  | reset
  deriving DecidableEq, Repr

namespace Change

/-- What a change does to a registry. -/
def apply (r : Registry) : Change → Registry
  | read text => (r.addText text).1
  | insert name p => r.insert name p
  | reset => empty

/-- What a change does to the list of insertions. -/
def extend (log : List Insertion) : Change → List Insertion
  | read text => log ++ textInsertions text
  | insert name p => log ++ [⟨name, p⟩]
  | reset => []

theorem apply_insertEach (log : List Insertion) (c : Change) :
    c.apply (empty.insertEach log) = empty.insertEach (c.extend log) := by
  cases c with
  | read text => rw [apply, extend, addText_eq, insertEach_append]
  | insert name p => exact (insertEach_append empty log [⟨name, p⟩]).symm
  | reset => rfl

end Change

/-- The registry after some changes, from an empty one on. -/
def after (cs : List Change) : Registry := cs.foldl (fun r c ↦ c.apply r) empty

/-- The insertions since the registry was last emptied. -/
def insertions (cs : List Change) : List Insertion := cs.foldl (fun log c ↦ c.extend log) []

theorem after_eq (cs : List Change) : after cs = empty.insertEach (insertions cs) := by
  show cs.foldl Change.apply (empty.insertEach []) = _
  exact List.foldl_hom (empty.insertEach ·) Change.apply_insertEach

theorem sound_after (cs : List Change) : (after cs).Sound := by
  rw [after_eq]
  exact sound_insertEach sound_empty _

@[simp] theorem addText_addText_after (cs : List Change) (t : Text) :
    (((after cs).addText t).1.addText t).1 = ((after cs).addText t).1 := by
  simp only [addText_eq]
  rw [after_eq, ← insertEach_append empty, ← insertEach_append empty]
  exact insertEach_eq_of_portsUnder_eq fun name ↦ portsUnder_append_self name _ _

/-- Whatever was read, inserted and emptied: a name is found exactly if a port was put under it
since, in letters of either case, and with its ports in the order of their first insertions.
Services are listed in the order of their names, which are their keys and in lower case, and each
has some ports, none of them twice. Two texts may be read as one, with a line break between them,
and a text that is read again changes nothing. -/
theorem after_remembers (cs : List Change) :
    (∀ name,
      ((after cs).find? name = none ↔
        ∀ i ∈ insertions cs, Text.lower i.name ≠ Text.lower name) ∧
      ∀ s, (after cs).find? name = some s →
        s = ⟨Text.lower name, portsUnder name (insertions cs)⟩) ∧
    (after cs).services.Pairwise (fun s t ↦ Text.compare s.name t.name = .lt) ∧
    (after cs).entries = (after cs).services.map (fun s ↦ (s.name, s)) ∧
    (∀ s ∈ (after cs).services,
      Text.lower s.name = s.name ∧ (after cs).find? s.name = some s ∧
        s.ports ≠ [] ∧ s.ports.Nodup) ∧
    (∀ s t, (after cs).addText (s ++ '\n' :: t) =
      ((((after cs).addText s).1.addText t).1,
        ((after cs).addText s).2 + (((after cs).addText s).1.addText t).2)) ∧
    ∀ t, (((after cs).addText t).1.addText t).1 = ((after cs).addText t).1 := by
  have hsound := sound_after cs
  refine ⟨fun name ↦ ?_, pairwise_services hsound, ?_, fun s hs ↦ ?_,
    addText_append_cons (after cs), addText_addText_after cs⟩
  · rw [after_eq, find?_insertEach_empty, ← portsUnder_eq_nil_iff]
    split
    · rename_i hnil
      exact ⟨iff_of_true rfl hnil, fun s hs ↦ absurd hs (by simp)⟩
    · rename_i hne
      exact ⟨iff_of_false (by simp) hne, fun s hs ↦ (Option.some_inj.mp hs).symm⟩
  · rw [services, List.map_map]
    refine ((List.map_congr_left fun e he ↦ ?_).trans (List.map_id _)).symm
    exact Prod.ext (hsound.named e he).1 rfl
  · have hfind := find?_of_mem_services hsound hs
    obtain ⟨e, he, rfl⟩ := List.mem_map.mp hs
    obtain ⟨hname, hlower⟩ := hsound.named e he
    exact ⟨by rw [hname, hlower], hfind, hsound.ports e he⟩

/-- Emptied once, and then filled by a text with an alias, a comment and a line that cannot be read,
and by two ports under one name. -/
private def emptied (p q : Port) : List Change :=
  [.insert "echo" p, .reset,
    .read "SSH 22/tcp secure-shell # login\r\necho seven\nssh 2222/tcp\n",
    .insert "Ssh" p, .insert "ssh" q]

/-- The first of the two ports is in the text already and keeps its place. -/
theorem after_remembers_emptied :
    (after (emptied ⟨22, .tcp⟩ ⟨22, .udp⟩)).find? "sSh" =
        some ⟨"ssh", [⟨22, .tcp⟩, ⟨2222, .tcp⟩, ⟨22, .udp⟩]⟩ ∧
      portsUnder "sSh" (insertions (emptied ⟨22, .tcp⟩ ⟨22, .udp⟩)) =
        [⟨22, .tcp⟩, ⟨2222, .tcp⟩, ⟨22, .udp⟩] ∧
      (after (emptied ⟨22, .tcp⟩ ⟨22, .udp⟩)).find? "echo" = none := by
  have hssh : (after (emptied ⟨22, .tcp⟩ ⟨22, .udp⟩)).find? "sSh" =
      some ⟨"ssh", [⟨22, .tcp⟩, ⟨2222, .tcp⟩, ⟨22, .udp⟩]⟩ := by decide
  have hports := ((after_remembers (emptied ⟨22, .tcp⟩ ⟨22, .udp⟩)).1 "sSh").2 _ hssh
  refine ⟨hssh, (congrArg Service.ports hports).symm, ?_⟩
  exact ((after_remembers (emptied ⟨22, .tcp⟩ ⟨22, .udp⟩)).1 "echo").1.mpr (by decide)

end Registry
end PacketFilter
