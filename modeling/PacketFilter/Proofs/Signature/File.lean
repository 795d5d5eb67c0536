import PacketFilter.Proofs.Except
import PacketFilter.Proofs.Signature.Anchor
import PacketFilter.Proofs.Text.Rows
import PacketFilter.Signature.File

/-!
# Signature files are strict

A file of signatures is read line by line, and what was read so far is a draft. A line either adds
one thing to the draft or stops the reading, so two statements about one line are enough: what it
adds, and that it fails as it would in any file that starts with the same lines.

## What the lines say

A line that is neither blank nor a comment is an *entry* of one of three kinds: it names the log
file, it lists the ports, or it is a signature. Which kind it is depends on the line alone, so
nothing is read twice and nothing is left out. The drafts that come from a list of entries are
those that `Draft.Reads` describes: the log file and the ports are said once at most, and the
signatures are those of the remaining lines in order, each with its own number.

Numbers count all signatures. One that has a name of its own still moves those behind it up by one.
-/

namespace PacketFilter.SignatureFile

/-! ## Entries -/

/-- What a line of a signature file says. -/
inductive Entry where
  | log (value : Text)
  | ports (value : Text)
  | signature (line : Text)

namespace Entry

/-- What a trimmed line says. -/
def ofLine (line : Text) : Entry :=
  match setting? "file" line, setting? "ports" line with
  | some value, _ => log value
  | none, some value => ports value
  | none, none => signature line

/-- The log file, if the entry names it. -/
def log? : Entry → Option Text
  | log value => some value
  | _ => none

/-- The list of ports, if the entry is one. -/
def ports? : Entry → Option Text
  | ports value => some value
  | _ => none

/-- The line of a signature, if the entry is one. -/
def signature? : Entry → Option Text
  | signature line => some line
  | _ => none

theorem length_eq (es : List Entry) :
    es.length =
      (es.filterMap log?).length + (es.filterMap ports?).length +
        (es.filterMap signature?).length := by
  induction es with
  | nil => rfl
  | cons e es ih =>
    rcases e with v | v | l
    · simp only [List.filterMap_cons, log?, ports?, signature?, List.length_cons]
      omega
    · simp only [List.filterMap_cons, log?, ports?, signature?, List.length_cons]
      omega
    · simp only [List.filterMap_cons, log?, ports?, signature?, List.length_cons]
      omega

end Entry

/-- What a line says, unless it is blank or a comment. -/
def entry? (raw : Text) : Option Entry :=
  if Text.trim raw = [] ∨ (Text.trim raw).head? = some '#' then none
  else some (.ofLine (Text.trim raw))

/-- What the lines of a text say, in order. -/
def entries (content : Text) : List Entry := (Text.lines content).filterMap entry?

/-- The signature that a line stands for, if it is the one with the given number. -/
inductive IsSignature (stem : Text) (number : Nat) : Text → Signature → Prop where
  | named {rest source : Text} {s : Signature} : readNamed rest = .ok (s.name, source) →
      Signature.compile s.name source = .ok s → IsSignature stem number ('@' :: rest) s
  | unnamed {line : Text} {s : Signature} : line.head? ≠ some '@' →
      s.name = stem ++ "-" ++ Text.decimal number → Signature.compile s.name line = .ok s →
      IsSignature stem number line s

/-! ## One line -/

namespace Draft

/-- What an entry adds to a draft. -/
inductive Adds (stem : Text) (d : Draft) : Entry → Draft → Prop where
  | log {value : Text} : d.log = none → Adds stem d (.log value) { d with log := some value }
  | ports {value : Text} : d.ports = none →
      Adds stem d (.ports value) { d with ports := some (readPorts value) }
  | signature {line : Text} {s : Signature} : IsSignature stem (d.signatures.length + 1) line s →
      Adds stem d (.signature line) { d with signatures := d.signatures ++ [s] }

variable {stem line : Text} {d d' : Draft}

/-- The signature of a line. -/
def signatureOf (stem : Text) (number : Nat) (line : Text) : Except Text Signature :=
  match line with
  | '@' :: rest => readNamed rest >>= fun x ↦ Signature.compile x.1 x.2
  | line => Signature.compile (stem ++ "-" ++ Text.decimal number) line

theorem signatureOf_of_head? {number : Nat} (h : line.head? ≠ some '@') :
    signatureOf stem number line =
      Signature.compile (stem ++ "-" ++ Text.decimal number) line := by
  unfold signatureOf
  split
  · exact absurd rfl h
  · rfl

theorem signatureOf_eq_ok_iff {number : Nat} {s : Signature} :
    signatureOf stem number line = .ok s ↔ IsSignature stem number line s := by
  by_cases hhead : line.head? = some '@'
  · obtain ⟨rest, rfl⟩ := List.head?_eq_some_iff.mp hhead
    rw [signatureOf, bind_eq_ok]
    constructor
    · rintro ⟨⟨name, source⟩, hread, hcompile⟩
      obtain rfl : s.name = name := Signature.name_of_compile hcompile
      exact .named hread hcompile
    · rintro (⟨hread, hcompile⟩ | ⟨hother, -, -⟩)
      · exact ⟨_, hread, hcompile⟩
      · exact absurd hhead hother
  · rw [signatureOf_of_head? hhead]
    constructor
    · intro hcompile
      have hname := Signature.name_of_compile hcompile
      exact .unnamed hhead hname (by rwa [hname])
    · rintro (_ | ⟨-, hname, hcompile⟩)
      · exact absurd rfl hhead
      · rwa [hname] at hcompile

/-- What a line does to a draft is decided by what it says. -/
theorem addLine_eq :
    d.addLine stem line =
      match Entry.ofLine line with
      | .log value =>
        if d.log.isSome then .error "duplicate 'file' directive"
        else .ok { d with log := some value }
      | .ports value =>
        if d.ports.isSome then .error "duplicate 'ports' directive"
        else .ok { d with ports := some (readPorts value) }
      | .signature line => signatureOf stem (d.signatures.length + 1) line >>= fun s ↦
          .ok { d with signatures := d.signatures ++ [s] } := by
  rw [addLine, Entry.ofLine]
  rcases setting? "file" line with _ | value
  · rcases setting? "ports" line with _ | value
    · show _ = signatureOf stem (d.signatures.length + 1) line >>= fun s ↦ _
      by_cases hhead : line.head? = some '@'
      · obtain ⟨rest, rfl⟩ := List.head?_eq_some_iff.mp hhead
        exact (bind_assoc (readNamed rest) _ _).symm
      · rw [signatureOf_of_head? hhead]
        simp only
        split
        · exact absurd rfl hhead
        · rfl
    · rfl
  · rfl

theorem addLine_eq_ok_iff : d.addLine stem line = .ok d' ↔ Adds stem d (.ofLine line) d' := by
  rw [addLine_eq]
  rcases Entry.ofLine line with value | value | line
  · show (if d.log.isSome then _ else _) = _ ↔ _
    rcases hlog : d.log with _ | log
    · constructor
      · intro h
        obtain rfl := Except.ok.inj h
        exact .log hlog
      · rintro ⟨-⟩
        rfl
    · refine iff_of_false (fun h ↦ by cases h) ?_
      rintro ⟨hnone⟩
      rw [hlog] at hnone
      cases hnone
  · show (if d.ports.isSome then _ else _) = _ ↔ _
    rcases hports : d.ports with _ | ports
    · constructor
      · intro h
        obtain rfl := Except.ok.inj h
        exact .ports hports
      · rintro ⟨-⟩
        rfl
    · refine iff_of_false (fun h ↦ by cases h) ?_
      rintro (_ | ⟨hnone⟩)
      rw [hports] at hnone
      cases hnone
  · show signatureOf _ _ _ >>= _ = _ ↔ _
    constructor
    · intro h
      obtain ⟨s, hs, hd⟩ := bind_eq_ok.mp h
      obtain rfl := Except.ok.inj hd
      exact .signature (signatureOf_eq_ok_iff.mp hs)
    · rintro (_ | _ | ⟨hs⟩)
      rw [signatureOf_eq_ok_iff.mpr hs]
      rfl

/-! ## Line by line -/

variable {path : Path} {n : Nat} {raw : Text} {front back : List Text} {e : Error}

/-- A line as it stands in the file, added to a draft. -/
def addRaw (path : Path) (stem : Text) (d : Draft) (n : Nat) (raw : Text) : Except Error Draft :=
  if Text.trim raw = [] ∨ (Text.trim raw).head? = some '#' then .ok d
  else (d.addLine stem (Text.trim raw)).mapError (.badLine path n)

theorem addLines_cons (d : Draft) (n : Nat) (raw : Text) (rest : List Text) :
    addLines path stem d n (raw :: rest) =
      addRaw path stem d n raw >>= fun d ↦ addLines path stem d (n + 1) rest := by
  rw [addLines, addRaw]
  split
  · rfl
  · rfl

theorem addLines_append (d : Draft) (n : Nat) (front back : List Text) :
    addLines path stem d n (front ++ back) =
      addLines path stem d n front >>= fun d ↦ addLines path stem d (n + front.length) back := by
  induction front generalizing d n with
  | nil => rfl
  | cons raw front ih =>
    rw [List.cons_append, addLines_cons, addLines_cons, bind_assoc]
    refine bind_congr fun d' ↦ ?_
    rw [ih, List.length_cons, Nat.add_assoc, Nat.add_comm 1]

/-- Blanks around a line make no difference. -/
theorem addLines_congr {ls ls' : List Text} (h : ls.map Text.trim = ls'.map Text.trim) :
    addLines path stem d n ls = addLines path stem d n ls' := by
  induction ls generalizing d n ls' with
  | nil => rw [List.map_eq_nil_iff.mp h.symm]
  | cons raw ls ih =>
    obtain ⟨raw', rest, rfl, hraw, hrest⟩ := List.map_eq_cons_iff.mp h.symm
    rw [addLines_cons, addLines_cons, addRaw, addRaw, hraw]
    exact bind_congr fun d' ↦ ih hrest.symm

theorem addRaw_eq_error (h : addRaw path stem d n raw = .error e) :
    ∃ reason, e = .badLine path n reason := by
  rw [addRaw] at h
  split at h
  · cases h
  · obtain ⟨reason, -, rfl⟩ := mapError_eq_error.mp h
    exact ⟨reason, rfl⟩

theorem addRaw_eq_ok_iff :
    addRaw path stem d n raw = .ok d' ↔ match entry? raw with
      | none => d' = d
      | some entry => Adds stem d entry d' := by
  rw [addRaw, entry?]
  split
  · exact ⟨fun h ↦ (Except.ok.inj h).symm, fun h ↦ congrArg Except.ok h.symm⟩
  · show _ ↔ Adds stem d (.ofLine (Text.trim raw)) d'
    rw [← addLine_eq_ok_iff]
    rcases addLine d stem (Text.trim raw) with reason | d'
    · exact iff_of_false (fun h ↦ by cases h) fun h ↦ by cases h
    · exact ⟨fun h ↦ congrArg Except.ok (Except.ok.inj h),
        fun h ↦ congrArg Except.ok (Except.ok.inj h)⟩

/-- Reading fails at the first line that cannot be added. -/
theorem addLines_eq_error {ls : List Text} (h : addLines path stem d n ls = .error e) :
    ∃ front raw back d', ls = front ++ raw :: back ∧ addLines path stem d n front = .ok d' ∧
      addRaw path stem d' (n + front.length) raw = .error e := by
  induction ls generalizing d n with
  | nil => cases h
  | cons raw ls ih =>
    rw [addLines_cons] at h
    obtain hraw | ⟨d', hraw, hrest⟩ := bind_eq_error.mp h
    · exact ⟨[], raw, ls, d, rfl, rfl, hraw⟩
    · obtain ⟨front, raw', back, d'', rfl, hfront, hfail⟩ := ih hrest
      refine ⟨raw :: front, raw', back, d'', rfl, ?_, ?_⟩
      · rw [addLines_cons, hraw]
        exact hfront
      · rwa [List.length_cons, Nat.add_comm front.length 1, ← Nat.add_assoc]

/-! ## What a draft holds -/

/-- The draft that entries make: the log file and the ports are said once at most, and the
signatures are those of the other lines, numbered from one. -/
structure Reads (stem : Text) (es : List Entry) (d : Draft) : Prop where
  log : es.filterMap Entry.log? = d.log.toList
  ports : (es.filterMap Entry.ports?).map readPorts = d.ports.toList
  signatures : List.Forall₂ (fun x s ↦ IsSignature stem x.2 x.1 s)
    ((es.filterMap Entry.signature?).zipIdx 1) d.signatures

variable {es : List Entry} {entry : Entry}

theorem Reads.length_signatures (h : Reads stem es d) :
    (es.filterMap Entry.signature?).length = d.signatures.length := by
  rw [← h.signatures.length_eq, List.length_zipIdx]

/-- What is related to a list with one element more at its end has one more itself. -/
private theorem forall₂_concat_left_iff {α β : Type} {R : α → β → Prop} {as : List α} {a : α}
    {bs : List β} : List.Forall₂ R (as ++ [a]) bs ↔
      ∃ bs' b, bs = bs' ++ [b] ∧ List.Forall₂ R as bs' ∧ R a b := by
  constructor
  · intro h
    induction as generalizing bs with
    | nil =>
      obtain ⟨b, rest, hb, hrest, rfl⟩ := List.forall₂_cons_left_iff.mp h
      rw [List.forall₂_nil_left_iff] at hrest
      exact ⟨[], b, by rw [hrest]; rfl, .nil, hb⟩
    | cons x as ih =>
      obtain ⟨b, rest, hb, hrest, rfl⟩ := List.forall₂_cons_left_iff.mp h
      obtain ⟨bs', b', rfl, hbs, ha⟩ := ih hrest
      exact ⟨b :: bs', b', rfl, .cons hb hbs, ha⟩
  · rintro ⟨bs', b, rfl, hbs, ha⟩
    exact List.rel_append hbs (.cons ha .nil)

private theorem concat_eq_toList_iff {α : Type} {as : List α} {a : α} {o : Option α} :
    as ++ [a] = o.toList ↔ as = [] ∧ o = some a := by
  rcases o with _ | b
  · simp
  · rw [Option.toList_some, List.append_eq_singleton_iff]
    simp [eq_comm]

/-- Drafts hold one entry more after it was added, and hold it only then. -/
theorem reads_concat_iff :
    Reads stem (es ++ [entry]) d' ↔ ∃ d, Reads stem es d ∧ Adds stem d entry d' := by
  obtain ⟨log', ports', signatures'⟩ := d'
  constructor
  · rintro ⟨hlog, hports, hsignatures⟩
    rw [List.filterMap_append] at hlog hports hsignatures
    rcases entry with value | value | line
    · obtain ⟨hnone, rfl⟩ := concat_eq_toList_iff.mp hlog
      rw [show [Entry.log value].filterMap _ = [] from rfl, List.append_nil] at hports hsignatures
      exact ⟨⟨none, ports', signatures'⟩, ⟨hnone, hports, hsignatures⟩, .log rfl⟩
    · rw [List.map_append] at hports
      obtain ⟨hnone, rfl⟩ := concat_eq_toList_iff.mp hports
      rw [show [Entry.ports value].filterMap _ = [] from rfl, List.append_nil] at hlog hsignatures
      exact ⟨⟨log', none, signatures'⟩, ⟨hlog, hnone, hsignatures⟩, .ports rfl⟩
    · rw [show [Entry.signature line].filterMap _ = [] from rfl, List.append_nil] at hlog hports
      rw [List.zipIdx_append] at hsignatures
      obtain ⟨signatures, s, rfl, hbefore, hs⟩ := forall₂_concat_left_iff.mp hsignatures
      have hread : Reads stem es ⟨log', ports', signatures⟩ := ⟨hlog, hports, hbefore⟩
      refine ⟨_, hread, .signature ?_⟩
      rw [Nat.add_comm, ← hread.length_signatures]
      exact hs
  · rintro ⟨d, hread, hadd⟩
    have hlength := hread.length_signatures
    obtain ⟨hlog, hports, hsignatures⟩ := hread
    rcases hadd with hnone | hnone | hs
    · rw [hnone] at hlog
      refine ⟨?_, ?_, ?_⟩
      · rw [List.filterMap_append, hlog]
        rfl
      · rw [List.filterMap_append, ← hports, List.map_append]
        exact List.append_nil _
      · rwa [List.filterMap_append, show [Entry.log _].filterMap _ = [] from rfl, List.append_nil]
    · rw [hnone] at hports
      refine ⟨?_, ?_, ?_⟩
      · rw [List.filterMap_append, ← hlog]
        exact List.append_nil _
      · rw [List.filterMap_append, List.map_append, hports]
        rfl
      · rwa [List.filterMap_append, show [Entry.ports _].filterMap _ = [] from rfl,
          List.append_nil]
    · refine ⟨?_, ?_, ?_⟩
      · rw [List.filterMap_append, ← hlog]
        exact List.append_nil _
      · rw [List.filterMap_append, ← hports, List.map_append]
        exact List.append_nil _
      · rw [List.filterMap_append, List.zipIdx_append]
        refine forall₂_concat_left_iff.mpr ⟨_, _, rfl, hsignatures, ?_⟩
        rwa [← hlength, Nat.add_comm] at hs

/-- Reading lines gives the draft that they make, and there is no other way to fail. -/
theorem addLines_eq_ok_iff {ls : List Text} :
    addLines path stem {} 1 ls = .ok d ↔ Reads stem (ls.filterMap entry?) d := by
  induction ls using List.reverseRecOn generalizing d with
  | nil =>
    constructor
    · intro h
      obtain rfl := Except.ok.inj h
      exact ⟨rfl, rfl, .nil⟩
    · rintro ⟨hlog, hports, hsignatures⟩
      rw [List.filterMap_nil, List.filterMap_nil, List.map_nil, eq_comm,
        Option.toList_eq_nil_iff] at hports
      rw [List.filterMap_nil, List.filterMap_nil, eq_comm, Option.toList_eq_nil_iff] at hlog
      rw [List.filterMap_nil, List.filterMap_nil, List.zipIdx_nil,
        List.forall₂_nil_left_iff] at hsignatures
      obtain ⟨log, ports, signatures⟩ := d
      rw [show log = none from hlog, show ports = none from hports,
        show signatures = [] from hsignatures]
      rfl
  | append_singleton ls raw ih =>
    have hone : ∀ d' : Draft, addLines path stem d' (1 + ls.length) [raw] =
        addRaw path stem d' (1 + ls.length) raw := fun d' ↦ by
      rw [addLines_cons]
      exact bind_pure _
    rw [addLines_append, bind_eq_ok, List.filterMap_append]
    simp only [hone, ih, addRaw_eq_ok_iff]
    rcases hentry : entry? raw with _ | entry
    · rw [List.filterMap_cons_none hentry, List.filterMap_nil, List.append_nil]
      simp
    · rw [List.filterMap_cons_some hentry, List.filterMap_nil, reads_concat_iff]

end Draft

/-! ## Whole files -/

open Draft

/-- The file that entries make. -/
structure IsFileOf (path : Path) (es : List Entry) (f : SignatureFile) : Prop where
  path_eq : f.path = path
  log : es.filterMap Entry.log? = f.log.toList
  ports : (es.filterMap Entry.ports? = [] ∧ f.ports = [allPorts]) ∨
    ∃ value, es.filterMap Entry.ports? = [value] ∧
      f.ports = if readPorts value = [] then [allPorts] else readPorts value
  signatures : List.Forall₂ (fun x s ↦ IsSignature ((Path.stem? path).getD "pattern") x.2 x.1 s)
    ((es.filterMap Entry.signature?).zipIdx 1) f.signatures

variable {path : Path} {content : Text} {f : SignatureFile} {e : Error}

/-- The ports that a draft leaves to the file. -/
private theorem ports_iff {values : List Text} {ps : List Text} :
    (∃ ports : Option (List Text), values.map readPorts = ports.toList ∧
      (if ports.getD [] = [] then [allPorts] else ports.getD []) = ps) ↔
      (values = [] ∧ ps = [allPorts]) ∨ ∃ value, values = [value] ∧
        ps = if readPorts value = [] then [allPorts] else readPorts value := by
  constructor
  · rintro ⟨ports, hvalues, rfl⟩
    rcases ports with _ | ports
    · exact Or.inl ⟨List.map_eq_nil_iff.mp hvalues, rfl⟩
    · obtain ⟨value, rfl, rfl⟩ := List.map_eq_singleton_iff.mp hvalues
      exact Or.inr ⟨value, rfl, rfl⟩
  · rintro (⟨rfl, rfl⟩ | ⟨value, rfl, rfl⟩)
    · exact ⟨none, rfl, rfl⟩
    · exact ⟨some (readPorts value), rfl, rfl⟩

theorem parse_eq_ok_iff : parse path content = .ok f ↔ IsFileOf path (entries content) f := by
  obtain ⟨path', log, ports, signatures⟩ := f
  rw [parse, bind_eq_ok]
  simp only [addLines_eq_ok_iff]
  constructor
  · rintro ⟨⟨log, ports', signatures⟩, ⟨hlog, hports, hsignatures⟩, h⟩
    obtain ⟨rfl, rfl, hports', rfl⟩ := SignatureFile.mk.inj (Except.ok.inj h)
    exact ⟨rfl, hlog, ports_iff.mp ⟨ports', hports, hports'⟩, hsignatures⟩
  · rintro ⟨rfl, hlog, hports, hsignatures⟩
    obtain ⟨ports', hvalues, rfl⟩ := ports_iff.mpr hports
    exact ⟨⟨log, ports', signatures⟩, ⟨hlog, hvalues, hsignatures⟩, rfl⟩

theorem IsFileOf.length_eq {es : List Entry} (h : IsFileOf path es f) :
    es.length = f.log.toList.length + (es.filterMap Entry.ports?).length + f.signatures.length := by
  rw [Entry.length_eq, h.log, ← h.signatures.length_eq, List.length_zipIdx]

theorem parse_eq_error_iff :
    parse path content = .error e ↔
      addLines path ((Path.stem? path).getD "pattern") {} 1 (Text.lines content) = .error e := by
  rw [parse, bind_eq_error]
  refine ⟨fun h ↦ h.resolve_right ?_, Or.inl⟩
  rintro ⟨_, -, h⟩
  cases h

/-! ## The lines up to the first bad one -/

/-- Lines with a line feed behind each. -/
def fed (ls : List Text) : Text := ls.flatMap (· ++ "\n")

/-- The first lines of a text, with a line feed behind each. -/
def firstLines (n : Nat) (content : Text) : Text := fed ((Text.lines content).take n)

/-- Lines that are written with a line feed behind each are read back, up to blanks. -/
theorem map_trim_lines_fed {ls : List Text} (h : ∀ l ∈ ls, '\n' ∉ l) (rest : Text) :
    (Text.lines (fed ls ++ rest)).map Text.trim =
      ls.map Text.trim ++ (Text.lines rest).map Text.trim := by
  induction ls with
  | nil => rfl
  | cons l ls ih =>
    obtain ⟨hl, hls⟩ := List.forall_mem_cons.mp h
    have htext : fed (l :: ls) ++ rest = l ++ '\n' :: (fed ls ++ rest) := by
      rw [fed, List.flatMap_cons, List.append_assoc, List.append_assoc]
      rfl
    have hlines : Text.lines (l ++ '\n' :: (fed ls ++ rest)) =
        Text.dropReturn l :: Text.lines (fed ls ++ rest) := by
      rw [Text.lines, Text.lineRuns_append_cons hl]
      rfl
    rw [htext, hlines, List.map_cons, ih hls, Text.trim_dropReturn, List.map_cons, List.cons_append]

theorem map_trim_lines_firstLines (n : Nat) (content rest : Text) :
    (Text.lines (firstLines n content ++ rest)).map Text.trim =
      ((Text.lines content).take n ++ Text.lines rest).map Text.trim := by
  rw [firstLines, map_trim_lines_fed fun l hl ↦ ?_, List.map_append]
  exact Text.not_mem_of_mem_lines (List.mem_of_mem_take hl)

/-- **Strict files.** A file that cannot be read fails at its first bad line, and the failure names
the path and the number of that line: the lines before it make a file of their own, and whatever
stands behind it, the failure is the same. A file that can be read is the one that its entries make,
each of them in one place and none in two: the one log file, the one list of ports, or the next
signature, which is numbered among all signatures if it has no name of its own. -/
theorem parse_strict (path : Path) (content : Text) :
    (∀ e, parse path content = .error e → ∃ n reason, e = .badLine path n reason ∧
      0 < n ∧ n ≤ (Text.lines content).length ∧
      (∃ f, parse path (firstLines (n - 1) content) = .ok f) ∧
      ∀ rest, parse path (firstLines n content ++ rest) = .error e) ∧
    (∀ f, parse path content = .ok f ↔ IsFileOf path (entries content) f) ∧
    ∀ f, parse path content = .ok f → (entries content).length =
      f.log.toList.length + ((entries content).filterMap Entry.ports?).length +
        f.signatures.length := by
  refine ⟨fun e he ↦ ?_, fun f ↦ parse_eq_ok_iff, fun f hf ↦ (parse_eq_ok_iff.mp hf).length_eq⟩
  obtain ⟨front, raw, back, d, hlines, hfront, hraw⟩ :=
    addLines_eq_error (parse_eq_error_iff.mp he)
  obtain ⟨reason, hreason⟩ := addRaw_eq_error hraw
  have hbefore : (Text.lines content).take (1 + front.length - 1) = front := by
    rw [hlines, Nat.add_sub_cancel_left, List.take_left]
  have hupto : (Text.lines content).take (1 + front.length) = front ++ [raw] := by
    rw [hlines, Nat.add_comm, List.take_length_add_append]
    rfl
  refine ⟨1 + front.length, reason, hreason, by omega, ?_, ?_, fun rest ↦ ?_⟩
  · rw [hlines, List.length_append, List.length_cons]
    omega
  · have hsame := map_trim_lines_firstLines (1 + front.length - 1) content []
    rw [List.append_nil, hbefore, show Text.lines [] = [] from rfl, List.append_nil] at hsame
    rw [parse, addLines_congr hsame, hfront]
    exact ⟨_, rfl⟩
  · have hsame := map_trim_lines_firstLines (1 + front.length) content rest
    rw [hupto, List.append_assoc, List.singleton_append] at hsame
    rw [parse_eq_error_iff, addLines_congr hsame, addLines_append, hfront]
    show addLines path _ d (1 + front.length) (raw :: Text.lines rest) = _
    rw [addLines_cons, hraw]
    rfl

/-- A file with a pattern that is not closed on its third line. -/
private def unclosed : Text := "file = /var/log/auth.log\n\nfrom (__IP__\nports = ssh\n"

/-- A file that says everything a file may say. -/
private def logins : Text :=
  "# Logins\nfile = /var/log/auth.log\nports = ssh, 2222\n\n@root root from __IP__\nfrom __IP__\n"

theorem parse_strict_unclosed :
    parse "bad.patterns" unclosed = .error (.badLine "bad.patterns" 3 "invalid regex") ∧
    (∃ f, parse "bad.patterns" (firstLines 2 unclosed) = .ok f) ∧
    parse "bad.patterns" (firstLines 3 unclosed ++ "@") =
      .error (.badLine "bad.patterns" 3 "invalid regex") ∧
    ∃ f, parse "auth.patterns" logins = .ok f ∧ IsFileOf "auth.patterns" (entries logins) f ∧
      f.log = some "/var/log/auth.log" ∧ f.ports = ["ssh", "2222"] ∧
      f.signatures.map Signature.name = ["root", "auth-2"] ∧
      (entries logins).length = f.log.toList.length + 1 + f.signatures.length := by
  have hfail : parse "bad.patterns" unclosed =
      .error (.badLine "bad.patterns" 3 "invalid regex") := by decide +kernel
  obtain ⟨n, reason, heq, -, -, hbefore, hafter⟩ :=
    (parse_strict "bad.patterns" unclosed).1 _ hfail
  obtain ⟨-, rfl, rfl⟩ := Error.badLine.inj heq
  refine ⟨hfail, hbefore, hafter "@", ?_⟩
  obtain ⟨-, hfile, hlength⟩ := parse_strict "auth.patterns" logins
  have hvalues : (parse "auth.patterns" logins).toOption.map
      (fun f ↦ (f.log, f.ports, f.signatures.map Signature.name)) =
      some (some ("/var/log/auth.log" : Path), (["ssh", "2222"] : List Text),
        (["root", "auth-2"] : List Text)) := by decide +kernel
  have hports : ((entries logins).filterMap Entry.ports?).length = 1 := by decide +kernel
  rcases hread : parse "auth.patterns" logins with e | f
  · rw [hread] at hvalues
    cases hvalues
  · rw [hread] at hvalues
    obtain ⟨hlog, hpair⟩ := Prod.mk.inj (Option.some.inj hvalues)
    obtain ⟨hlisted, hnames⟩ := Prod.mk.inj hpair
    exact ⟨f, rfl, (hfile f).mp hread, hlog, hlisted, hnames, hports ▸ hlength f hread⟩

end PacketFilter.SignatureFile
