import PacketFilter.Generator.Basic
import PacketFilter.Proofs.Files.Shelf

/-!
# The exits of one target

A run treats its targets one after the other, and each can end in six ways. `Exit` lists them with
everything that each says about the store and the report; whatever a run keeps is then proved by
going through the six, without looking at the code again.

The module also says what the header is good for: it is the first line of every generated file, and
`hasHeader` is the test of the first line against it. On a shelf, the files that a run never touches
are those that are `Kept`.
-/

namespace PacketFilter.Generator

/-! ## The header line -/

/-- The first line of some bytes, without the carriage return that may end it. -/
def firstLine (content : Bytes) : Bytes :=
  let line := content.takeWhile (· ≠ 10)
  if line.getLast? = some 13 then line.dropLast else line

/-- The header as the line of a file. -/
def headerLine : Bytes := Utf8.encode header ++ [10]

theorem hasHeader_iff {content : Bytes} :
    hasHeader content = true ↔ firstLine content = Utf8.encode header := by
  have hlast : (Utf8.encode header).getLast? ≠ some 13 := by decide
  simp only [hasHeader, firstLine, Bool.or_eq_true, decide_eq_true_eq]
  generalize content.takeWhile (· ≠ 10) = line
  by_cases h : line.getLast? = some 13
  · obtain ⟨start, rfl⟩ := List.getLast?_eq_some_iff.mp h
    rw [if_pos h, List.dropLast_concat, List.append_cancel_right_eq]
    refine ⟨fun hor ↦ hor.resolve_left fun heq ↦ hlast ?_, Or.inr⟩
    rw [← heq]
    exact h
  · rw [if_neg h]
    refine ⟨fun hor ↦ hor.resolve_right fun heq ↦ h ?_, Or.inl⟩
    rw [heq, List.getLast?_concat]

@[simp]
theorem encode_append (s t : Text) : Utf8.encode (s ++ t) = Utf8.encode s ++ Utf8.encode t :=
  List.flatMap_append

theorem headerLine_prefix_fileText (s : Service) (d : Direction) :
    headerLine <+: Utf8.encode (fileText s d) := by
  rw [fileText, fileLines, List.append_assoc, List.cons_append, List.flatMap_cons, encode_append,
    encode_append]
  exact ⟨_, rfl⟩

theorem firstLine_of_headerLine {content : Bytes} (h : headerLine <+: content) :
    firstLine content = Utf8.encode header := by
  have hfeed : ∀ b ∈ Utf8.encode header, decide (b ≠ 10) = true := by decide +kernel
  obtain ⟨rest, rfl⟩ := h
  refine hasHeader_iff.mp ?_
  rw [hasHeader, headerLine, List.append_assoc, List.takeWhile_append_of_pos hfeed,
    List.singleton_append, List.takeWhile_cons_of_neg (by decide), List.append_nil]
  simp

/-- There is a file that cannot be read or does not have the header as its first line. -/
def Kept (s : Shelf) (p : Path) : Prop :=
  ∃ content, s.get? p = some content ∧
    (p ∈ s.unreadable ∨ firstLine content ≠ Utf8.encode header)

theorem isManual_iff {s : Shelf} {p : Path} : isManual s p = true ↔ Kept s p := by
  have hpresent : FileStore.present s p = (s.get? p).isSome := rfl
  have hread : FileStore.read s p = s.read p := rfl
  rw [isManual, hpresent, hread, Kept, Shelf.read]
  cases s.get? p with
  | none => simp
  | some content =>
    by_cases hp : p ∈ s.unreadable
    · simp [hp]
    · simp [hp, ← Bool.not_eq_true, hasHeader_iff]

instance (s : Shelf) (p : Path) : Decidable (Kept s p) := decidable_of_iff _ isManual_iff

/-! ## What happens to a target -/

variable {σ : Type} [FileStore σ]

/-- The ways in which the treatment of the file `p`, whose generated text would be `content`, can
end: with a store and a report, or with a failure. -/
inductive Exit (action : Action) (p : Path) (content : Bytes) (store : σ) (report : Report) :
    Except Error (σ × Report) → Prop
  /-- The file was written by hand. -/
  | skipped (h : isManual store p = true) :
      Exit action p content store report
        (.ok (store, { report with skipped := report.skipped ++ [p] }))
  | written (h : isManual store p = false) (ha : action = .create) {t : σ}
      (ht : FileStore.write store p content = .ok t) :
      Exit action p content store report
        (.ok (t, { report with written := report.written ++ [p] }))
  | unwritable (h : isManual store p = false) (ha : action = .create) {cause : FileError}
      (hc : FileStore.write store p content = .error cause) :
      Exit action p content store report (.error (.file p cause))
  | removed (h : isManual store p = false) (ha : action = .clean)
      (hp : FileStore.present store p = true) {t : σ} (ht : FileStore.remove store p = .ok t) :
      Exit action p content store report
        (.ok (t, { report with removed := report.removed ++ [p] }))
  | unremovable (h : isManual store p = false) (ha : action = .clean)
      (hp : FileStore.present store p = true) {cause : FileError}
      (hc : FileStore.remove store p = .error cause) :
      Exit action p content store report (.error (.file p cause))
  /-- There is nothing to remove. -/
  | absent (h : isManual store p = false) (ha : action = .clean)
      (hp : FileStore.present store p = false) :
      Exit action p content store report (.ok (store, report))

theorem exit_treat (action : Action) (output : Path) (store : σ) (report : Report) (s : Service)
    (d : Direction) :
    Exit action (pathFor output s.name d) (Utf8.encode (fileText s d)) store report
      (treat action output store report (s, d)) := by
  simp only [treat]
  cases hm : isManual store (pathFor output s.name d) with
  | true => exact .skipped hm
  | false =>
    cases action with
    | create =>
      cases hw : FileStore.write store (pathFor output s.name d) (Utf8.encode (fileText s d)) with
      | ok t => exact .written hm rfl hw
      | error cause => exact .unwritable hm rfl hw
    | clean =>
      cases hp : FileStore.present store (pathFor output s.name d) with
      | false => exact .absent hm rfl hp
      | true =>
        cases hr : FileStore.remove store (pathFor output s.name d) with
        | ok t => exact .removed hm rfl hp hr
        | error cause => exact .unremovable hm rfl hp hr

end PacketFilter.Generator
