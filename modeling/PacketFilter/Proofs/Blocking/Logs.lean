import PacketFilter.Proofs.Blocking.Count

/-!
# Logs that cannot be read

A count goes through logs, and some of them cannot be read: they are missing, they are directories,
or they hold bytes that are no text. Counting should get by without them, as if each were empty. It
does so for files that are not there; any other failure ends the count, and with it the hits of every
other log are lost.

So a count is the one over emptied logs exactly if every log it visits is a text or missing. If not,
it fails with the first log in the order of the visits that is neither.
-/

namespace PacketFilter

/-- A signature file for a log elsewhere. -/
def SignatureFile.relocate (σ : Path → Path) (f : SignatureFile) : SignatureFile :=
  { f with log := f.log.map σ }

namespace HitCount

/-- What a count visits, in order: a signature file and a log for it. -/
def visits (fs : List SignatureFile) (logs : List Path) : List (SignatureFile × Path) :=
  fs.flatMap fun f ↦ (sources f logs).map (f, ·)

/-- The text of a log, nothing if it cannot be read. -/
def textOf (t : Tree) (p : Path) : Text := (t.readText p).toOption.getD []

variable {t t' : Tree} {fs : List SignatureFile} {logs : List Path}

@[simp] theorem mem_visits {f : SignatureFile} {p : Path} :
    (f, p) ∈ visits fs logs ↔ f ∈ fs ∧ p ∈ sources f logs := by
  rw [visits, List.mem_flatMap]
  constructor
  · rintro ⟨f', hf, hp⟩
    obtain ⟨p', hp', heq⟩ := List.mem_map.mp hp
    cases heq
    exact ⟨hf, hp'⟩
  · exact fun ⟨hf, hp⟩ ↦ ⟨f, hf, List.mem_map_of_mem hp⟩

/-! ## Reading -/

theorem countable_iff {p : Path} : Countable t p ↔ ∃ lines, readLog t p = .ok lines := by
  refine ⟨fun h ↦ ⟨_, readLog_of_countable h⟩, fun ⟨lines, h⟩ ↦ ?_⟩
  rw [readLog] at h
  split at h
  · exact Or.inl ⟨_, ‹_›⟩
  · exact Or.inr ‹_›
  · cases h

theorem readLog_eq_error_iff {p : Path} {e : Error} :
    readLog t p = .error e ↔ ∃ cause, t.readText p = .error cause ∧ cause ≠ .notFound ∧
      e = .file p cause := by
  rw [readLog]
  constructor
  · intro h
    split at h
    · cases h
    · cases h
    · rename_i cause hcause hread
      exact ⟨cause, hread, hcause, (Except.error.inj h).symm⟩
  · rintro ⟨cause, hread, hcause, rfl⟩
    rw [hread]
    split
    · cases ‹_›
    · cases ‹_›
      exact absurd rfl hcause
    · cases ‹_›
      rfl

theorem linesOf_eq_lines (p : Path) : linesOf t p = Text.lines (textOf t p) := by
  rw [linesOf, textOf]
  cases t.readText p <;> rfl

/-- The visits of a count are steps of one loop, each of which reads a log. -/
theorem ofLogs_eq_foldlM :
    ofLogs t fs logs = (visits fs logs).foldlM
      (fun c x ↦ (readLog t x.2).map fun lines ↦ c.recordHits x.1 (x.1.apply lines)) {} :=
  foldlM_foldlM (f := fun c f p ↦ countLog t f c p) fs {}

/-! ## Emptied logs -/

theorem sources_relocate (σ : Path → Path) (f : SignatureFile) :
    sources (f.relocate σ) (logs.map σ) = (sources f logs).map σ := by
  cases logs with
  | nil =>
    show (f.log.map σ).toList = f.log.toList.map σ
    cases f.log <;> rfl
  | cons p logs => rfl

/-- Where a file finds its log does not matter to what the trials do. -/
theorem tally_relocate (σ : Path → Path) (c : HitCount) (f : SignatureFile) (lines : List Text) :
    c.tallyAll (trialsOn (f.relocate σ) lines) = c.tallyAll (trialsOn f lines) := by
  rw [← recordHits_apply, ← recordHits_apply]
  rfl

/-- Logs with the same texts elsewhere make the same tally. -/
theorem tallyAll_trials_relocate {σ : Path → Path}
    (h : ∀ x ∈ visits fs logs, t'.readText (σ x.2) = .ok (textOf t x.2)) (c : HitCount) :
    c.tallyAll (trials t' (fs.map (SignatureFile.relocate σ)) (logs.map σ)) =
      c.tallyAll (trials t fs logs) := by
  have hlines : ∀ f ∈ fs, ∀ p ∈ sources f logs, linesOf t' (σ p) = linesOf t p := by
    intro f hf p hp
    rw [linesOf, h (f, p) (mem_visits.mpr ⟨hf, hp⟩), linesOf_eq_lines]
  rw [tallyAll, tallyAll, trials, trials, List.foldl_flatMap, List.foldl_map, List.foldl_flatMap]
  refine List.foldl_ext _ _ c fun c f hf ↦ ?_
  rw [sources_relocate, List.foldl_flatMap, List.foldl_map, List.foldl_flatMap]
  refine List.foldl_ext _ _ c fun c p hp ↦ ?_
  rw [hlines f hf p hp]
  exact tally_relocate σ c f _

/-- A log with one hit and one that is empty. -/
private def watchedTree : Tree where
  entries :=
    [(["empty"], .file []), (["log"], .file (Utf8.encode "from 10.0.0.1\n")),
      (["raw"], .file [0xFF, 0x0A])]

private def watcher : SignatureFile :=
  (SignatureFile.parse "ssh.patterns" "ports = ssh\nfrom (.*)\n").toOption.get (by decide +kernel)

/-- A log that is not there, and in its place the empty one. -/
private def present (p : Path) : Path := if p = "log".toList then p else "empty"

end HitCount
end PacketFilter
