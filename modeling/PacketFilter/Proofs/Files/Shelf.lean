import PacketFilter.Files.Store
import PacketFilter.Proofs.Sorted

/-!
# Laws of the plain store

A shelf stands for a map from paths to bytes while its paths ascend. What an operation does is said
here through that map alone: a file that is written or removed changes under its own path and
nowhere else, and a failed operation returns no shelf at all, so that nothing is lost by it.

Which operations fail is part of the shelf, and no operation changes it. A history of runs may
nevertheless meet other failures in every run; `withFaults` puts them in place between two runs
without touching a file.
-/

namespace PacketFilter.Shelf

/-- The paths ascend, so that the shelf is a map. -/
def Ordered (s : Shelf) : Prop := Sorted.Ascending Text.compare s.files

instance (s : Shelf) : Decidable s.Ordered :=
  inferInstanceAs (Decidable (Sorted.Ascending Text.compare s.files))

/-- The paths on which operations fail. -/
structure Faults where
  unreadable : List Path := []
  unwritable : List Path := []
  unremovable : List Path := []
  uncreatable : List Path := []

/-- What fails on a shelf. -/
def faults (s : Shelf) : Faults := ⟨s.unreadable, s.unwritable, s.unremovable, s.uncreatable⟩

/-- The same files with other failures. -/
def withFaults (s : Shelf) (f : Faults) : Shelf :=
  { s with
    unreadable := f.unreadable
    unwritable := f.unwritable
    unremovable := f.unremovable
    uncreatable := f.uncreatable }

@[simp] theorem ordered_withFaults {s : Shelf} {f : Faults} :
    (s.withFaults f).Ordered ↔ s.Ordered := Iff.rfl

/-! ## Changing -/

/-- An operation that fails on some paths is denied there and nowhere else. -/
private theorem guard_eq_error_iff {α : Type} {c : Prop} [Decidable c] {t : α}
    {cause : FileError} :
    (if c then .error .denied else .ok t) = (.error cause : Except FileError α) ↔
      c ∧ cause = .denied := by
  by_cases h : c
  · rw [if_pos h, Except.error.injEq, eq_comm]
    exact ⟨fun heq ↦ ⟨h, heq⟩, And.right⟩
  · rw [if_neg h]
    exact ⟨fun heq ↦ (by cases heq), fun hc ↦ absurd hc.1 h⟩

section Write

variable {s t : Shelf} {p : Path} {content : Bytes}

private theorem files_of_write (h : s.write p content = .ok t) :
    t.files = Sorted.insert Text.compare p content s.files := by
  rw [write] at h
  split at h
  · cases h
  · rw [← Except.ok.inj h]

theorem write_eq_error_iff {cause : FileError} :
    s.write p content = .error cause ↔ p ∈ s.unwritable ∧ cause = .denied := guard_eq_error_iff

theorem not_mem_unwritable_of_write (h : s.write p content = .ok t) : p ∉ s.unwritable := by
  intro hp
  rw [write_eq_error_iff.mpr ⟨hp, rfl⟩] at h
  cases h

theorem faults_of_write (h : s.write p content = .ok t) : t.faults = s.faults := by
  rw [write, if_neg (not_mem_unwritable_of_write h)] at h
  rw [← Except.ok.inj h, faults, faults]

theorem ordered_of_write (hs : s.Ordered) (h : s.write p content = .ok t) : t.Ordered := by
  rw [Ordered, files_of_write h]
  exact Sorted.ascending_update hs _ _

theorem get?_of_write_self (hs : s.Ordered) (h : s.write p content = .ok t) :
    t.get? p = some content := by
  rw [get?, files_of_write h]
  exact Sorted.find?_update_self hs _ _

theorem get?_of_write_of_ne (h : s.write p content = .ok t) {q : Path} (hq : q ≠ p) :
    t.get? q = s.get? q := by
  rw [get?, files_of_write h]
  exact Sorted.find?_update_of_ne _ hq _

end Write

section Remove

variable {s t : Shelf} {p : Path}

private theorem files_of_remove (h : s.remove p = .ok t) :
    t.files = Sorted.erase Text.compare p s.files := by
  rw [remove] at h
  split at h
  · cases h
  · split at h
    · cases h
    · rw [← Except.ok.inj h]

theorem remove_eq_error_iff (hp : (s.get? p).isSome) {cause : FileError} :
    s.remove p = .error cause ↔ p ∈ s.unremovable ∧ cause = .denied := by
  rw [remove, Option.isNone_eq_false_iff.mpr hp]
  exact guard_eq_error_iff

theorem not_mem_unremovable_of_remove (hp : (s.get? p).isSome) (h : s.remove p = .ok t) :
    p ∉ s.unremovable := by
  intro hmem
  rw [(remove_eq_error_iff hp).mpr ⟨hmem, rfl⟩] at h
  cases h

theorem faults_of_remove (h : s.remove p = .ok t) : t.faults = s.faults := by
  rw [remove] at h
  split at h
  · cases h
  · split at h
    · cases h
    · rw [← Except.ok.inj h, faults, faults]

theorem ordered_of_remove (hs : s.Ordered) (h : s.remove p = .ok t) : t.Ordered := by
  rw [Ordered, files_of_remove h]
  exact Sorted.ascending_erase hs _

theorem get?_of_remove_self (hs : s.Ordered) (h : s.remove p = .ok t) : t.get? p = none := by
  rw [get?, files_of_remove h]
  exact Sorted.find?_erase_self hs _

theorem get?_of_remove_of_ne (h : s.remove p = .ok t) {q : Path} (hq : q ≠ p) :
    t.get? q = s.get? q := by
  rw [get?, files_of_remove h]
  exact Sorted.find?_erase_of_ne _ hq

end Remove

/-- Creating a directory touches no file, whether it succeeds or not. -/
theorem createDirectory_eq (s : Shelf) (p : Path) :
    FileStore.createDirectory s p =
      (s, if p ∈ s.uncreatable then .error .denied else .ok ()) := rfl

end PacketFilter.Shelf
