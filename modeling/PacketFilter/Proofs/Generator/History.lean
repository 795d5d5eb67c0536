import PacketFilter.Proofs.Generator.Targets

/-!
# What a history of runs leaves alone

The generator shares its directory with rules that were written by hand. Losing one of them would
be silent, so the guarantee has to cover every history: any number of runs with either action, each
with a registry and a directory of its own, and each ending early wherever an operation fails.

## The invariant

`Respects owned s t` relates the store before and after: files without the header line are there as
they were, paths outside `owned` are untouched, and whatever is new starts with the header line.
The relation is reflexive and transitive, so it holds of a history as soon as it holds of what
happens to one target, which is a walk through the exits of `Exit`.

The third part carries the first over several runs. A file that was written by hand may be out of
reach of one run and within reach of the next, but it never becomes generated in between: what a
run leaves under its path is what stood there.
-/

namespace PacketFilter.Generator

/-! ## Histories -/

/-- One run of the generator, with what fails while it goes on. -/
structure Job where
  action : Action
  services : Registry
  output : Path
  faults : Shelf.Faults := {}

/-- The paths that a run is about. -/
def Job.IsTarget (j : Job) (p : Path) : Prop :=
  ∃ s ∈ j.services.services, ∃ d, p = pathFor j.output s.name d

/-- The run carried out on some files. -/
def Job.carryOut (j : Job) (s : Shelf) : Outcome Shelf :=
  run j.action j.services j.output (s.withFaults j.faults)

/-- The files after several runs. -/
def filesAfter (jobs : List Job) (s : Shelf) : Shelf :=
  jobs.foldl (fun s j ↦ (j.carryOut s).store) s

/-! ## The invariant -/

/-- What runs that are about the paths in `owned` may make of some files. -/
structure Respects (owned : Path → Prop) (s t : Shelf) : Prop where
  ordered : t.Ordered
  manual : ∀ {p content}, s.get? p = some content → firstLine content ≠ Utf8.encode header →
    t.get? p = some content
  untouched : ∀ {p}, ¬owned p → t.get? p = s.get? p
  fresh : ∀ {p content}, t.get? p = some content → s.get? p ≠ some content →
    headerLine <+: content

namespace Respects

variable {owned owned' : Path → Prop} {s t u : Shelf}

theorem refl (hs : s.Ordered) : Respects owned s s :=
  ⟨hs, fun h _ ↦ h, fun _ ↦ rfl, fun h hne ↦ absurd h hne⟩

theorem trans (h : Respects owned s t) (h' : Respects owned t u) : Respects owned s u where
  ordered := h'.ordered
  manual hp hf := h'.manual (h.manual hp hf) hf
  untouched ho := (h'.untouched ho).trans (h.untouched ho)
  fresh {p content} hu hs := by
    by_cases ht : t.get? p = some content
    · exact h.fresh ht hs
    · exact h'.fresh hu ht

theorem mono (h : Respects owned s t) (hle : ∀ p, owned p → owned' p) : Respects owned' s t where
  ordered := h.ordered
  manual := h.manual
  untouched ho := h.untouched fun hp ↦ ho (hle _ hp)
  fresh := h.fresh

theorem of_withFaults {f : Shelf.Faults} (h : Respects owned (s.withFaults f) t) :
    Respects owned s t := ⟨h.ordered, h.manual, h.untouched, h.fresh⟩

end Respects

/-! ## One target -/

variable {s t : Shelf} {p : Path} {content : Bytes}

/-- A file without the header line counts as written by hand, whether it can be read or not. -/
theorem isManual_of_firstLine_ne (hp : s.get? p = some content)
    (hf : firstLine content ≠ Utf8.encode header) : isManual s p = true :=
  isManual_iff.mpr ⟨content, hp, Or.inr hf⟩

private theorem respects_write (hs : s.Ordered) (hm : isManual s p = false)
    (hc : headerLine <+: content) (h : s.write p content = .ok t) :
    Respects (· = p) s t where
  ordered := Shelf.ordered_of_write hs h
  manual {q found} hq hf := by
    have hqp : q ≠ p := fun heq ↦ by
      rw [isManual_of_firstLine_ne (heq ▸ hq) hf] at hm
      exact Bool.noConfusion hm
    rw [Shelf.get?_of_write_of_ne h hqp]
    exact hq
  untouched hq := Shelf.get?_of_write_of_ne h hq
  fresh {q found} ht hne := by
    by_cases hqp : q = p
    · rw [hqp, Shelf.get?_of_write_self hs h] at ht
      exact Option.some_inj.mp ht ▸ hc
    · rw [Shelf.get?_of_write_of_ne h hqp] at ht
      exact absurd ht hne

private theorem respects_remove (hs : s.Ordered) (hm : isManual s p = false)
    (h : s.remove p = .ok t) : Respects (· = p) s t where
  ordered := Shelf.ordered_of_remove hs h
  manual {q found} hq hf := by
    have hqp : q ≠ p := fun heq ↦ by
      rw [isManual_of_firstLine_ne (heq ▸ hq) hf] at hm
      exact Bool.noConfusion hm
    rw [Shelf.get?_of_remove_of_ne h hqp]
    exact hq
  untouched hq := Shelf.get?_of_remove_of_ne h hq
  fresh {q found} ht hne := by
    by_cases hqp : q = p
    · rw [hqp, Shelf.get?_of_remove_self hs h] at ht
      exact absurd ht (by simp)
    · rw [Shelf.get?_of_remove_of_ne h hqp] at ht
      exact absurd ht hne

theorem respects_treat {action : Action} {output : Path} {report report' : Report}
    {service : Service} {d : Direction} (hs : s.Ordered)
    (h : treat action output s report (service, d) = .ok (t, report')) :
    Respects (· = pathFor output service.name d) s t := by
  have hexit := exit_treat action output s report service d
  rw [h] at hexit
  cases hexit with
  | skipped => exact .refl hs
  | written hm _ ht => exact respects_write hs hm (headerLine_prefix_fileText service d) ht
  | removed hm _ _ ht => exact respects_remove hs hm ht
  | absent => exact .refl hs

/-! ## Runs and histories -/

private theorem respects_treatAll (action : Action) (output : Path)
    (targets : List (Service × Direction)) {owned : Path → Prop}
    (ho : ∀ x ∈ targets, owned (pathFor output x.1.name x.2)) :
    ∀ {s : Shelf} (report : Report), s.Ordered →
      Respects owned s (treatAll action output s report targets).store := by
  induction targets with
  | nil => intro s report hs; exact .refl hs
  | cons x rest ih =>
    intro s report hs
    obtain ⟨service, d⟩ := x
    rw [treatAll]
    cases hx : treat action output s report (service, d) with
    | error cause => exact .refl hs
    | ok found =>
      obtain ⟨t, report'⟩ := found
      have hfirst : Respects owned s t :=
        (respects_treat hs hx).mono fun q hq ↦ hq ▸ ho _ List.mem_cons_self
      have hrest : ∀ x ∈ rest, owned (pathFor output x.1.name x.2) :=
        fun x hx ↦ ho x (List.mem_cons_of_mem _ hx)
      exact hfirst.trans (ih hrest report' hfirst.ordered)

theorem respects_run (action : Action) (services : Registry) (output : Path) (hs : s.Ordered) :
    Respects (Job.IsTarget ⟨action, services, output, {}⟩) s
      (run action services output s).store := by
  have ho : ∀ x ∈ targets services,
      Job.IsTarget ⟨action, services, output, {}⟩ (pathFor output x.1.name x.2) := by
    intro x hx
    rw [targets, List.mem_flatMap] at hx
    obtain ⟨service, hservice, hx⟩ := hx
    obtain ⟨d, -, rfl⟩ := List.mem_map.mp hx
    exact ⟨service, hservice, d, rfl⟩
  cases action with
  | clean => exact respects_treatAll _ _ _ ho _ hs
  | create =>
    rw [run, Shelf.createDirectory_eq]
    by_cases hc : output ∈ s.uncreatable
    · rw [if_pos hc]
      exact .refl hs
    · rw [if_neg hc]
      exact respects_treatAll _ _ _ ho _ hs

/-- **Nothing written by hand is lost.** Whatever runs are carried out one after the other, and
whatever fails in each: a file whose first line is not the header is there at the end as it was, a
path that no run is about is untouched, and every file that is new or changed starts with the
header line. -/
theorem respects_filesAfter {s : Shelf} (hs : s.Ordered) (jobs : List Job) :
    Respects (fun p ↦ ∃ j ∈ jobs, j.IsTarget p) s (filesAfter jobs s) := by
  induction jobs generalizing s with
  | nil => exact .refl hs
  | cons j jobs ih =>
    have hfirst : Respects j.IsTarget s (j.carryOut s).store :=
      (respects_run j.action j.services j.output
        (Shelf.ordered_withFaults.mpr hs)).of_withFaults
    refine Respects.trans (hfirst.mono fun p hp ↦ ⟨j, List.mem_cons_self, hp⟩) ?_
    refine (ih hfirst.ordered).mono ?_
    rintro p ⟨k, hk, hp⟩
    exact ⟨k, List.mem_cons_of_mem _ hk, hp⟩

/-- A rule written by hand beside a generated file, both for one service. -/
private def mixedShelf : Shelf where
  files :=
    [("/out/ssh.incoming", Utf8.encode "# mine\n"),
      ("/out/ssh.outgoing", Utf8.encode (header ++ "\n"))]

/-- A run that cannot write the generated file, and one that removes what it can. -/
private def mixedJobs : List Job :=
  [{ action := .create, services := .ofText "ssh 22/tcp", output := "/out"
     faults := { unwritable := ["/out/ssh.outgoing"] } },
    { action := .clean, services := .ofText "ssh 22/tcp", output := "/out" }]

theorem respects_filesAfter_mixed :
    mixedShelf.Ordered ∧
      Respects (fun p ↦ ∃ j ∈ mixedJobs, j.IsTarget p) mixedShelf
        (filesAfter mixedJobs mixedShelf) := by
  have hs : mixedShelf.Ordered := by decide
  exact ⟨hs, respects_filesAfter hs mixedJobs⟩

end PacketFilter.Generator
