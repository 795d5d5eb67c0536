import PacketFilter.Proofs.Generator.Ending
import PacketFilter.Proofs.Generator.History

/-!
# Later runs absorb earlier ones

A run may end early and leave its directory half done, and it may be followed by one that does the
opposite. Neither matters to a later run on the same services in which nothing fails: the files are
then what that run alone would have made of the files at the start. So creating twice is creating
once, a run that was interrupted is completed by the next, and cleaning undoes what was created.

What an earlier run can do to a file is said by `Respects`: a file without the header line stays,
and whatever is new has one. A run in which nothing fails looks at that line only, so it decides
alike before and after, and what it makes of a file that it does not keep depends on the target
alone.
-/

namespace PacketFilter.Generator

variable {action : Action} {output : Path} {s t : Shelf}

theorem processed_run (action : Action) (output : Path) (hs : s.Ordered) {services : Registry}
    (hr : services.Plain) :
    ∃ t report, run action services output (s.withFaults {}) = ⟨t, .ok report⟩ ∧
      Processed action output (s.withFaults {}) (targets services) t := by
  have hs' : (s.withFaults {}).Ordered := Shelf.ordered_withFaults.mpr hs
  have hend := ending_run action output hs' hr
  generalize run action services output (s.withFaults {}) = outcome at hend ⊢
  cases hend with
  | refused h => exact absurd h.2 List.not_mem_nil
  | completed _ _ ht => exact ⟨_, _, rfl, ht⟩
  | stopped _ _ _ hx =>
    cases action with
    | create => exact absurd hx.2 List.not_mem_nil
    | clean => exact absurd hx.2.2 List.not_mem_nil

/-! ## One earlier run -/

theorem kept_withFaults_iff {p : Path} :
    Kept (s.withFaults {}) p ↔
      ∃ content, s.get? p = some content ∧ firstLine content ≠ Utf8.encode header := by
  refine exists_congr fun content ↦ and_congr_right fun _ ↦ or_iff_right List.not_mem_nil

variable {owned : Path → Prop}

/-- Earlier runs neither make a file that is kept nor lose one. -/
theorem Respects.kept_iff (h : Respects owned s t) {p : Path} :
    Kept (t.withFaults {}) p ↔ Kept (s.withFaults {}) p := by
  rw [kept_withFaults_iff, kept_withFaults_iff]
  constructor
  · rintro ⟨content, ht, hf⟩
    refine ⟨content, ?_, hf⟩
    by_contra hs
    exact hf (firstLine_of_headerLine (h.fresh ht hs))
  · rintro ⟨content, hs, hf⟩
    exact ⟨content, h.manual hs hf, hf⟩

theorem Respects.settled_eq (h : Respects owned s t) (x : Service × Direction) :
    settled action output (t.withFaults {}) x = settled action output (s.withFaults {}) x := by
  by_cases hk : Kept (s.withFaults {}) (targetPath output x)
  · rw [settled_of_kept hk, settled_of_kept (h.kept_iff.mpr hk)]
    obtain ⟨content, hs, hf⟩ := kept_withFaults_iff.mp hk
    exact (h.manual hs hf).trans hs.symm
  · cases action with
    | create => rw [settled_create hk, settled_create (h.kept_iff.not.mpr hk)]
    | clean => rw [settled_clean hk, settled_clean (h.kept_iff.not.mpr hk)]

/-- A run in which nothing fails makes the same of the files before and after an earlier run that
was about the same paths. -/
theorem Respects.files_run_eq (hs : s.Ordered) {services : Registry} (hr : services.Plain)
    (h : Respects (fun p ↦ ∃ x ∈ targets services, p = targetPath output x) s t) :
    (run action services output (t.withFaults {})).store.files =
      (run action services output (s.withFaults {})).store.files := by
  obtain ⟨u, _, hu, hprocessed⟩ := processed_run action output h.ordered hr
  obtain ⟨u', _, hu', hprocessed'⟩ := processed_run action output hs hr
  rw [hu, hu']
  refine Sorted.eq_of_find?_eq hprocessed.ordered hprocessed'.ordered fun p ↦ ?_
  show u.get? p = u'.get? p
  by_cases hp : ∃ x ∈ targets services, p = targetPath output x
  · obtain ⟨x, hx, rfl⟩ := hp
    rw [hprocessed.treated x hx, hprocessed'.treated x hx, h.settled_eq]
  · have hothers : ∀ x ∈ targets services, p ≠ targetPath output x :=
      fun x hx heq ↦ hp ⟨x, hx, heq⟩
    rw [hprocessed.untouched p hothers, hprocessed'.untouched p hothers]
    exact h.untouched hp

/-! ## Any number of earlier runs -/

theorem respects_carryOut (hs : s.Ordered) (j : Job) :
    Respects (fun p ↦ ∃ x ∈ targets j.services, p = targetPath j.output x) s
      (j.carryOut s).store := by
  have hrun := respects_run j.action j.services j.output
    (Shelf.ordered_withFaults (f := j.faults).mpr hs)
  refine hrun.of_withFaults.mono ?_
  rintro p ⟨service, hservice, d, rfl⟩
  exact ⟨(service, d), mem_targets.mpr hservice, rfl⟩

theorem ordered_filesAfter (hs : s.Ordered) (jobs : List Job) : (filesAfter jobs s).Ordered :=
  List.foldlRecOn (motive := Shelf.Ordered) jobs _ hs
    fun _ ht j _ ↦ (respects_carryOut ht j).ordered

/-- What any earlier runs on the same services and directory have done, whatever failed in each, is
absorbed by a run in which nothing fails: it reaches its end, and the files are those that it would
have left without them. -/
theorem filesAfter_absorbed (hs : s.Ordered) (texts : List Text) (output : Path) (action : Action)
    {jobs : List Job}
    (hjobs : ∀ j ∈ jobs, j.services = Registry.ofTexts texts ∧ j.output = output) :
    (run action (.ofTexts texts) output ((filesAfter jobs s).withFaults {})).store.files =
      (run action (.ofTexts texts) output (s.withFaults {})).store.files ∧
    ∃ report, (run action (.ofTexts texts) output ((filesAfter jobs s).withFaults {})).report =
      .ok report := by
  have hplain := Registry.plain_ofTexts texts
  constructor
  · induction jobs generalizing s with
    | nil => rfl
    | cons j jobs ih =>
      obtain ⟨⟨hservices, houtput⟩, hjobs⟩ := List.forall_mem_cons.mp hjobs
      have hfirst := respects_carryOut hs j
      rw [hservices, houtput] at hfirst
      exact (ih hfirst.ordered hjobs).trans (hfirst.files_run_eq hs hplain)
  · obtain ⟨t, report, hrun, -⟩ :=
      processed_run action output (ordered_filesAfter hs jobs) hplain
    exact ⟨report, by rw [hrun]⟩

/-- An old generated file and a rule written by hand. -/
private def oldShelf : Shelf where
  files := [("/out/ssh.incoming", headerLine), ("/out/ssh.outgoing", Utf8.encode "# mine\n")]

/-- A run that cannot read the old file and so leaves it, and one that can remove it. -/
private def oldJobs : List Job :=
  [{ action := .create, services := .ofTexts ["ssh 22/tcp"], output := "/out"
     faults := { unreadable := ["/out/ssh.incoming"] } },
    { action := .clean, services := .ofTexts ["ssh 22/tcp"], output := "/out" }]

theorem filesAfter_absorbed_old :
    oldShelf.Ordered ∧
      (∀ j ∈ oldJobs, j.services = Registry.ofTexts ["ssh 22/tcp"] ∧ j.output = "/out".toList) ∧
      (filesAfter oldJobs oldShelf).files.map Prod.fst = ["/out/ssh.outgoing".toList] ∧
      (run .create (.ofTexts ["ssh 22/tcp"]) "/out"
          ((filesAfter oldJobs oldShelf).withFaults {})).store.files =
        (run .create (.ofTexts ["ssh 22/tcp"]) "/out" (oldShelf.withFaults {})).store.files := by
  have hs : oldShelf.Ordered := by decide
  have hjobs : ∀ j ∈ oldJobs,
      j.services = Registry.ofTexts ["ssh 22/tcp"] ∧ j.output = "/out".toList := by
    intro j hj
    rcases List.mem_pair.mp hj with rfl | rfl <;> exact ⟨rfl, rfl⟩
  exact ⟨hs, hjobs, by decide, (filesAfter_absorbed hs ["ssh 22/tcp"] "/out" .create hjobs).1⟩

end PacketFilter.Generator
