import PacketFilter.Proofs.Generator.Paths
import PacketFilter.Proofs.Generator.Targets

/-!
# How a run ends

A run treats its targets one by one, and an operation that fails stops it. What it leaves behind can
nevertheless be said without following it: everything depends on the files as they were at first.
`Kept` says which of them the run does not touch, `Blocked` on which target it stops, `settled` what
is under the path of a target that it has treated, and `account` what its report lists.

## Why the start is enough

Each step changes the store, and the next one looks at the changed store. But it looks under one
path only, and that path is no other target's. So what a run has done so far is `Processed`: the
targets behind it are settled, and every other path holds what it held at first, those of the
targets ahead of it among them. One step extends this by its own target or stops, and a run is a
sequence of such steps.
-/

namespace PacketFilter.Generator

/-! ## What the start decides -/

variable (action : Action) (output : Path) (s : Shelf)

/-- A run stops on a target whose file has to be written or removed and cannot be. -/
def Blocked (x : Service × Direction) : Prop :=
  ¬Kept s (targetPath output x) ∧
    match action with
    | .create => targetPath output x ∈ s.unwritable
    | .clean => (s.get? (targetPath output x)).isSome ∧ targetPath output x ∈ s.unremovable

/-- A run that creates files needs the directory first. -/
def Refused : Prop := action = .create ∧ output ∈ s.uncreatable

/-- What is under the path of a target once it has been treated. -/
def settled (x : Service × Direction) : Option Bytes :=
  if Kept s (targetPath output x) then s.get? (targetPath output x)
  else
    match action with
    | .create => some (Utf8.encode (fileText x.1 x.2))
    | .clean => none

/-- The report on the files under some paths. Files that are kept are listed as skipped; creating
writes all others, and cleaning removes those others that are there. -/
def account (paths : List Path) : Report :=
  match action with
  | .create =>
    { written := paths.filter fun p ↦ ¬Kept s p
      skipped := paths.filter fun p ↦ Kept s p }
  | .clean =>
    { removed := paths.filter fun p ↦ (s.get? p).isSome ∧ ¬Kept s p
      skipped := paths.filter fun p ↦ Kept s p }

/-- The targets in `done` have been treated, and nothing else has happened. -/
structure Processed (done : List (Service × Direction)) (t : Shelf) : Prop where
  ordered : t.Ordered
  faults : t.faults = s.faults
  treated : ∀ x ∈ done, t.get? (targetPath output x) = settled action output s x
  untouched : ∀ p, (∀ x ∈ done, p ≠ targetPath output x) → t.get? p = s.get? p

/-- The ways in which a run over some targets ends. The start decides which of them it is. -/
inductive Ending (targets : List (Service × Direction)) : Outcome Shelf → Prop
  /-- The directory cannot be created, and nothing happens. -/
  | refused (h : Refused action output s) : Ending targets ⟨s, .error (.file output .denied)⟩
  /-- All targets have been treated, and the report accounts for each. -/
  | completed {t : Shelf} (h : ¬Refused action output s)
      (hall : ∀ x ∈ targets, ¬Blocked action output s x)
      (ht : Processed action output s targets t) :
      Ending targets ⟨t, .ok (account action s (targets.map (targetPath output)))⟩
  /-- The run has stopped on `x`, the first target on which it has to. Those before it have been
  treated, and `x` and all others are as they were. -/
  | stopped {before after : List (Service × Direction)} {x : Service × Direction} {t : Shelf}
      (h : ¬Refused action output s) (hsplit : targets = before ++ x :: after)
      (hbefore : ∀ y ∈ before, ¬Blocked action output s y)
      (hx : Blocked action output s x) (ht : Processed action output s before t)
      (hafter : ∀ y ∈ x :: after, t.get? (targetPath output y) = s.get? (targetPath output y)) :
      Ending targets ⟨t, .error (.file (targetPath output x) .denied)⟩

/-! ## One step -/

variable {action output s} {t u : Shelf} {done : List (Service × Direction)}
  {x : Service × Direction}

theorem kept_congr {p : Path} (hget : t.get? p = s.get? p) (hfaults : t.faults = s.faults) :
    Kept t p ↔ Kept s p := by
  have hunreadable : t.unreadable = s.unreadable := congrArg Shelf.Faults.unreadable hfaults
  rw [Kept, Kept, hget, hunreadable]

theorem processed_nil (action : Action) (output : Path) (hs : s.Ordered) :
    Processed action output s [] s :=
  ⟨hs, rfl, fun _ hx ↦ absurd hx List.not_mem_nil, fun _ _ ↦ rfl⟩

theorem settled_of_kept (h : Kept s (targetPath output x)) :
    settled action output s x = s.get? (targetPath output x) := if_pos h

theorem settled_create (h : ¬Kept s (targetPath output x)) :
    settled .create output s x = some (Utf8.encode (fileText x.1 x.2)) := if_neg h

theorem settled_clean (h : ¬Kept s (targetPath output x)) : settled .clean output s x = none :=
  if_neg h

/-! ### The report -/

variable {paths : List Path} {p : Path}

@[simp] theorem account_nil : account action s [] = {} := by cases action <;> rfl

theorem account_concat_of_kept (h : Kept s p) :
    account action s (paths ++ [p]) =
      { account action s paths with skipped := (account action s paths).skipped ++ [p] } := by
  cases action <;> simp [account, List.filter_append, h]

theorem account_create_concat (h : ¬Kept s p) :
    account .create s (paths ++ [p]) =
      { account .create s paths with written := (account .create s paths).written ++ [p] } := by
  simp [account, List.filter_append, h]

theorem account_clean_concat (h : ¬Kept s p) (hp : (s.get? p).isSome) :
    account .clean s (paths ++ [p]) =
      { account .clean s paths with removed := (account .clean s paths).removed ++ [p] } := by
  simp [account, List.filter_append, h, hp]

theorem account_clean_concat_of_absent (h : ¬Kept s p) (hp : s.get? p = none) :
    account .clean s (paths ++ [p]) = account .clean s paths := by
  simp [account, List.filter_append, h, hp]

/-! ### The store -/

section

variable (ht : Processed action output s done t)
  (hx : ∀ y ∈ done, targetPath output y ≠ targetPath output x)

include ht hx

theorem Processed.get?_next : t.get? (targetPath output x) = s.get? (targetPath output x) :=
  ht.untouched _ fun y hy ↦ (hx y hy).symm

theorem Processed.isManual_next_iff :
    isManual t (targetPath output x) = true ↔ Kept s (targetPath output x) :=
  isManual_iff.trans (kept_congr (ht.get?_next hx) ht.faults)

/-- A target is settled by an operation that changes nothing but its file. -/
theorem Processed.concat (hu : u.Ordered) (hfaults : u.faults = t.faults)
    (hself : u.get? (targetPath output x) = settled action output s x)
    (hothers : ∀ p, p ≠ targetPath output x → u.get? p = t.get? p) :
    Processed action output s (done ++ [x]) u where
  ordered := hu
  faults := hfaults.trans ht.faults
  treated y hy := by
    rcases List.mem_append.mp hy with hy | hy
    · rw [hothers _ (hx y hy), ht.treated y hy]
    · rw [List.mem_singleton.mp hy, hself]
  untouched p hp := by
    rw [hothers p (hp x (by simp)), ht.untouched p fun y hy ↦ hp y (List.mem_append_left _ hy)]

/-- A target whose file is as it should be needs no operation. -/
theorem Processed.concat_self
    (h : settled action output s x = s.get? (targetPath output x)) :
    Processed action output s (done ++ [x]) t :=
  ht.concat hx ht.ordered rfl (by rw [h, ht.get?_next hx]) fun _ _ ↦ rfl

end

theorem Processed.concat_write (ht : Processed .create output s done t)
    (hx : ∀ y ∈ done, targetPath output y ≠ targetPath output x)
    (hk : ¬Kept s (targetPath output x))
    (hw : t.write (targetPath output x) (Utf8.encode (fileText x.1 x.2)) = .ok u) :
    Processed .create output s (done ++ [x]) u := by
  refine ht.concat hx (Shelf.ordered_of_write ht.ordered hw) (Shelf.faults_of_write hw) ?_
    fun _ ↦ Shelf.get?_of_write_of_ne hw
  rw [settled_create hk, Shelf.get?_of_write_self ht.ordered hw]

theorem Processed.concat_remove (ht : Processed .clean output s done t)
    (hx : ∀ y ∈ done, targetPath output y ≠ targetPath output x)
    (hk : ¬Kept s (targetPath output x)) (hr : t.remove (targetPath output x) = .ok u) :
    Processed .clean output s (done ++ [x]) u := by
  refine ht.concat hx (Shelf.ordered_of_remove ht.ordered hr) (Shelf.faults_of_remove hr) ?_
    fun _ ↦ Shelf.get?_of_remove_of_ne hr
  rw [settled_clean hk, Shelf.get?_of_remove_self ht.ordered hr]

/-- What the treatment of the next target comes to, in terms of the start. -/
theorem treat_of_processed (ht : Processed action output s done t)
    (hx : ∀ y ∈ done, targetPath output y ≠ targetPath output x) :
    (Blocked action output s x ∧
      treat action output t (account action s (done.map (targetPath output))) x =
        .error (.file (targetPath output x) .denied)) ∨
    (¬Blocked action output s x ∧ ∃ u, Processed action output s (done ++ [x]) u ∧
      treat action output t (account action s (done.map (targetPath output))) x =
        .ok (u, account action s ((done ++ [x]).map (targetPath output)))) := by
  have hget := ht.get?_next hx
  have hmanual := ht.isManual_next_iff hx
  have hnot : isManual t (targetPath output x) = false → ¬Kept s (targetPath output x) :=
    fun hm hk ↦ by simp [hmanual.mpr hk] at hm
  have hunwritable : t.unwritable = s.unwritable := congrArg Shelf.Faults.unwritable ht.faults
  have hunremovable : t.unremovable = s.unremovable := congrArg Shelf.Faults.unremovable ht.faults
  have hexit := exit_treat action output t (account action s (done.map (targetPath output))) x.1 x.2
  change Exit action (targetPath output x) _ _ _ (treat action output t _ x) at hexit
  rw [List.map_append, List.map_singleton]
  generalize treat action output t (account action s (done.map (targetPath output))) x = result
    at hexit ⊢
  cases hexit with
  | skipped hm =>
    have hk := hmanual.mp hm
    exact Or.inr ⟨fun hb ↦ hb.1 hk, t, ht.concat_self hx (settled_of_kept hk),
      by rw [account_concat_of_kept hk]⟩
  | written hm ha hw =>
    subst ha
    have hwritable := Shelf.not_mem_unwritable_of_write hw
    rw [hunwritable] at hwritable
    exact Or.inr ⟨fun hb ↦ hwritable hb.2, _, ht.concat_write hx (hnot hm) hw,
      by rw [account_create_concat (hnot hm)]⟩
  | unwritable hm ha hc =>
    subst ha
    obtain ⟨hwritable, rfl⟩ := Shelf.write_eq_error_iff.mp hc
    rw [hunwritable] at hwritable
    exact Or.inl ⟨⟨hnot hm, hwritable⟩, rfl⟩
  | removed hm ha hp hr =>
    subst ha
    have hremovable := Shelf.not_mem_unremovable_of_remove hp hr
    rw [hunremovable] at hremovable
    exact Or.inr ⟨fun hb ↦ hremovable hb.2.2, _, ht.concat_remove hx (hnot hm) hr,
      by rw [account_clean_concat (hnot hm) (hget ▸ hp)]⟩
  | unremovable hm ha hp hc =>
    subst ha
    obtain ⟨hremovable, rfl⟩ := (Shelf.remove_eq_error_iff hp).mp hc
    rw [hunremovable] at hremovable
    exact Or.inl ⟨⟨hnot hm, hget ▸ hp, hremovable⟩, rfl⟩
  | absent hm ha hp =>
    subst ha
    have habsent : s.get? (targetPath output x) = none :=
      hget ▸ Option.not_isSome_iff_eq_none.mp (Bool.eq_false_iff.mp hp)
    have hsettled : settled .clean output s x = s.get? (targetPath output x) := by
      rw [settled_clean (hnot hm), habsent]
    refine Or.inr ⟨fun hb ↦ ?_, t, ht.concat_self hx hsettled,
      by rw [account_clean_concat_of_absent (hnot hm) habsent]⟩
    exact absurd habsent (Option.isSome_iff_ne_none.mp hb.2.1)

/-! ## A whole run -/

/-- The rest of a run, from where the targets in `done` have been treated. -/
private theorem ending_treatAll {targets rest : List (Service × Direction)}
    (hnodup : (targets.map (targetPath output)).Nodup) (hsplit : targets = done ++ rest)
    (h : ¬Refused action output s) (hdone : ∀ y ∈ done, ¬Blocked action output s y)
    (ht : Processed action output s done t) :
    Ending action output s targets
      (treatAll action output t (account action s (done.map (targetPath output))) rest) := by
  induction rest generalizing done t with
  | nil =>
    rw [List.append_nil] at hsplit
    subst hsplit
    exact .completed h hdone ht
  | cons x rest ih =>
    have hapart : ∀ y ∈ done, ∀ z ∈ x :: rest, targetPath output y ≠ targetPath output z := by
      rw [hsplit, List.map_append] at hnodup
      intro y hy z hz heq
      exact List.disjoint_of_nodup_append hnodup (List.mem_map_of_mem hy)
        (heq ▸ List.mem_map_of_mem hz)
    rw [treatAll]
    rcases treat_of_processed ht fun y hy ↦ hapart y hy x List.mem_cons_self with
      ⟨hx, htreat⟩ | ⟨hx, u, hu, htreat⟩
    · rw [htreat]
      exact .stopped h hsplit hdone hx ht fun z hz ↦
        ht.untouched _ fun y hy ↦ (hapart y hy z hz).symm
    · rw [htreat]
      refine ih (by rw [hsplit, List.append_assoc, List.singleton_append]) (fun y hy ↦ ?_) hu
      rcases List.mem_append.mp hy with hy | hy
      · exact hdone y hy
      · rwa [List.mem_singleton.mp hy]

theorem ending_run (action : Action) (output : Path) (hs : s.Ordered) {services : Registry}
    (hr : services.Plain) :
    Ending action output s (targets services) (run action services output s) := by
  have hnodup := nodup_map_targetPath hr output
  have hrest : ¬Refused action output s → Ending action output s (targets services)
      (treatAll action output s {} (targets services)) := by
    intro h
    have hall := ending_treatAll hnodup rfl h (fun _ hx ↦ absurd hx List.not_mem_nil)
      (processed_nil action output hs)
    rwa [List.map_nil, account_nil] at hall
  cases action with
  | clean => exact hrest fun h ↦ Action.noConfusion h.1
  | create =>
    rw [run, Shelf.createDirectory_eq]
    by_cases hc : output ∈ s.uncreatable
    · rw [if_pos hc]
      exact .refused ⟨rfl, hc⟩
    · rw [if_neg hc]
      exact hrest fun h ↦ hc h.2

/-- A run goes through its targets in the order of the services' names, incoming before outgoing,
and no two of them have one path. It ends in one of the three ways of `Ending`: refused at the
directory, completed with every target treated and accounted for, or stopped at the first target
that cannot be written or removed, with all before it done and all from it on as they were. -/
theorem run_ends {s : Shelf} (hs : s.Ordered) (texts : List Text) (action : Action)
    (output : Path) :
    (targets (.ofTexts texts)).Pairwise Precedes ∧
    (∀ x, x ∈ targets (.ofTexts texts) ↔ x.1 ∈ (Registry.ofTexts texts).services) ∧
    ((targets (.ofTexts texts)).map (targetPath output)).Nodup ∧
    Ending action output s (targets (.ofTexts texts)) (run action (.ofTexts texts) output s) := by
  have hplain := Registry.plain_ofTexts texts
  exact ⟨pairwise_targets hplain.toSound, fun _ ↦ mem_targets, nodup_map_targetPath hplain output,
    ending_run action output hs hplain⟩

/-- A file that was written by hand, a file that can be written anew, and one that cannot. -/
private def halfShelf : Shelf where
  files := [("/out/echo.incoming", Utf8.encode "# mine\n"), ("/out/ssh.incoming", headerLine)]
  unwritable := ["/out/ssh.outgoing"]

private def halfTexts : List Text := ["ssh 22/tcp\necho 7/tcp"]

/-- The run stops at the last of its four targets, with the two in the middle written. -/
theorem run_ends_halfway :
    halfShelf.Ordered ∧
      Ending .create "/out" halfShelf (targets (.ofTexts halfTexts))
        (run .create (.ofTexts halfTexts) "/out" halfShelf) ∧
      (run .create (.ofTexts halfTexts) "/out" halfShelf).report =
        .error (.file "/out/ssh.outgoing" .denied) ∧
      (run .create (.ofTexts halfTexts) "/out" halfShelf).store.files.map Prod.fst =
        ["/out/echo.incoming".toList, "/out/echo.outgoing".toList, "/out/ssh.incoming".toList] := by
  have hs : halfShelf.Ordered := by decide
  exact ⟨hs, (run_ends hs halfTexts .create "/out").2.2.2, by decide, by decide⟩

end PacketFilter.Generator
