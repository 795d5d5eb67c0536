import PacketFilter.Generator.Lock
import PacketFilter.Proofs.Files.Tree

/-!
# What a lock protects

A run locks a directory through a file whose place is worked out from the spelling of the directory's
path. If the path ends in a name, the file stands beside the directory under that name; if it ends in
`.`, `..` or the root, there is no name to use and the file stands inside. So the *subject* of a lock
is the directory together with the way it was spelled, and two locks exclude each other exactly if
their files are one:

* both paths end in a name, or neither does, and the directories are one;
* one path ends in no name, and the other is that of the entry `make-rules` in its directory.

Slashes, `.` and `..` anywhere before the end make no difference. But a directory whose path ends in
its name and the same directory reached through `..` do not exclude each other, and a directory
reached through `..` does exclude another one.

What is held changes only by acquiring and releasing, so it is enough to follow the guards through
the steps of a session. Every guard's lock is where its subject says, and no two guards exclude each
other.
-/

namespace PacketFilter.Lock

/-! ## Subjects -/

/-- What a lock is for: a directory, and whether the path that was given for it ends in a name. -/
structure Subject where
  directory : Location
  named : Bool
  deriving DecidableEq, Repr

/-- The name whose lock file is called as the one inside a directory. -/
def insideName : Text := "make-rules"

/-- The name of the lock file of a name. -/
def fileNameOf (name : Text) : Text := "." ++ name ++ ".lock"

namespace Subject

/-- What a path given to a run stands for. -/
def of (t : Tree) (dir : Path) : Subject := ⟨t.nominal dir, (Path.fileName? dir).isSome⟩

/-- A directory that is called by its name has one. -/
def Proper (x : Subject) : Prop := x.named = true → x.directory ≠ []

/-- Where the lock file of a directory is. -/
def file (x : Subject) : Location :=
  if x.named then x.directory.dropLast ++ [fileNameOf (x.directory.getLast?.getD [])]
  else x.directory ++ [fileNameOf insideName]

/-- The lock file beside one directory is the one inside the other. -/
def Crosses (x y : Subject) : Prop :=
  x.named = true ∧ y.named = false ∧ x.directory = y.directory ++ [insideName]

/-- Only one of two runs can have its lock. -/
def Excludes (x y : Subject) : Prop :=
  x.directory = y.directory ∧ x.named = y.named ∨ x.Crosses y ∨ y.Crosses x

instance (x y : Subject) : Decidable (x.Crosses y) :=
  inferInstanceAs (Decidable (_ ∧ _ ∧ _))

instance (x y : Subject) : Decidable (x.Excludes y) :=
  inferInstanceAs (Decidable (_ ∨ _ ∨ _))

@[simp] theorem fileNameOf_inj {a b : Text} : fileNameOf a = fileNameOf b ↔ a = b := by
  rw [fileNameOf, fileNameOf, List.append_left_inj, List.append_right_inj]

variable {x y : Subject}

theorem file_of_named (h : x.named = true) :
    x.file = x.directory.dropLast ++ [fileNameOf (x.directory.getLast?.getD [])] := by
  rw [file, if_pos h]

theorem file_of_not_named (h : x.named = false) : x.file = x.directory ++ [fileNameOf insideName] := by
  rw [file, if_neg (by simp [h])]

theorem Proper.exists_concat (hx : x.Proper) (h : x.named = true) :
    ∃ dir name, x.directory = dir ++ [name] ∧ x.file = dir ++ [fileNameOf name] := by
  obtain ⟨dir, name, hdir⟩ := List.eq_nil_or_concat'  x.directory |>.resolve_left (hx h)
  refine ⟨dir, name, hdir, ?_⟩
  rw [file_of_named h, hdir, List.dropLast_concat, List.getLast?_concat]
  rfl

private theorem concat_fileNameOf_inj {s t : Location} {a b : Text} :
    s ++ [fileNameOf a] = t ++ [fileNameOf b] ↔ s ++ [a] = t ++ [b] := by
  simp [fileNameOf_inj]

theorem file_eq_iff_crosses (hx : x.Proper) (h : x.named = true) (h' : y.named = false) :
    x.file = y.file ↔ x.Crosses y := by
  obtain ⟨dir, name, hdir, hfile⟩ := hx.exists_concat h
  rw [hfile, file_of_not_named h', Crosses, hdir, concat_fileNameOf_inj]
  simp [h, h']

/-- Two runs are in each other's way exactly if their lock files are one. -/
theorem file_eq_iff (hx : x.Proper) (hy : y.Proper) : x.file = y.file ↔ x.Excludes y := by
  cases h : x.named with
  | true =>
    cases h' : y.named with
    | true =>
      obtain ⟨dir, name, hdir, hfile⟩ := hx.exists_concat h
      obtain ⟨dir', name', hdir', hfile'⟩ := hy.exists_concat h'
      rw [hfile, hfile', concat_fileNameOf_inj, ← hdir, ← hdir']
      simp [Excludes, Crosses, h, h']
    | false =>
      rw [file_eq_iff_crosses hx h h']
      simp [Excludes, Crosses, h, h']
  | false =>
    cases h' : y.named with
    | true =>
      rw [eq_comm, file_eq_iff_crosses hy h' h]
      simp [Excludes, Crosses, h, h']
    | false =>
      rw [file_of_not_named h, file_of_not_named h', List.append_left_inj]
      simp [Excludes, Crosses, h, h']

theorem excludes_comm : x.Excludes y ↔ y.Excludes x := by
  rw [Excludes, Excludes, eq_comm, eq_comm (a := x.named)]
  exact or_congr Iff.rfl or_comm

end Subject

/-! ## The lock file of a path -/

theorem isName_fileNameOf {name : Text} (h : '/' ∉ name) : Path.IsName (fileNameOf name) where
  ne_nil := by simp [fileNameOf]
  ne_here := by
    intro heq
    have hlength := congrArg List.length heq
    simp [fileNameOf] at hlength
  ne_above := by
    intro heq
    have hlength := congrArg List.length heq
    simp [fileNameOf] at hlength
  slash_not_mem := by simp [fileNameOf, h]

theorem proper_of (t : Tree) (dir : Path) : (Subject.of t dir).Proper := by
  intro h
  obtain ⟨name, hname⟩ := Option.isSome_iff_exists.mp h
  obtain ⟨parent, -, hnominal⟩ := Tree.exists_parent_nominal (t := t) hname
  show t.nominal dir ≠ []
  rw [hnominal]
  exact List.append_ne_nil_of_right_ne_nil _ (List.cons_ne_nil name [])

@[simp] theorem nominal_pathFor (t : Tree) (dir : Path) :
    t.nominal (pathFor dir) = (Subject.of t dir).file := by
  cases hname : Path.fileName? dir with
  | some name =>
    obtain ⟨parent, hparent, hnominal⟩ := Tree.exists_parent_nominal (t := t) hname
    obtain ⟨-, -, hplain, -⟩ := Path.exists_parent_of_fileName? hname
    have hpath : pathFor dir = parent.join (fileNameOf name) := by
      rw [pathFor, hparent, hname]
      rfl
    rw [hpath, Tree.nominal_join (isName_fileNameOf hplain.slash_not_mem), Subject.file_of_named
      (congrArg Option.isSome hname)]
    show _ = (t.nominal dir).dropLast ++ [fileNameOf ((t.nominal dir).getLast?.getD [])]
    rw [hnominal, List.dropLast_concat, List.getLast?_concat]
    rfl
  | none =>
    have hpath : pathFor dir = dir.join (fileNameOf insideName) := by
      rw [pathFor, hname]
      cases Path.parent? dir <;> rfl
    rw [hpath, Tree.nominal_join (isName_fileNameOf (by decide)), Subject.file_of_not_named
      (congrArg Option.isSome hname)]
    rfl

/-! ## Opening the lock file -/

section Working

variable {t t' : Tree} {p : Path}

theorem working_of_write {content : Bytes} (h : t.write p content = .ok t') :
    t'.working = t.working := by
  obtain ⟨l, -, h⟩ := bind_eq_ok.mp h
  split at h
  · cases h
  · rw [← Except.ok.inj h]
    rfl

theorem working_of_touch (h : t.touch p = .ok t') : t'.working = t.working := by
  obtain ⟨l, -, h⟩ := bind_eq_ok.mp h
  split at h
  · rw [Except.ok.inj h]
  · exact working_of_write h

theorem working_of_makeDirectory (h : t.makeDirectory p = .ok t') : t'.working = t.working := by
  obtain ⟨l, -, h⟩ := bind_eq_ok.mp h
  split at h
  · cases h
  · rw [← Except.ok.inj h]
    rfl

@[simp] theorem working_ensureDirectory (t : Tree) (p : Path) :
    (t.ensureDirectory p).1.working = t.working := by
  rw [Tree.ensureDirectory]
  split
  · exact working_of_makeDirectory ‹_›
  · rfl

@[simp] theorem working_makeDirectories (p : Path) (fuel : Nat) (t : Tree) :
    (Tree.makeDirectories p fuel t).1.working = t.working := by
  induction fuel generalizing p t with
  | zero => rfl
  | succ fuel ih =>
    rw [Tree.makeDirectories]
    split
    · rfl
    split
    · rfl
    · rename_i parent _ _
      have hparent := ih parent t
      split
      · rename_i hmade
        rw [working_ensureDirectory, ← hparent, hmade]
      · rename_i hmade
        rw [← hparent, hmade]
    · exact working_ensureDirectory t p

@[simp] theorem working_prepare (t : Tree) (lockFile : Path) :
    (prepare t lockFile).1.working = t.working := by
  rw [prepare]
  split
  · rfl
  · rename_i parent _
    exact working_makeDirectories parent (parent.length + 1) t

@[simp] theorem working_openFile (t : Tree) (lockFile : Path) :
    (openFile t lockFile).1.working = t.working := by
  have hprepare := working_prepare t lockFile
  rw [openFile]
  split
  · rename_i hfailed
    rwa [hfailed] at hprepare
  · rename_i prepared hprepared
    rw [hprepared] at hprepare
    split
    · exact hprepare
    · rename_i touched htouch
      exact (working_of_touch htouch).trans hprepare

/-- The lock file is where its path names it, whatever had to be created for it. -/
theorem eq_nominal_of_openFile {lockFile : Path} {l : Location}
    (h : openFile t lockFile = (t', .ok l)) : l = t.nominal lockFile := by
  have hprepare := working_prepare t lockFile
  rw [openFile] at h
  split at h
  · cases h
  · rename_i prepared heq
    rw [heq] at hprepare
    split at h
    · cases h
    · rename_i touched htouch
      obtain ⟨rfl, hlocate⟩ := Prod.mk.inj h
      cases hfound : touched.locate lockFile with
      | error cause =>
        rw [hfound] at hlocate
        cases hlocate
      | ok found =>
        rw [hfound] at hlocate
        cases hlocate
        rw [← Tree.nominal_of_locate hfound]
        exact Tree.nominal_eq_of_names ((working_of_touch htouch).trans hprepare) rfl rfl

end Working

/-! ## An attempt -/

section Attempt

variable {held : List Lock} {t : Tree} {dir : Path} {f : Failure} {lock : Lock}

/-- The lock file can be opened. -/
def Opens (t : Tree) (dir : Path) : Prop := ∃ l, (openFile t (pathFor dir)).2 = .ok l

theorem within_ne_busy (cause : Failure) {message : Text} (h : message.head? = some 'F') :
    cause.within message ≠ busy dir := by
  intro heq
  have hhead : message.head? = some 'A' := congrArg (·.message.head?) heq
  rw [h] at hhead
  exact absurd hhead (by decide)

/-- A lock file that cannot be opened is not reported as another run. -/
theorem ne_busy_of_openFile {lockFile : Path} (h : (openFile t lockFile).2 = .error f) :
    f ≠ busy dir := by
  rw [openFile] at h
  split at h
  · rename_i failure hprepare
    rw [← Except.error.inj h]
    rw [prepare] at hprepare
    split at hprepare
    · cases hprepare
    · obtain ⟨cause, -, rfl⟩ := mapError_eq_error.mp (Prod.mk.inj hprepare).2
      exact within_ne_busy _ rfl
  · split at h
    · rw [← Except.error.inj h]
      exact within_ne_busy _ rfl
    · obtain ⟨cause, -, rfl⟩ := mapError_eq_error.mp h
      exact within_ne_busy _ rfl

/-- What an attempt says: the lock file cannot be opened, or one of the locks that are held is on
the file, or there is a new one. -/
theorem acquire_cases (held : List Lock) (t : Tree) (dir : Path) :
    (¬ Opens t dir ∧ ∃ f, f ≠ busy dir ∧ (acquire held t dir).2 = .error f) ∨
    (Opens t dir ∧ (∃ lock ∈ held, lock.location = (Subject.of t dir).file) ∧
      (acquire held t dir).2 = .error (busy dir)) ∨
    (Opens t dir ∧ (∀ lock ∈ held, lock.location ≠ (Subject.of t dir).file) ∧
      (acquire held t dir).2 = .ok ⟨pathFor dir, (Subject.of t dir).file⟩) := by
  have hanswer : (acquire held t dir).2 = (openFile t (pathFor dir)).2.bind fun location ↦
      if held.any (·.location = location) then .error (busy dir)
      else .ok ⟨pathFor dir, location⟩ := rfl
  cases hopen : (openFile t (pathFor dir)).2 with
  | error f =>
    refine Or.inl ⟨?_, f, ne_busy_of_openFile hopen, by rw [hanswer, hopen]; rfl⟩
    rintro ⟨l, hl⟩
    rw [hopen] at hl
    cases hl
  | ok l =>
    have hplace : l = (Subject.of t dir).file := by
      rw [← nominal_pathFor]
      exact eq_nominal_of_openFile (Prod.ext rfl hopen)
    rw [hopen] at hanswer
    rw [hplace] at hopen hanswer
    by_cases hheld : ∃ lock ∈ held, lock.location = (Subject.of t dir).file
    · refine Or.inr (Or.inl ⟨⟨_, hopen⟩, hheld, hanswer.trans (if_pos ?_)⟩)
      simpa using hheld
    · refine Or.inr (Or.inr ⟨⟨_, hopen⟩, by simpa using hheld, hanswer.trans (if_neg ?_)⟩)
      simpa using hheld

theorem working_acquire (held : List Lock) (t : Tree) (dir : Path) :
    (acquire held t dir).1.working = t.working :=
  working_openFile t (pathFor dir)

end Attempt

/-! ## Sessions -/

/-- A lock that a run holds, and the path of the directory it was acquired for. -/
structure Guard where
  holder : Text
  dir : Path
  lock : Lock
  deriving DecidableEq, Repr

/-- What runs on one tree do with locks. -/
inductive Action where
  /-- A run asks for the lock of a directory. With it, it gives up the lock it had before. -/
  | acquire (holder : Text) (dir : Path)
  | release (holder : Text)

/-- A tree and the locks that are held on its files. -/
structure Session where
  tree : Tree
  guards : List Guard := []

namespace Session

/-- What comes of asking for the lock of a directory. -/
def attempt (s : Session) (dir : Path) : Tree × Except Failure Lock :=
  acquire (s.guards.map Guard.lock) s.tree dir

/-- The guards of all other runs. -/
def guardsWithout (s : Session) (holder : Text) : List Guard :=
  s.guards.filter (·.holder ≠ holder)

/-- The session after an action. A refused attempt changes no guard, but what it created stays. -/
def step (s : Session) : Action → Session
  | .acquire holder dir =>
    match (s.attempt dir).2 with
    | .ok lock => ⟨(s.attempt dir).1, ⟨holder, dir, lock⟩ :: s.guardsWithout holder⟩
    | .error _ => ⟨(s.attempt dir).1, s.guards⟩
  | .release holder => ⟨s.tree, s.guardsWithout holder⟩

/-- The session after all actions, starting on a tree of which nothing is locked. -/
def run (t : Tree) (actions : List Action) : Session := actions.foldl step ⟨t, []⟩

/-- The directories of two guards are not in each other's way. -/
def Apart (t : Tree) (g g' : Guard) : Prop :=
  ¬ (Subject.of t g.dir).Excludes (Subject.of t g'.dir)

/-- What holds at all times of a session on a tree. -/
structure Sound (t : Tree) (s : Session) : Prop where
  working : s.tree.working = t.working
  /-- Each lock is where the directory's path says. -/
  location : ∀ g ∈ s.guards, g.lock.location = (Subject.of t g.dir).file
  apart : s.guards.Pairwise (Apart t)

variable {t : Tree} {s : Session} {dir : Path}

theorem Sound.subject_eq (hs : s.Sound t) (dir : Path) : Subject.of s.tree dir = Subject.of t dir :=
  congrArg (Subject.mk · (Path.fileName? dir).isSome)
    (Tree.nominal_eq_of_names hs.working rfl rfl)

/-- The attempt's lock file is that of a guard exactly if the directories are in each other's
way. -/
theorem Sound.location_eq_iff (hs : s.Sound t) {g : Guard} (hg : g ∈ s.guards) :
    g.lock.location = (Subject.of s.tree dir).file ↔
      (Subject.of t g.dir).Excludes (Subject.of t dir) := by
  rw [hs.location g hg, hs.subject_eq dir]
  exact Subject.file_eq_iff (proper_of t g.dir) (proper_of t dir)

theorem Sound.attempt_cases (hs : s.Sound t) (dir : Path) :
    (¬ Opens s.tree dir ∧ ∃ f, f ≠ busy dir ∧ (s.attempt dir).2 = .error f) ∨
    (Opens s.tree dir ∧ (∃ g ∈ s.guards, (Subject.of t g.dir).Excludes (Subject.of t dir)) ∧
      (s.attempt dir).2 = .error (busy dir)) ∨
    (Opens s.tree dir ∧ (∀ g ∈ s.guards, ¬ (Subject.of t g.dir).Excludes (Subject.of t dir)) ∧
      (s.attempt dir).2 = .ok ⟨pathFor dir, (Subject.of t dir).file⟩) := by
  obtain hclosed | ⟨hopens, hheld, hanswer⟩ | ⟨hopens, hfree, hanswer⟩ :=
    acquire_cases (s.guards.map Guard.lock) s.tree dir
  · exact Or.inl hclosed
  · refine Or.inr (Or.inl ⟨hopens, ?_, hanswer⟩)
    obtain ⟨lock, hlock, hlocation⟩ := hheld
    obtain ⟨g, hg, rfl⟩ := List.mem_map.mp hlock
    exact ⟨g, hg, (hs.location_eq_iff hg).mp hlocation⟩
  · refine Or.inr (Or.inr ⟨hopens, ?_, ?_⟩)
    · intro g hg hexcludes
      exact hfree g.lock (List.mem_map_of_mem hg) ((hs.location_eq_iff hg).mpr hexcludes)
    · rw [← hs.subject_eq dir]
      exact hanswer

theorem sound_start (t : Tree) : Sound t ⟨t, []⟩ where
  working := rfl
  location := fun _ h ↦ absurd h List.not_mem_nil
  apart := List.Pairwise.nil

theorem Sound.step (hs : s.Sound t) (a : Action) : (s.step a).Sound t := by
  -- Guards that stay are as they were.
  have hlocation : ∀ holder, ∀ g ∈ s.guardsWithout holder,
      g.lock.location = (Subject.of t g.dir).file := fun holder g hg ↦
    hs.location g (List.mem_of_mem_filter hg)
  have hapart : ∀ holder, (s.guardsWithout holder).Pairwise (Apart t) := fun holder ↦
    hs.apart.sublist List.filter_sublist
  cases a with
  | release holder => exact ⟨hs.working, hlocation holder, hapart holder⟩
  | acquire holder dir =>
    have hworking : (s.attempt dir).1.working = t.working :=
      (working_acquire _ s.tree dir).trans hs.working
    rw [Session.step]
    obtain ⟨-, f, -, hanswer⟩ | ⟨-, -, hanswer⟩ | ⟨-, hfree, hanswer⟩ := hs.attempt_cases dir
    · rw [hanswer]
      exact ⟨hworking, hs.location, hs.apart⟩
    · rw [hanswer]
      exact ⟨hworking, hs.location, hs.apart⟩
    · rw [hanswer]
      refine ⟨hworking, List.forall_mem_cons.mpr ⟨rfl, hlocation holder⟩, ?_⟩
      refine List.pairwise_cons.mpr ⟨?_, hapart holder⟩
      intro g hg hexcludes
      exact hfree g (List.mem_of_mem_filter hg) (Subject.excludes_comm.mp hexcludes)

theorem sound_run (t : Tree) (actions : List Action) : (run t actions).Sound t :=
  List.foldlRecOn actions step (sound_start t) fun _ hs a _ ↦ hs.step a

/-- After any actions, a run is told that another one is using its directory exactly if the lock
file can be opened and some guard's directory and its own are in each other's way; if there is no
such guard, it gets the lock. No two guards are in each other's way, and directories are what the
paths lead to. -/
theorem attempt_eq_busy_iff (t : Tree) (actions : List Action) (dir : Path) :
    ((((run t actions).attempt dir).2 = .error (busy dir) ↔
        Opens (run t actions).tree dir ∧
          ∃ g ∈ (run t actions).guards, (Subject.of t g.dir).Excludes (Subject.of t dir)) ∧
      ((∃ lock, ((run t actions).attempt dir).2 = .ok lock) ↔
        Opens (run t actions).tree dir ∧
          ∀ g ∈ (run t actions).guards, ¬ (Subject.of t g.dir).Excludes (Subject.of t dir)) ∧
      (run t actions).guards.Pairwise (Apart t)) ∧
    ∀ p l, (run t actions).tree.locate p = .ok l → (Subject.of t p).directory = l := by
  have hs := sound_run t actions
  refine ⟨⟨?_, ?_, hs.apart⟩, ?_⟩
  · obtain ⟨hclosed, f, hf, hanswer⟩ | ⟨hopens, hheld, hanswer⟩ | ⟨hopens, hfree, hanswer⟩ :=
      hs.attempt_cases dir
    · rw [hanswer]
      exact iff_of_false (fun h ↦ hf (Except.error.inj h)) fun h ↦ hclosed h.1
    · exact iff_of_true hanswer ⟨hopens, hheld⟩
    · rw [hanswer]
      exact iff_of_false (fun h ↦ nomatch h) fun ⟨_, g, hg, h⟩ ↦ hfree g hg h
  · obtain ⟨hclosed, f, hf, hanswer⟩ | ⟨hopens, ⟨g, hg, hexcludes⟩, hanswer⟩ |
      ⟨hopens, hfree, hanswer⟩ := hs.attempt_cases dir
    · rw [hanswer]
      exact iff_of_false (fun ⟨_, h⟩ ↦ nomatch h) fun h ↦ hclosed h.1
    · rw [hanswer]
      exact iff_of_false (fun ⟨_, h⟩ ↦ nomatch h) fun h ↦ h.2 g hg hexcludes
    · exact iff_of_true ⟨_, hanswer⟩ ⟨hopens, hfree⟩
  · intro p l hlocate
    rw [← hs.subject_eq p]
    exact Tree.nominal_of_locate hlocate

/-- A tree with a directory in another. -/
private def nested : Tree where
  entries := [(["d".toList], .directory), (["d".toList, "e".toList], .directory)]

private def holder : Text := "holder"

/-- Slashes, `.` and `..` before the end are seen through: the directory is refused. -/
theorem attempt_eq_busy_iff_respelled :
    ((run nested [.acquire holder "d"]).attempt "d/.././d/").2 = .error (busy "d/.././d/") := by
  have hsession := attempt_eq_busy_iff nested [.acquire holder "d"] "d/.././d/"
  refine hsession.1.1.mpr ⟨⟨[".d.lock".toList], by decide +kernel⟩, ?_⟩
  exact ⟨⟨holder, "d", ⟨".d.lock", [".d.lock".toList]⟩⟩, by decide +kernel, by decide +kernel⟩

/-- A directory that is locked can be locked again by way of one in it. And whoever holds the
working directory stands in the way of another one, `make-rules` in it. -/
theorem attempt_inexact :
    ((nested.locate "d" = nested.locate "d/e/.." ∧
        (run nested [.acquire holder "d"]).guards.length = 1 ∧
        ((run nested [.acquire holder "d"]).attempt "d/e/..").2 =
          .ok ⟨"d/e/../.make-rules.lock", ["d".toList, ".make-rules.lock".toList]⟩)) ∧
      nested.locate "." ≠ nested.locate "make-rules" ∧
      ((run nested [.acquire holder "."]).attempt "make-rules").2 = .error (busy "make-rules") := by
  decide +kernel

end Session

end PacketFilter.Lock
