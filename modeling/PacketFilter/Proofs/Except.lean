import Mathlib.Data.List.Forall2

/-!
# Inverting computations that may fail

If a computation gave a value, so did each of its steps. With `bind_eq_ok` a chain of steps is taken
apart from the front, and with `exists_of_mem_mapM` a result in a list is traced back to what it was
computed from. The other way round, a fold none of whose steps fails is a plain one, and a fold that
has to read something for each element stops at the first for which it cannot.
-/

namespace PacketFilter

variable {ε α β : Type}

theorem bind_eq_ok {x : Except ε α} {f : α → Except ε β} {b : β} :
    x >>= f = .ok b ↔ ∃ a, x = .ok a ∧ f a = .ok b := by
  cases x with
  | error cause =>
    constructor
    · intro h
      cases h
    · rintro ⟨_, h, -⟩
      cases h
  | ok a =>
    constructor
    · exact fun h ↦ ⟨a, rfl, h⟩
    · rintro ⟨_, h, hf⟩
      cases h
      exact hf

theorem bind_eq_error {x : Except ε α} {f : α → Except ε β} {cause : ε} :
    x >>= f = .error cause ↔ x = .error cause ∨ ∃ a, x = .ok a ∧ f a = .error cause := by
  cases x with
  | error first =>
    constructor
    · intro h
      exact Or.inl (congrArg Except.error (Except.error.inj h))
    · rintro (h | ⟨_, h, -⟩)
      · exact congrArg Except.error (Except.error.inj h)
      · cases h
  | ok a =>
    constructor
    · exact fun h ↦ Or.inr ⟨a, rfl, h⟩
    · rintro (h | ⟨_, h, hf⟩)
      · cases h
      · cases h
        exact hf

theorem mapError_eq_error {ε' : Type} {x : Except ε α} {f : ε → ε'} {e : ε'} :
    x.mapError f = .error e ↔ ∃ cause, x = .error cause ∧ f cause = e := by
  cases x with
  | error cause =>
    constructor
    · exact fun h ↦ ⟨cause, rfl, Except.error.inj h⟩
    · rintro ⟨_, h, rfl⟩
      cases h
      rfl
  | ok a =>
    constructor
    · intro h
      cases h
    · rintro ⟨_, h, -⟩
      cases h

theorem exists_of_mem_mapM {f : α → Except ε β} {as : List α} {bs : List β}
    (h : as.mapM f = .ok bs) {b : β} (hb : b ∈ bs) : ∃ a ∈ as, f a = .ok b := by
  induction as generalizing bs with
  | nil =>
    cases h
    exact absurd hb List.not_mem_nil
  | cons a as ih =>
    rw [List.mapM_cons] at h
    obtain ⟨first, hfirst, h⟩ := bind_eq_ok.mp h
    obtain ⟨rest, hrest, h⟩ := bind_eq_ok.mp h
    cases h
    rcases List.mem_cons.mp hb with rfl | hb
    · exact ⟨a, List.mem_cons_self, hfirst⟩
    · obtain ⟨a', ha', hf⟩ := ih hrest hb
      exact ⟨a', List.mem_cons_of_mem _ ha', hf⟩

theorem mapM_eq_ok_iff {f : α → Except ε β} {as : List α} {bs : List β} :
    as.mapM f = .ok bs ↔ List.Forall₂ (fun a b ↦ f a = .ok b) as bs := by
  induction as generalizing bs with
  | nil =>
    rw [List.forall₂_nil_left_iff]
    exact ⟨fun h ↦ (Except.ok.inj h).symm, fun h ↦ h ▸ rfl⟩
  | cons a as ih =>
    rw [List.mapM_cons, bind_eq_ok, List.forall₂_cons_left_iff]
    refine exists_congr fun b ↦ ?_
    rw [bind_eq_ok]
    constructor
    · rintro ⟨hb, rest, hrest, h⟩
      exact ⟨rest, hb, ih.mp hrest, (Except.ok.inj h).symm⟩
    · rintro ⟨rest, hb, hrest, rfl⟩
      exact ⟨hb, rest, ih.mpr hrest, rfl⟩

/-- Going through a list fails at the first element that fails. -/
theorem mapM_eq_error_iff {f : α → Except ε β} {as : List α} {cause : ε} :
    as.mapM f = .error cause ↔
      ∃ front a back, as = front ++ a :: back ∧ (∀ x ∈ front, ∃ b, f x = .ok b) ∧
        f a = .error cause := by
  induction as with
  | nil =>
    refine ⟨fun h ↦ (by cases h), ?_⟩
    rintro ⟨front, a, back, h, -⟩
    exact absurd h.symm (List.append_ne_nil_of_right_ne_nil front (List.cons_ne_nil a back))
  | cons a as ih =>
    rw [List.mapM_cons]
    constructor
    · intro h
      obtain ha | ⟨b, hb, h⟩ := bind_eq_error.mp h
      · exact ⟨[], a, as, rfl, fun _ h ↦ absurd h List.not_mem_nil, ha⟩
      obtain hrest | ⟨_, -, h⟩ := bind_eq_error.mp h
      · obtain ⟨front, a', back, rfl, hfront, ha'⟩ := ih.mp hrest
        exact ⟨a :: front, a', back, rfl, List.forall_mem_cons.mpr ⟨⟨b, hb⟩, hfront⟩, ha'⟩
      · cases h
    · rintro ⟨_ | ⟨x, front⟩, a', back, h, hfront, ha'⟩
      · cases h
        rw [ha']
        rfl
      · cases h
        obtain ⟨⟨b, hb⟩, hfront⟩ := List.forall_mem_cons.mp hfront
        rw [hb, ih.mpr ⟨front, a', back, rfl, hfront, ha'⟩]
        rfl

theorem foldlM_eq_ok {f : β → α → Except ε β} {g : β → α → β} {as : List α}
    (h : ∀ a ∈ as, ∀ b, f b a = .ok (g b a)) (b : β) : as.foldlM f b = .ok (as.foldl g b) := by
  induction as generalizing b with
  | nil => rfl
  | cons a as ih =>
    obtain ⟨ha, has⟩ := List.forall_mem_cons.mp h
    rw [List.foldlM_cons, ha b, List.foldl_cons]
    exact ih has (g b a)

/-- Nested loops are one loop over pairs. -/
theorem foldlM_foldlM {γ : Type} {f : β → α → γ → Except ε β} {parts : α → List γ} (as : List α)
    (b : β) :
    as.foldlM (fun b a ↦ (parts a).foldlM (fun b c ↦ f b a c) b) b =
      (as.flatMap fun a ↦ (parts a).map (a, ·)).foldlM (fun b x ↦ f b x.1 x.2) b := by
  induction as generalizing b with
  | nil => rfl
  | cons a as ih =>
    rw [List.foldlM_cons, List.flatMap_cons, List.foldlM_append, List.foldlM_map]
    exact bind_congr ih

section Read

variable {γ : Type} {r : α → Except ε γ} {g : β → α → γ → β}

theorem foldlM_map_eq_ok_iff {as : List α} {b : β} :
    (∃ b', as.foldlM (fun b a ↦ (r a).map (g b a)) b = .ok b') ↔ ∀ a ∈ as, ∃ c, r a = .ok c := by
  induction as generalizing b with
  | nil => exact ⟨fun _ _ h ↦ absurd h List.not_mem_nil, fun _ ↦ ⟨b, rfl⟩⟩
  | cons a as ih =>
    rw [List.foldlM_cons, List.forall_mem_cons]
    cases ha : r a with
    | error cause =>
      refine ⟨fun ⟨_, h⟩ ↦ (by cases h), fun ⟨⟨_, h⟩, _⟩ ↦ (by cases h)⟩
    | ok c =>
      refine Iff.trans ?_ (and_iff_right ⟨c, rfl⟩).symm
      exact ih

theorem foldlM_map_eq_error_iff {as : List α} {b : β} {cause : ε} :
    as.foldlM (fun b a ↦ (r a).map (g b a)) b = .error cause ↔
      ∃ front a back, as = front ++ a :: back ∧ (∀ x ∈ front, ∃ c, r x = .ok c) ∧
        r a = .error cause := by
  induction as generalizing b with
  | nil =>
    refine ⟨fun h ↦ (by cases h), ?_⟩
    rintro ⟨front, a, back, h, -⟩
    exact absurd h.symm (List.append_ne_nil_of_right_ne_nil front (List.cons_ne_nil a back))
  | cons a as ih =>
    rw [List.foldlM_cons]
    cases ha : r a with
    | error first =>
      constructor
      · intro h
        cases h
        exact ⟨[], a, as, rfl, fun _ h ↦ absurd h List.not_mem_nil, ha⟩
      · rintro ⟨_ | ⟨x, front⟩, a', back, h, hfront, ha'⟩
        · cases h
          rw [ha] at ha'
          cases ha'
          rfl
        · cases h
          obtain ⟨c, hc⟩ := hfront a List.mem_cons_self
          rw [ha] at hc
          cases hc
    | ok c =>
      refine Iff.trans ih ⟨?_, ?_⟩
      · rintro ⟨front, a', back, rfl, hfront, ha'⟩
        exact ⟨a :: front, a', back, rfl, List.forall_mem_cons.mpr ⟨⟨c, ha⟩, hfront⟩, ha'⟩
      · rintro ⟨_ | ⟨x, front⟩, a', back, h, hfront, ha'⟩
        · cases h
          rw [ha] at ha'
          cases ha'
        · cases h
          exact ⟨front, a', back, rfl, (List.forall_mem_cons.mp hfront).2, ha'⟩

end Read

end PacketFilter
