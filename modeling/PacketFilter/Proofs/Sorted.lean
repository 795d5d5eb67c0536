import PacketFilter.Sorted
import PacketFilter.Text.Basic
import Mathlib.Data.List.Nodup

/-!
# Laws of sorted entries

A list of entries stands for a map as long as its keys ascend: then a key has at most one entry,
and an update or a removal is seen under its own key and nowhere else. `Ascending` is that
condition, and every operation keeps it.

## What the order has to satisfy

The order is a function, so its laws are instances of the classes for comparison functions. For
texts they come from the lexicographic order of lists; the only thing to check is that characters
are told apart by their code points.
-/

namespace PacketFilter

/-! ## The order of texts -/

namespace Text

/-- The order of characters by code point. -/
private def compareChars (a b : Char) : Ordering := Ord.compare a.toNat b.toNat

private instance : Std.TransCmp compareChars :=
  inferInstanceAs (Std.TransCmp (compareOn Char.toNat))

private instance : Std.LawfulEqCmp compareChars where
  eq_of_compare h := Char.toNat_inj.mp (Std.LawfulEqCmp.eq_of_compare h)

private theorem compare_eq_compareLex : compare = List.compareLex compareChars := by
  funext s t
  induction s generalizing t with
  | nil => cases t <;> rfl
  | cons a s ih =>
    cases t with
    | nil => rfl
    | cons b t =>
      rw [compare, List.compareLex_cons_cons, ih]
      rfl

instance : Std.TransCmp compare := by
  rw [compare_eq_compareLex]
  infer_instance

instance : Std.LawfulEqCmp compare := by
  rw [compare_eq_compareLex]
  infer_instance

end Text

/-! ## Entries with ascending keys -/

namespace Sorted

variable {α β : Type} {order : α → α → Ordering}

/-- The keys ascend, and so no key stands twice. -/
def Ascending (order : α → α → Ordering) (entries : List (α × β)) : Prop :=
  entries.Pairwise fun e f ↦ order e.1 f.1 = .lt

instance (entries : List (α × β)) : Decidable (Ascending order entries) :=
  inferInstanceAs (Decidable (entries.Pairwise fun e f ↦ order e.1 f.1 = .lt))

@[simp] theorem ascending_nil : Ascending order ([] : List (α × β)) := List.Pairwise.nil

theorem ascending_cons {e : α × β} {entries : List (α × β)} :
    Ascending order (e :: entries) ↔
      (∀ f ∈ entries, order e.1 f.1 = .lt) ∧ Ascending order entries := List.pairwise_cons

/-! ### Looking up -/

theorem mem_of_find? [Std.LawfulEqCmp order] {entries : List (α × β)} {k : α} {v : β}
    (h : find? order k entries = some v) : (k, v) ∈ entries := by
  induction entries with
  | nil => exact absurd h (by simp [find?])
  | cons e entries ih =>
    obtain ⟨a, w⟩ := e
    rw [find?] at h
    by_cases hk : order k a = .eq
    · rw [if_pos hk, Option.some_inj] at h
      rw [Std.LawfulEqCmp.eq_of_compare hk, h]
      exact List.mem_cons_self
    · rw [if_neg hk] at h
      exact List.mem_cons_of_mem _ (ih h)

theorem find?_eq_none_of_lt {entries : List (α × β)} {k : α}
    (h : ∀ e ∈ entries, order k e.1 = .lt) : find? order k entries = none := by
  induction entries with
  | nil => rfl
  | cons e entries ih =>
    have hk : order k e.1 ≠ .eq := by
      rw [h e List.mem_cons_self]
      exact Ordering.noConfusion
    rw [find?, if_neg hk]
    exact ih fun f hf ↦ h f (List.mem_cons_of_mem _ hf)

theorem find?_of_mem [Std.TransCmp order] {entries : List (α × β)} (ha : Ascending order entries)
    {k : α} {v : β} (h : (k, v) ∈ entries) : find? order k entries = some v := by
  induction entries with
  | nil => exact absurd h List.not_mem_nil
  | cons e entries ih =>
    rw [ascending_cons] at ha
    rcases List.mem_cons.mp h with rfl | h
    · rw [find?, if_pos Std.ReflCmp.compare_self]
    · have hk : order k e.1 ≠ .eq := by
        rw [Std.OrientedCmp.gt_of_lt (ha.1 _ h)]
        exact Ordering.noConfusion
      rw [find?, if_neg hk]
      exact ih ha.2 h

/-- A list with ascending keys is the map of its entries. -/
theorem find?_eq_some_iff [Std.TransCmp order] [Std.LawfulEqCmp order] {entries : List (α × β)}
    (ha : Ascending order entries) {k : α} {v : β} :
    find? order k entries = some v ↔ (k, v) ∈ entries :=
  ⟨mem_of_find?, find?_of_mem ha⟩

@[simp]
theorem find?_eq_none_iff [Std.LawfulEqCmp order] {entries : List (α × β)}
    {k : α} : find? order k entries = none ↔ k ∉ entries.map Prod.fst := by
  induction entries with
  | nil => simp [find?]
  | cons d entries ih =>
    obtain ⟨a, v⟩ := d
    rw [find?, List.map_cons, List.mem_cons, not_or, ← ih]
    by_cases hk : order k a = .eq
    · rw [if_pos hk]
      exact iff_of_false (Option.some_ne_none v) fun h ↦ h.1 (Std.LawfulEqCmp.eq_of_compare hk)
    · have hne : k ≠ a := by
        rintro rfl
        exact hk Std.ReflCmp.compare_self
      rw [if_neg hk, and_iff_right hne]

theorem eq_of_mem_iff [Std.TransCmp order] (key : β → α) {as bs : List β}
    (ha : as.Pairwise fun a b ↦ order (key a) (key b) = .lt)
    (hb : bs.Pairwise fun a b ↦ order (key a) (key b) = .lt) (h : ∀ a, a ∈ as ↔ a ∈ bs) :
    as = bs := by
  have hirrefl : ∀ a, order (key a) (key a) ≠ .lt := by
    intro a hlt
    have hself : order (key a) (key a) = .eq := Std.ReflCmp.compare_self
    rw [hself] at hlt
    cases hlt
  have hnodup : ∀ {cs : List β},
      (cs.Pairwise fun a b ↦ order (key a) (key b) = .lt) → cs.Nodup := by
    intro cs hc
    refine List.Pairwise.imp ?_ hc
    rintro a b hlt rfl
    exact hirrefl a hlt
  have hperm : as.Perm bs := (List.perm_ext_iff_of_nodup (hnodup ha) (hnodup hb)).mpr h
  refine hperm.eq_of_pairwise (fun a b _ _ hab hba ↦ ?_) ha hb
  exact absurd (Std.TransCmp.lt_trans hab hba) (hirrefl a)

theorem eq_of_find?_eq [Std.TransCmp order] [Std.LawfulEqCmp order] {as bs : List (α × β)}
    (ha : Ascending order as) (hb : Ascending order bs)
    (h : ∀ k, find? order k as = find? order k bs) : as = bs := by
  refine eq_of_mem_iff Prod.fst ha hb ?_
  rintro ⟨k, v⟩
  rw [← find?_eq_some_iff ha, h, find?_eq_some_iff hb]

/-- Two lists with ascending keys are one if they have the same keys and the same values under them.
Under other keys there is a default, so values can be compared without asking for the key. -/
theorem eq_of_getD_eq [Std.TransCmp order] [Std.LawfulEqCmp order] {as bs : List (α × β)}
    (ha : Ascending order as) (hb : Ascending order bs) (d : β)
    (hkeys : ∀ k, k ∈ as.map Prod.fst ↔ k ∈ bs.map Prod.fst)
    (h : ∀ k, (find? order k as).getD d = (find? order k bs).getD d) : as = bs := by
  refine eq_of_find?_eq ha hb fun k ↦ ?_
  have hnone : find? order k as = none ↔ find? order k bs = none := by
    rw [find?_eq_none_iff, find?_eq_none_iff, hkeys]
  have hk := h k
  cases hfound : find? order k as with
  | none => exact (hnone.mp hfound).symm
  | some v =>
    cases hfound' : find? order k bs with
    | none => exact absurd (hnone.mpr hfound') (by simp [hfound])
    | some w =>
      rw [hfound, hfound'] at hk
      exact congrArg some hk

/-! ### Dropping and replacing values -/

section FilterMap

variable {γ : Type} {entries : List (α × β)}

theorem mem_filterMap_values {f : β → Option γ} {k : α} {w : γ} :
    (k, w) ∈ entries.filterMap (fun (a, v) ↦ (f v).map fun w ↦ (a, w)) ↔
      ∃ v, (k, v) ∈ entries ∧ f v = some w := by
  rw [List.mem_filterMap]
  constructor
  · rintro ⟨⟨a, v⟩, he, hf⟩
    obtain ⟨w', hw, heq⟩ := Option.map_eq_some_iff.mp hf
    cases heq
    exact ⟨v, he, hw⟩
  · rintro ⟨v, he, hw⟩
    exact ⟨(k, v), he, Option.map_eq_some_iff.mpr ⟨w, hw, rfl⟩⟩

theorem ascending_filterMap (ha : Ascending order entries) (f : β → Option γ) :
    Ascending order (entries.filterMap fun (a, v) ↦ (f v).map fun w ↦ (a, w)) := by
  refine List.Pairwise.filterMap _ ?_ ha
  rintro ⟨a, v⟩ ⟨b, w⟩ hlt _ hv _ hw
  obtain ⟨_, -, rfl⟩ := Option.map_eq_some_iff.mp hv
  obtain ⟨_, -, rfl⟩ := Option.map_eq_some_iff.mp hw
  exact hlt

theorem find?_filterMap [Std.TransCmp order] [Std.LawfulEqCmp order]
    (ha : Ascending order entries) (f : β → Option γ) (k : α) :
    find? order k (entries.filterMap fun (a, v) ↦ (f v).map fun w ↦ (a, w)) =
      (find? order k entries).bind f := by
  refine Option.ext fun w ↦ ?_
  rw [find?_eq_some_iff (ascending_filterMap ha f), mem_filterMap_values, Option.bind_eq_some_iff]
  simp only [find?_eq_some_iff ha]

end FilterMap

/-! ### Updating -/

/-- What stands in the list after an update stood there before, or stands under the key. -/
theorem mem_update [Std.LawfulEqCmp order] {entries : List (α × β)} {k : α} {f : Option β → β}
    {e : α × β} (h : e ∈ update order k f entries) : e.1 = k ∨ e ∈ entries := by
  induction entries with
  | nil => exact Or.inl (by rw [List.mem_singleton.mp h])
  | cons d entries ih =>
    obtain ⟨a, v⟩ := d
    rw [update] at h
    cases hk : order k a with
    | lt =>
      rw [hk] at h
      rcases List.mem_cons.mp h with rfl | h
      · exact Or.inl rfl
      · exact Or.inr h
    | eq =>
      rw [hk] at h
      rcases List.mem_cons.mp h with rfl | h
      · exact Or.inl (Std.LawfulEqCmp.eq_of_compare hk).symm
      · exact Or.inr (List.mem_cons_of_mem _ h)
    | gt =>
      rw [hk] at h
      rcases List.mem_cons.mp h with rfl | h
      · exact Or.inr List.mem_cons_self
      · exact (ih h).imp_right (List.mem_cons_of_mem _)

theorem ascending_update [Std.TransCmp order] [Std.LawfulEqCmp order] {entries : List (α × β)}
    (ha : Ascending order entries) (k : α) (f : Option β → β) :
    Ascending order (update order k f entries) := by
  induction entries with
  | nil => exact ascending_cons.mpr ⟨fun _ h ↦ absurd h List.not_mem_nil, ascending_nil⟩
  | cons d entries ih =>
    obtain ⟨a, v⟩ := d
    obtain ⟨hlt, ht⟩ := ascending_cons.mp ha
    rw [update]
    cases hk : order k a with
    | lt =>
      refine ascending_cons.mpr ⟨fun e he ↦ ?_, ha⟩
      rcases List.mem_cons.mp he with rfl | he
      · exact hk
      · exact Std.TransCmp.lt_trans hk (hlt e he)
    | eq => exact ascending_cons.mpr ⟨hlt, ht⟩
    | gt =>
      refine ascending_cons.mpr ⟨fun e he ↦ ?_, ih ht⟩
      rcases mem_update he with h | h
      · rw [h]
        exact Std.OrientedCmp.lt_of_gt hk
      · exact hlt e h

theorem find?_update_self [Std.TransCmp order] {entries : List (α × β)}
    (ha : Ascending order entries) (k : α) (f : Option β → β) :
    find? order k (update order k f entries) = some (f (find? order k entries)) := by
  induction entries with
  | nil => rw [update, find?, find?, if_pos Std.ReflCmp.compare_self]
  | cons d entries ih =>
    obtain ⟨a, v⟩ := d
    obtain ⟨hlt, ht⟩ := ascending_cons.mp ha
    rw [update]
    cases hk : order k a with
    | lt =>
      have hnone : find? order k ((a, v) :: entries) = none := by
        refine find?_eq_none_of_lt fun e he ↦ ?_
        rcases List.mem_cons.mp he with rfl | he
        · exact hk
        · exact Std.TransCmp.lt_trans hk (hlt e he)
      rw [hnone, find?, if_pos Std.ReflCmp.compare_self]
    | eq => rw [find?, if_pos hk, find?, if_pos hk]
    | gt =>
      have hne : order k a ≠ .eq := by
        rw [hk]
        exact Ordering.noConfusion
      rw [find?, if_neg hne, ih ht, find?, if_neg hne]

@[simp] theorem find?_insert_self [Std.ReflCmp order] (entries : List (α × β)) (k : α) (v : β) :
    find? order k (insert order k v entries) = some v := by
  induction entries with
  | nil => exact if_pos Std.ReflCmp.compare_self
  | cons d entries ih =>
    obtain ⟨a, w⟩ := d
    rw [insert, update]
    cases hk : order k a with
    | lt => exact if_pos Std.ReflCmp.compare_self
    | eq => exact if_pos hk
    | gt =>
      have hne : order k a ≠ .eq := by
        rw [hk]
        exact Ordering.noConfusion
      exact (if_neg hne).trans ih

theorem find?_update_of_ne [Std.LawfulEqCmp order] (entries : List (α × β))
    {k l : α} (h : l ≠ k) (f : Option β → β) :
    find? order l (update order k f entries) = find? order l entries := by
  have hl : order l k ≠ .eq := fun hc ↦ h (Std.LawfulEqCmp.eq_of_compare hc)
  induction entries with
  | nil => rw [update, find?, find?, if_neg hl, find?]
  | cons d entries ih =>
    obtain ⟨a, v⟩ := d
    rw [update]
    cases hk : order k a with
    | lt => rw [find?, if_neg hl]
    | eq =>
      rw [← Std.LawfulEqCmp.eq_of_compare hk, find?, if_neg hl, find?, if_neg hl]
    | gt => rw [find?, ih, find?]

/-- An update is seen under its own key and nowhere else. -/
theorem mem_update_iff [Std.TransCmp order] [Std.LawfulEqCmp order] {entries : List (α × β)}
    (ha : Ascending order entries) {k : α} {f : Option β → β} {e : α × β} :
    e ∈ update order k f entries ↔
      e = (k, f (find? order k entries)) ∨ e.1 ≠ k ∧ e ∈ entries := by
  obtain ⟨a, v⟩ := e
  rw [← find?_eq_some_iff (ascending_update ha k f), ← find?_eq_some_iff ha, Prod.mk.injEq]
  by_cases h : a = k
  · subst h
    rw [find?_update_self ha, Option.some_inj]
    simp [eq_comm]
  · rw [find?_update_of_ne entries h]
    simp [h]

theorem mem_keys_update [Std.TransCmp order] [Std.LawfulEqCmp order] {entries : List (α × β)}
    (ha : Ascending order entries) {k l : α} {f : Option β → β} :
    l ∈ (update order k f entries).map Prod.fst ↔ l = k ∨ l ∈ entries.map Prod.fst := by
  simp only [List.mem_map, mem_update_iff ha]
  constructor
  · rintro ⟨e, rfl | ⟨-, he⟩, rfl⟩
    · exact Or.inl rfl
    · exact Or.inr ⟨e, he, rfl⟩
  · rintro (rfl | ⟨e, he, rfl⟩)
    · exact ⟨_, Or.inl rfl, rfl⟩
    · by_cases hk : e.1 = k
      · exact ⟨_, Or.inl rfl, hk.symm⟩
      · exact ⟨e, Or.inr ⟨hk, he⟩, rfl⟩

/-! ### Two updates -/

section Commute

variable {k l a : α} {f g : Option β → β} {v : β} {rest : List (α × β)}

theorem update_cons_of_lt (h : order k a = .lt) :
    update order k f ((a, v) :: rest) = (k, f none) :: (a, v) :: rest := by rw [update, h]

theorem update_cons_of_eq (h : order k a = .eq) :
    update order k f ((a, v) :: rest) = (a, f (some v)) :: rest := by rw [update, h]

theorem update_cons_of_gt (h : order k a = .gt) :
    update order k f ((a, v) :: rest) = (a, v) :: update order k f rest := by rw [update, h]

/-- Both keys go in front. -/
private theorem update_comm_of_front [Std.OrientedCmp order] [Std.LawfulEqCmp order]
    (hcomm : ∀ v, f (some (g v)) = g (some (f v)))
    (hk : ∀ f : Option β → β, update order k f rest = (k, f none) :: rest)
    (hl : ∀ f : Option β → β, update order l f rest = (l, f none) :: rest) :
    update order k f (update order l g rest) = update order l g (update order k f rest) := by
  rw [hl, hk]
  cases hkl : order k l with
  | lt => rw [update_cons_of_lt hkl, update_cons_of_gt (Std.OrientedCmp.gt_of_lt hkl), hl]
  | eq =>
    cases Std.LawfulEqCmp.eq_of_compare hkl
    rw [update_cons_of_eq hkl, update_cons_of_eq hkl, hcomm]
  | gt => rw [update_cons_of_gt hkl, update_cons_of_lt (Std.OrientedCmp.lt_of_gt hkl), hk]

/-- One key goes in front, and the other does not. -/
private theorem update_comm_of_apart [Std.TransCmp order] (hk : order k a = .lt)
    (hl : order l a ≠ .lt) :
    update order k f (update order l g ((a, v) :: rest)) =
      update order l g (update order k f ((a, v) :: rest)) := by
  have hak : order a k = .gt := Std.OrientedCmp.gt_of_lt hk
  rw [update_cons_of_lt hk]
  cases hla : order l a with
  | lt => exact absurd hla hl
  | eq =>
    have hlk : order l k = .gt := Std.TransCmp.gt_of_eq_of_gt hla hak
    rw [update_cons_of_eq hla, update_cons_of_lt hk, update_cons_of_gt hlk, update_cons_of_eq hla]
  | gt =>
    have hlk : order l k = .gt := Std.TransCmp.gt_trans hla hak
    rw [update_cons_of_gt hla, update_cons_of_lt hk, update_cons_of_gt hlk, update_cons_of_gt hla]

/-- Updates by functions that commute can be made in either order, whatever the entries are. -/
theorem update_comm [Std.TransCmp order] [Std.LawfulEqCmp order]
    (hcomm : ∀ v, f (some (g v)) = g (some (f v))) (entries : List (α × β)) :
    update order k f (update order l g entries) = update order l g (update order k f entries) := by
  induction entries with
  | nil => exact update_comm_of_front hcomm (fun _ ↦ rfl) fun _ ↦ rfl
  | cons d entries ih =>
    obtain ⟨a, v⟩ := d
    cases hk : order k a with
    | lt =>
      by_cases hl : order l a = .lt
      · exact update_comm_of_front hcomm (fun _ ↦ update_cons_of_lt hk) fun _ ↦ update_cons_of_lt hl
      · exact update_comm_of_apart hk hl
    | eq =>
      cases hl : order l a with
      | lt => exact (update_comm_of_apart hl (hk ▸ by decide)).symm
      | eq =>
        rw [update_cons_of_eq hl, update_cons_of_eq hk, update_cons_of_eq hk, update_cons_of_eq hl,
          hcomm]
      | gt =>
        rw [update_cons_of_gt hl, update_cons_of_eq hk, update_cons_of_eq hk, update_cons_of_gt hl]
    | gt =>
      cases hl : order l a with
      | lt => exact (update_comm_of_apart hl (hk ▸ by decide)).symm
      | eq =>
        rw [update_cons_of_eq hl, update_cons_of_gt hk, update_cons_of_gt hk, update_cons_of_eq hl]
      | gt =>
        rw [update_cons_of_gt hl, update_cons_of_gt hk, update_cons_of_gt hk, update_cons_of_gt hl,
          ih]

end Commute

/-! ### Removing -/

theorem erase_sublist (order : α → α → Ordering) (k : α) (entries : List (α × β)) :
    (erase order k entries).Sublist entries := by
  induction entries with
  | nil => exact List.Sublist.refl _
  | cons d entries ih =>
    obtain ⟨a, v⟩ := d
    rw [erase]
    split
    · exact List.sublist_cons_self _ _
    · exact ih.cons_cons _

theorem ascending_erase {entries : List (α × β)} (ha : Ascending order entries) (k : α) :
    Ascending order (erase order k entries) := ha.sublist (erase_sublist order k entries)

theorem find?_erase_self [Std.LawfulEqCmp order] {entries : List (α × β)}
    (ha : Ascending order entries) (k : α) : find? order k (erase order k entries) = none := by
  induction entries with
  | nil => rfl
  | cons d entries ih =>
    obtain ⟨a, v⟩ := d
    obtain ⟨hlt, ht⟩ := ascending_cons.mp ha
    rw [erase]
    by_cases hk : order k a = .eq
    · rw [if_pos hk]
      refine find?_eq_none_of_lt fun e he ↦ ?_
      rw [Std.LawfulEqCmp.eq_of_compare hk]
      exact hlt e he
    · rw [if_neg hk, find?, if_neg hk]
      exact ih ht

theorem find?_erase_of_ne [Std.LawfulEqCmp order] (entries : List (α × β))
    {k l : α} (h : l ≠ k) : find? order l (erase order k entries) = find? order l entries := by
  induction entries with
  | nil => rfl
  | cons d entries ih =>
    obtain ⟨a, v⟩ := d
    rw [erase]
    by_cases hk : order k a = .eq
    · have hl : order l a ≠ .eq := fun hc ↦
        h ((Std.LawfulEqCmp.eq_of_compare hc).trans (Std.LawfulEqCmp.eq_of_compare hk).symm)
      rw [if_pos hk, find?, if_neg hl]
    · rw [if_neg hk, find?, ih, find?]

/-! ## Lists without repetition -/

@[simp] theorem mem_dedup [DecidableEq α] {as : List α} {a : α} : a ∈ dedup as ↔ a ∈ as := by
  induction as using dedup.induct with
  | case1 => rfl
  | case2 b => rfl
  | case3 b rest ih =>
    rw [dedup, if_pos rfl, ih]
    simp
  | case4 b c rest h ih =>
    rw [dedup, if_neg h, List.mem_cons, ih]
    exact List.mem_cons.symm

theorem pairwise_dedup [Std.TransCmp order] [Std.LawfulEqCmp order] [DecidableEq α] {as : List α}
    (h : as.Pairwise fun a b ↦ (order a b).isLE = true) :
    (dedup as).Pairwise fun a b ↦ order a b = .lt := by
  induction as using dedup.induct with
  | case1 => exact List.Pairwise.nil
  | case2 a => exact List.pairwise_singleton _ _
  | case3 a rest ih =>
    rw [dedup, if_pos rfl]
    exact ih h.of_cons
  | case4 a b rest hne ih =>
    obtain ⟨hle, hrest⟩ := List.pairwise_cons.mp h
    have hlt : order a b = .lt := by
      refine (Ordering.isLE_iff_eq_lt_or_eq_eq.mp (hle b List.mem_cons_self)).resolve_right ?_
      exact fun heq ↦ hne (Std.LawfulEqCmp.eq_of_compare heq)
    rw [dedup, if_neg hne]
    refine List.pairwise_cons.mpr ⟨fun c hc ↦ ?_, ih hrest⟩
    rcases List.mem_cons.mp (mem_dedup.mp hc) with rfl | hc
    · exact hlt
    · exact Std.TransCmp.lt_of_lt_of_isLE hlt ((List.pairwise_cons.mp hrest).1 c hc)

end Sorted
end PacketFilter
