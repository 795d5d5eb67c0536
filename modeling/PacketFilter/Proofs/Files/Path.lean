import PacketFilter.Files.Path
import PacketFilter.Proofs.Text.Pieces

/-!
# What a path says

A path says where it starts and which names to follow. Everything else in its spelling, slashes
that are repeated or at its end and `.` between them, is nothing. The functions that take a path
apart and put it together work on the spelling, so the laws here are of one form: what a path says
after the operation, given what it said before.

A path ends in a name of its own exactly if it has a file name. Then it says what its parent says,
and that name.
-/

namespace PacketFilter.Path

/-- A name that stands for itself in a path. -/
structure IsName (name : Text) : Prop where
  ne_nil : name ≠ []
  ne_here : name ≠ ['.']
  ne_above : name ≠ ['.', '.']
  slash_not_mem : '/' ∉ name

instance (name : Text) : Decidable (IsName name) :=
  decidable_of_iff (name ≠ [] ∧ name ≠ ['.'] ∧ name ≠ ['.', '.'] ∧ '/' ∉ name)
    ⟨fun ⟨h, h', h'', h'''⟩ ↦ ⟨h, h', h'', h'''⟩, fun ⟨h, h', h'', h'''⟩ ↦ ⟨h, h', h'', h'''⟩⟩

/-! ## Where a path starts -/

theorem isAbsolute_eq_head? (p : Path) : isAbsolute p = (p.head? == some '/') := by
  rw [isAbsolute.eq_def]
  split
  · rfl
  · rename_i h
    cases p with
    | nil => rfl
    | cons c p =>
      have hc : c ≠ '/' := fun hc ↦ h p (hc ▸ rfl)
      simp [hc]

theorem isAbsolute_eq_false {p : Path} (h : p.head? ≠ some '/') : isAbsolute p = false := by
  rw [isAbsolute_eq_head?]
  simpa using h

theorem isAbsolute_append {p : Path} (h : p ≠ []) (q : Path) :
    isAbsolute (p ++ q) = isAbsolute p := by
  rw [isAbsolute_eq_head?, isAbsolute_eq_head?, List.head?_append_of_ne_nil _ h]

theorem IsName.isAbsolute_eq_false {name : Text} (h : IsName name) : isAbsolute name = false :=
  Path.isAbsolute_eq_false fun hhead ↦ h.slash_not_mem (List.mem_of_head? hhead)

/-! ## Names -/

@[simp] theorem names_nil : names [] = [] := rfl

@[simp] theorem names_append_slash (p q : Path) : names (p ++ '/' :: q) = names p ++ names q := by
  rw [names, Text.splitBy_append_cons (by decide), List.filter_append]
  rfl

theorem names_concat_slash (p : Path) : names (p ++ ['/']) = names p := by
  rw [names_append_slash, names_nil, List.append_nil]

theorem names_of_not_mem {p : Path} (h : '/' ∉ p) :
    names p = [p].filter fun n ↦ n ≠ [] ∧ n ≠ ['.'] := by
  rw [names, Text.splitBy_eq_singleton]
  intro c hc
  exact decide_eq_false fun heq ↦ h (heq ▸ hc)

theorem IsName.names_eq {name : Text} (h : IsName name) : names name = [name] := by
  rw [names_of_not_mem h.slash_not_mem]
  simp [h.ne_nil, h.ne_here]

theorem names_join {dir name : Path} (h : IsName name) :
    names (join dir name) = names dir ++ [name] := by
  rw [join, h.isAbsolute_eq_false]
  simp only [Bool.false_eq_true, false_or]
  split_ifs with hnil hslash
  · rw [hnil, names_nil, h.names_eq, List.nil_append]
  · obtain ⟨front, rfl⟩ := List.getLast?_eq_some_iff.mp hslash
    rw [names_concat_slash, List.append_assoc, List.singleton_append, names_append_slash,
      h.names_eq]
  · rw [List.append_assoc]
    show names (dir ++ '/' :: name) = _
    rw [names_append_slash, h.names_eq]

theorem isAbsolute_join {dir name : Path} (h : IsName name) :
    isAbsolute (join dir name) = isAbsolute dir := by
  rw [join, h.isAbsolute_eq_false]
  simp only [Bool.false_eq_true, false_or]
  split_ifs with hnil hslash
  · rw [hnil, h.isAbsolute_eq_false]
    rfl
  · exact isAbsolute_append hnil name
  · rw [List.append_assoc]
    exact isAbsolute_append hnil _

/-! ## Without what adds nothing at the end -/

@[simp] theorem names_reverse_trimReversed (r : Text) :
    names (trimReversed r).reverse = names r.reverse := by
  induction r using trimReversed.induct with
  | case1 rest ih =>
    rw [trimReversed, ih, List.reverse_cons, List.reverse_cons, List.reverse_cons,
      names_concat_slash, names_concat_slash, names_concat_slash]
  | case2 => rw [trimReversed]
  | case3 rest ih =>
    have hdot : names (rest.reverse ++ ['/'] ++ ['.'] ++ ['/']) = names rest.reverse := by
      rw [names_concat_slash, List.append_assoc, List.singleton_append, names_append_slash]
      exact List.append_nil _
    rw [trimReversed, ih, List.reverse_cons, List.reverse_cons, List.reverse_cons,
      List.reverse_cons, hdot, names_concat_slash]
  | case4 rest hdouble hnil hdot =>
    rw [trimReversed, List.reverse_cons, names_concat_slash]
    all_goals assumption
  | case5 rest ih =>
    have hdot : names (rest.reverse ++ ['/'] ++ ['.']) = names rest.reverse := by
      rw [List.append_assoc, List.singleton_append, names_append_slash]
      exact List.append_nil _
    rw [trimReversed, ih, List.reverse_cons, List.reverse_cons, List.reverse_cons, hdot,
      names_concat_slash]
  | case6 r =>
    rw [trimReversed]
    all_goals assumption

@[simp] theorem getLast?_trimReversed (r : Text) : (trimReversed r).getLast? = r.getLast? := by
  induction r using trimReversed.induct with
  | case1 rest ih =>
    rw [trimReversed, ih, List.getLast?_cons_cons]
  | case2 => rw [trimReversed]
  | case3 rest ih =>
    rw [trimReversed, ih, List.getLast?_cons_cons, List.getLast?_cons_cons]
  | case4 rest hdouble hnil hdot =>
    have hlast : ('/' :: rest).getLast? = rest.getLast? := by
      cases rest with
      | nil => exact absurd rfl hnil
      | cons c rest => exact List.getLast?_cons_cons
    rw [trimReversed, hlast]
    all_goals assumption
  | case5 rest ih =>
    rw [trimReversed, ih, List.getLast?_cons_cons]
  | case6 r =>
    rw [trimReversed]
    all_goals assumption

@[simp] theorem names_trimmed (p : Path) : names (trimmed p) = names p := by
  rw [trimmed, names_reverse_trimReversed, List.reverse_reverse]

@[simp] theorem isAbsolute_trimmed (p : Path) : isAbsolute (trimmed p) = isAbsolute p := by
  rw [isAbsolute_eq_head?, isAbsolute_eq_head?, trimmed, List.head?_reverse,
    getLast?_trimReversed, List.getLast?_reverse]

/-! ## The last name -/

/-- A path with a file name says what its parent says, and the name. -/
theorem exists_parent_of_fileName? {p : Path} {name : Text} (h : fileName? p = some name) :
    ∃ parent, parent? p = some parent ∧ IsName name ∧ names p = names parent ++ [name] ∧
      isAbsolute p = isAbsolute parent := by
  rw [fileName?] at h
  set last := ((trimmed p).reverse.takeWhile (· ≠ '/')).reverse with hlast
  set front := ((trimmed p).reverse.dropWhile (· ≠ '/')).reverse with hfront
  have hsplit : trimmed p = front ++ last := by
    rw [hlast, hfront, ← List.reverse_append, List.takeWhile_append_dropWhile,
      List.reverse_reverse]
  have hname : last = name ∧ IsName last := by
    split_ifs at h with hspecial
    simp only [not_or] at hspecial
    refine ⟨Option.some_inj.mp h, hspecial.1, hspecial.2.1, hspecial.2.2, fun hmem ↦ ?_⟩
    have hkept := List.all_eq_true.mp List.all_takeWhile '/' (List.mem_reverse.mp hmem)
    simp at hkept
  obtain ⟨rfl, hname⟩ := hname
  -- What stands before the name is empty or ends in a slash.
  have hends : front = [] ∨ ∃ q, front = q ++ ['/'] := by
    cases hdrop : (trimmed p).reverse.dropWhile (· ≠ '/') with
    | nil => exact Or.inl (by rw [hfront, hdrop, List.reverse_nil])
    | cons c rest =>
      have hc : c = '/' := by
        have hhead := List.head?_dropWhile_not (· ≠ '/') (trimmed p).reverse
        rw [hdrop] at hhead
        simpa using hhead
      exact Or.inr ⟨rest.reverse, by rw [hfront, hdrop, List.reverse_cons, hc]⟩
  refine ⟨trimmed front, ?_, hname, ?_, ?_⟩
  · rw [parent?, if_neg]
    rw [hsplit]
    rintro (hnil | hroot)
    · exact hname.ne_nil (List.append_eq_nil_iff.mp hnil).2
    · have hmem : ∀ c ∈ last, c = '/' := fun c hc ↦
        List.mem_singleton.mp (hroot ▸ List.mem_append_right front hc)
      obtain ⟨c, hc⟩ := List.exists_mem_of_ne_nil _ hname.ne_nil
      exact hname.slash_not_mem (hmem c hc ▸ hc)
  · rw [names_trimmed, ← names_trimmed p, hsplit]
    rcases hends with hnil | ⟨q, hq⟩
    · rw [hnil, List.nil_append, names_nil, hname.names_eq, List.nil_append]
    · rw [hq, names_concat_slash, List.append_assoc, List.singleton_append, names_append_slash,
        hname.names_eq]
  · rw [isAbsolute_trimmed, ← isAbsolute_trimmed p, hsplit]
    by_cases hnil : front = []
    · rw [hnil, List.nil_append, hname.isAbsolute_eq_false]
      rfl
    · exact isAbsolute_append hnil last

end PacketFilter.Path
