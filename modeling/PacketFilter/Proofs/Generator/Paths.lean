import PacketFilter.Generator.Basic
import PacketFilter.Proofs.Files.Path
import PacketFilter.Proofs.Service.Registry

/-!
# The targets of a run

A run is about every service of its registry in either direction: services in the order of their
names, and incoming before outgoing. What happens to one target can matter to another only if both
have the same path, and no two have. A path shows its direction behind its last dot and the service
before it, and a name from a services file holds no slash, so that joining it to the directory loses
nothing.
-/

namespace PacketFilter

/-! ## Paths in a directory -/

namespace Path

theorem join_inj {dir a b : Path} (ha : a.head? ≠ some '/') (hb : b.head? ≠ some '/') :
    join dir a = join dir b ↔ a = b := by
  refine ⟨fun h ↦ ?_, congrArg (join dir)⟩
  rw [join, join, isAbsolute_eq_false ha, isAbsolute_eq_false hb] at h
  simp only [Bool.false_eq_true, false_or] at h
  split_ifs at h
  · exact h
  · exact List.append_cancel_left h
  · exact List.append_cancel_left h

end Path

namespace Generator

/-- The path of the file of a target. -/
def targetPath (output : Path) (x : Service × Direction) : Path := pathFor output x.1.name x.2

theorem templateName_inj {name name' : Text} {d d' : Direction}
    (h : d.templateName name = d'.templateName name') : name = name' ∧ d = d' := by
  -- The endings are equally long, so the names are what stands before them.
  have hlength : ∀ d : Direction, ("." ++ d.name).length = 9 := by
    intro d
    cases d <;> rfl
  rw [Direction.templateName, Direction.templateName, List.append_assoc, List.append_assoc] at h
  obtain ⟨hname, hending⟩ := List.append_inj' h ((hlength d).trans (hlength d').symm)
  refine ⟨hname, ?_⟩
  cases d <;> cases d' <;> first | rfl | exact absurd hending (by decide)

private theorem head?_templateName {name : Text} (h : '/' ∉ name) (d : Direction) :
    (d.templateName name).head? ≠ some '/' := by
  cases name with
  | nil => cases d <;> decide
  | cons c name =>
    intro hc
    exact h (Option.some_inj.mp hc ▸ List.mem_cons_self)

theorem pathFor_inj {output : Path} {name name' : Text} {d d' : Direction} (h : '/' ∉ name)
    (h' : '/' ∉ name') (heq : pathFor output name d = pathFor output name' d') :
    name = name' ∧ d = d' :=
  templateName_inj
    ((Path.join_inj (head?_templateName h d) (head?_templateName h' d')).mp heq)

/-! ## The order of the targets -/

/-- Targets come in the order of their services' names, incoming before outgoing. -/
def Precedes (x y : Service × Direction) : Prop :=
  Text.compare x.1.name y.1.name = .lt ∨ x.1 = y.1 ∧ x.2 = .incoming ∧ y.2 = .outgoing

variable {r : Registry}

@[simp] theorem mem_targets {x : Service × Direction} : x ∈ targets r ↔ x.1 ∈ r.services := by
  obtain ⟨s, d⟩ := x
  have hall : d ∈ Direction.all := by cases d <;> decide
  simp [targets, hall]

theorem pairwise_targets (hr : r.Sound) : (targets r).Pairwise Precedes := by
  rw [targets, List.pairwise_flatMap]
  constructor
  · intro s _
    refine List.pairwise_map.mpr (List.pairwise_pair.mpr ?_)
    exact Or.inr ⟨rfl, rfl, rfl⟩
  · refine (Registry.pairwise_services hr).imp fun {s t} hlt x hx y hy ↦ ?_
    obtain ⟨d, -, rfl⟩ := List.mem_map.mp hx
    obtain ⟨e, -, rfl⟩ := List.mem_map.mp hy
    exact Or.inl hlt

theorem nodup_map_targetPath (hr : r.Plain) (output : Path) :
    ((targets r).map (targetPath output)).Nodup := by
  refine List.pairwise_map.mpr ((pairwise_targets hr.toSound).imp_of_mem ?_)
  intro x y hx hy hxy heq
  have hslash : ∀ z ∈ targets r, '/' ∉ z.1.name := fun z hz hmem ↦
    absurd (Registry.isNameChar_of_mem_name hr (mem_targets.mp hz) _ hmem) (by decide)
  obtain ⟨hname, hdirection⟩ := pathFor_inj (hslash x hx) (hslash y hy) heq
  rcases hxy with hlt | ⟨-, hin, hout⟩
  · have hself : Text.compare y.1.name y.1.name = .eq := Std.ReflCmp.compare_self
    rw [hname, hself] at hlt
    cases hlt
  · rw [hin, hout] at hdirection
    cases hdirection

end Generator
end PacketFilter
