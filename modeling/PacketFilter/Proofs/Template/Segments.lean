import PacketFilter.Proofs.Text.Pieces
import PacketFilter.Template.Render
import Mathlib.Data.List.TakeWhile

/-!
# Reading template lines

The segments of a line are put together from its parts, and nothing that is asked of a line depends
on how its literal text is cut: the tokens and the substituted text are *readings* that send the
concatenation of two literals to the concatenation of what each gives. `flatMap_foldr_push` says
once that such readings see the parts instead of the segments.

A line that is written as literal text with tokens in it is then read back as it was written, if no
literal holds a dollar sign or continues the name of the token before it.
-/

namespace PacketFilter.Template

/-! ## Readings of segments -/

namespace Segment

variable {α : Type} {f : Segment → List α}

theorem flatMap_push (hf : ∀ t u, f (text (t ++ u)) = f (text t) ++ f (text u)) (s : Segment)
    (rest : List Segment) : (push s rest).flatMap f = f s ++ rest.flatMap f := by
  have hnil : f (text []) = [] := List.self_eq_append_right.mp (hf [] [])
  cases s with
  | token k => rfl
  | text t =>
    cases t with
    | nil =>
      rw [push, hnil]
      rfl
    | cons c t =>
      cases rest with
      | nil => rfl
      | cons r rest =>
        cases r with
        | token k => rfl
        -- Two literals in a row are the only case in which something is put together.
        | text u =>
          rw [push, List.flatMap_cons, List.flatMap_cons, hf, List.append_assoc]
          exact fun h ↦ absurd h (by simp)

/-- A reading that concatenates over literal text does not see how the text is cut. -/
theorem flatMap_foldr_push (hf : ∀ t u, f (text (t ++ u)) = f (text t) ++ f (text u))
    (ss : List Segment) : (ss.foldr push []).flatMap f = ss.flatMap f := by
  induction ss with
  | nil => rfl
  | cons s ss ih => rw [List.foldr_cons, flatMap_push hf, ih, List.flatMap_cons]

/-- The token of a segment, if it is one. -/
def tokenOf : Segment → List Token
  | token k => [k]
  | text _ => []

end Segment

/-! ## Tokens -/

namespace Token

@[simp] theorem ofName?_name (k : Token) : ofName? k.name = some k := by cases k <;> rfl

theorem isNameChar_of_mem_name {k : Token} : ∀ c ∈ k.name, isNameChar c = true :=
  List.all_eq_true.mp (by cases k <;> decide)

theorem not_mem_name (k : Token) : '$' ∉ k.name := by cases k <;> decide

end Token

namespace Line

theorem tokens_eq_flatMap (l : Line) : l.tokens = l.segments.flatMap Segment.tokenOf := by
  rw [tokens]
  induction l.segments with
  | nil => rfl
  | cons s ss ih =>
    cases s with
    | token k => rw [List.filterMap_cons, List.flatMap_cons, ih]; rfl
    | text t => rw [List.filterMap_cons, List.flatMap_cons, ih]; rfl

@[simp] theorem has_iff {l : Line} {k : Token} : l.has k = true ↔ k ∈ l.tokens := by
  rw [has, decide_eq_true_eq, tokens_eq_flatMap, List.mem_flatMap]
  constructor
  · exact fun h ↦ ⟨_, h, List.mem_singleton_self k⟩
  · rintro ⟨s, hs, hk⟩
    cases s with
    | token k' => rwa [List.mem_singleton.mp hk]
    | text t => exact absurd hk List.not_mem_nil

end Line

/-! ## Lines written with tokens -/

/-- A token together with the literal text after it, as a line is written after its first dollar
sign. -/
structure Stretch where
  token : Token
  text : Text

namespace Stretch

/-- The stretch as templates write it. -/
def print (s : Stretch) : Text := s.token.print ++ s.text

/-- Whether the stretch is read back: its text has no dollar sign and does not continue the
token's name. -/
def IsReadable (s : Stretch) : Prop :=
  '$' ∉ s.text ∧ ∀ c, s.text.head? = some c → Token.isNameChar c = false

instance (s : Stretch) : Decidable s.IsReadable :=
  decidable_of_iff ('$' ∉ s.text ∧ s.text.head?.all (fun c ↦ !Token.isNameChar c) = true)
    (by unfold IsReadable; cases s.text <;> simp)

theorem ofPart_eq {s : Stretch} (h : s.IsReadable) :
    Segment.ofPart (s.token.name ++ s.text) = [.token s.token, .text s.text] := by
  have hname : (s.token.name ++ s.text).takeWhile Token.isNameChar = s.token.name := by
    rw [List.takeWhile_append_of_pos Token.isNameChar_of_mem_name]
    cases ht : s.text with
    | nil => rw [List.takeWhile_nil, List.append_nil]
    | cons c t =>
      rw [List.takeWhile_cons, h.2 c (by rw [ht]; rfl)]
      exact List.append_nil _
  rw [Segment.ofPart]
  simp only [hname, Token.ofName?_name, List.drop_left]

end Stretch

variable {lead : Text} {ss : List Stretch}

theorem splitBy_stretches (hlead : '$' ∉ lead) (hss : ∀ s ∈ ss, s.IsReadable) :
    Text.splitBy (· = '$') (lead ++ ss.flatMap Stretch.print) =
      lead :: ss.map fun s ↦ s.token.name ++ s.text := by
  have hone : ∀ t : Text, '$' ∉ t → Text.splitBy (· = '$') t = [t] := fun t ht ↦
    Text.splitBy_eq_singleton fun c hc ↦ decide_eq_false fun h ↦ ht (h ▸ hc)
  -- The name and the text of one stretch are the lead of those after it.
  induction ss generalizing lead with
  | nil =>
    rw [List.flatMap_nil, List.append_nil]
    exact hone lead hlead
  | cons s ss ih =>
    obtain ⟨hs, hss⟩ := List.forall_mem_cons.mp hss
    have hrest : '$' ∉ s.token.name ++ s.text := by
      rw [List.mem_append, not_or]
      exact ⟨Token.not_mem_name _, hs.1⟩
    rw [List.flatMap_cons, Stretch.print, Token.print, List.cons_append, List.cons_append,
      Text.splitBy_append_cons (decide_eq_true rfl), ih hrest hss, hone lead hlead]
    rfl

theorem segments_stretches (hlead : '$' ∉ lead) (hss : ∀ s ∈ ss, s.IsReadable) :
    segments (lead ++ ss.flatMap Stretch.print) =
      (.text lead :: ss.flatMap fun s ↦ [.token s.token, .text s.text]).foldr Segment.push [] := by
  rw [segments, splitBy_stretches hlead hss]
  simp only [List.flatMap_map]
  congr 2
  exact List.flatMap_congr fun s hs ↦ Stretch.ofPart_eq (hss s hs)

theorem Line.tokens_parse (hlead : '$' ∉ lead) (hss : ∀ s ∈ ss, s.IsReadable) :
    (Line.parse (lead ++ ss.flatMap Stretch.print)).tokens = ss.map Stretch.token := by
  rw [Line.tokens_eq_flatMap, Line.parse, segments_stretches hlead hss,
    Segment.flatMap_foldr_push fun _ _ ↦ rfl, List.flatMap_cons, List.flatMap_assoc]
  exact List.map_eq_flatMap.symm

theorem Line.tokens_parse_of_not_mem {t : Text} (h : '$' ∉ t) : (Line.parse t).tokens = [] := by
  have hnone : (Line.parse (t ++ [].flatMap Stretch.print)).tokens = [].map Stretch.token :=
    Line.tokens_parse h fun s hs ↦ absurd hs List.not_mem_nil
  rwa [List.flatMap_nil, List.append_nil] at hnone

theorem Line.substitute_parse (hlead : '$' ∉ lead) (hss : ∀ s ∈ ss, s.IsReadable) (hne : ss ≠ [])
    (c : Context) (family : Option Family) (port : Option Port) :
    (Line.parse (lead ++ ss.flatMap Stretch.print)).substitute c family port =
      Text.squeeze (lead ++ ss.flatMap fun s ↦ c.value family port s.token ++ s.text) := by
  have htokens : (Line.parse (lead ++ ss.flatMap Stretch.print)).hasTokens = true := by
    rw [Line.hasTokens, Line.tokens_parse hlead hss, decide_eq_true_eq, ne_eq, List.map_eq_nil_iff]
    exact hne
  rw [Line.substitute, if_pos htokens, Line.parse, segments_stretches hlead hss,
    Segment.flatMap_foldr_push fun _ _ ↦ rfl, List.flatMap_cons, List.flatMap_assoc]
  congr 2
  refine List.flatMap_congr fun s _ ↦ ?_
  rw [List.flatMap_cons, List.flatMap_singleton]
  rfl

/-! ## Templates of files -/

theorem exists_of_mem_parse {path : Path} {content : Text} {l : Line}
    (h : l ∈ (parse path content).lines) : ∃ raw, l = Line.parse raw := by
  obtain ⟨raw, -, rfl⟩ := List.mem_map.mp h
  exact ⟨raw, rfl⟩

theorem load_eq_ok_iff {tree : Tree} {p : Path} {t : Template} :
    load tree p = .ok t ↔ ∃ content, tree.load p = .ok content ∧ parse p content = t := by
  rw [load]
  cases tree.load p with
  | error cause =>
    refine iff_of_false (fun h ↦ by cases h) ?_
    rintro ⟨_, h, -⟩
    cases h
  | ok content =>
    constructor
    · intro h
      exact ⟨content, rfl, Except.ok.inj h⟩
    · rintro ⟨_, h, rfl⟩
      cases h
      rfl

end PacketFilter.Template
