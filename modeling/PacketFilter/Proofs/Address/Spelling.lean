import PacketFilter.Proofs.Address.Canonical

/-!
# Spellings of addresses

An address has many spellings. IPv6 addresses may be written in either case, with zeros left out or
not, and the last two groups may be written as octets, so that the address that embeds `1.2.3.4` is
`::ffff:1.2.3.4`, `::FFFF:1.2.3.4`, `::ffff:102:304` and more.

Whoever takes the text `::ffff:` off the front of a spelling is left with an address only if octets
follow it, without a length behind them. What is left is never an IPv6 address: groups that are read
up to the end behind the mark are too few to make one on their own, and no two colons can be among
them.
-/

namespace PacketFilter

namespace Address

open Text

variable {g : Grammar} {t u rest : Text}

/-! ## The characters of addresses -/

/-- The characters of addresses. -/
def isSign (c : Char) : Bool := (digitValue? 16 c).isSome || c == ':' || c == '.'

theorem toNat_of_isSign {c : Char} (h : isSign c = true) :
    (48 ≤ c.toNat ∧ c.toNat ≤ 57) ∨ (97 ≤ c.toNat ∧ c.toNat ≤ 102) ∨
      (65 ≤ c.toNat ∧ c.toNat ≤ 70) ∨ c = ':' ∨ c = '.' := by
  rw [isSign, Bool.or_eq_true, Bool.or_eq_true, beq_iff_eq, beq_iff_eq] at h
  rcases h with (h | rfl) | rfl
  · have hvalue : digitValue? 16 c ≠ none := Option.ne_none_iff_isSome.mpr h
    rw [digitValue?] at hvalue
    split at hvalue
    · rename_i hdigit
      exact Or.inl (toNat_of_isDigit hdigit)
    · simp only [Bool.and_eq_true, decide_eq_true_eq, Char.le_def, UInt32.le_iff_toNat_le] at hvalue
      split at hvalue
      · rename_i hlower
        exact Or.inr (Or.inl hlower)
      · split at hvalue
        · rename_i hupper
          exact Or.inr (Or.inr (Or.inl hupper))
        · exact absurd rfl hvalue
  · exact Or.inr (Or.inr (Or.inr (Or.inl rfl)))
  · exact Or.inr (Or.inr (Or.inr (Or.inr rfl)))

theorem not_isBlank_of_isSign {c : Char} (h : isSign c = true) : isBlank c = false := by
  rcases toNat_of_isSign h with h | h | h | rfl | rfl
  iterate 3
    · simp only [isBlank, Bool.or_eq_false_iff, Bool.and_eq_false_iff, decide_eq_false_iff_not,
        beq_eq_false_iff_ne]
      omega
  · rfl
  · rfl

/-- The text up to a rest has the characters of an address only. -/
def Passes (t rest : Text) : Prop := ∃ w, t = w ++ rest ∧ ∀ c ∈ w, isSign c = true

theorem Passes.refl (t : Text) : Passes t t := ⟨[], rfl, fun _ h ↦ absurd h List.not_mem_nil⟩

theorem Passes.trans (h : Passes t u) (h' : Passes u rest) : Passes t rest := by
  obtain ⟨w, rfl, hw⟩ := h
  obtain ⟨w', rfl, hw'⟩ := h'
  refine ⟨w ++ w', (List.append_assoc w w' rest).symm, fun c hc ↦ ?_⟩
  rcases List.mem_append.mp hc with hc | hc
  · exact hw c hc
  · exact hw' c hc

theorem passes_of_after? {opening : Text} (hopening : ∀ c ∈ opening, isSign c = true)
    (h : after? opening t = some rest) : Passes t rest :=
  ⟨opening, after?_eq_some_iff.mp h, hopening⟩

theorem isSome_digitValue?_of_decimal {c : Char} (h : (digitValue? 10 c).isSome = true) :
    (digitValue? 16 c).isSome = true := by
  by_contra hnone
  have hstops : Stops 16 [c] := stops_cons (by simpa using hnone) []
  rw [hstops.decimal c rfl] at h
  exact Bool.false_ne_true h

theorem passes_of_readOctet? {n : Nat} (h : readOctet? g t = some (n, rest)) : Passes t rest := by
  obtain ⟨w, rfl, hw, -⟩ := readOctet?_eq_some_iff.mp h
  refine ⟨w, rfl, fun c hc ↦ ?_⟩
  rw [isSign, isSome_digitValue?_of_decimal (hw.numeral.digits c hc)]
  rfl

theorem lt_of_readOctet? {n : Nat} (h : readOctet? g t = some (n, rest)) : n < 256 := by
  obtain ⟨w, -, hw, rfl, -⟩ := readOctet?_eq_some_iff.mp h
  exact hw.lt

theorem passes_of_readOctets? {octets : List Nat} (h : readOctets? g t = some (octets, rest)) :
    Passes t rest ∧ ∃ a b c d, octets = [a, b, c, d] ∧ a < 256 ∧ b < 256 ∧ c < 256 ∧ d < 256 := by
  have hdot : ∀ {t rest : Text}, after? "." t = some rest → Passes t rest :=
    fun h ↦ passes_of_after? (List.all_eq_true.mp rfl) h
  obtain ⟨⟨a, t₁⟩, ha, h⟩ := Option.bind_eq_some_iff.mp h
  obtain ⟨u₁, hu₁, h⟩ := Option.bind_eq_some_iff.mp h
  obtain ⟨⟨b, t₂⟩, hb, h⟩ := Option.bind_eq_some_iff.mp h
  obtain ⟨u₂, hu₂, h⟩ := Option.bind_eq_some_iff.mp h
  obtain ⟨⟨c, t₃⟩, hc, h⟩ := Option.bind_eq_some_iff.mp h
  obtain ⟨u₃, hu₃, h⟩ := Option.bind_eq_some_iff.mp h
  obtain ⟨⟨d, t₄⟩, hd, h⟩ := Option.bind_eq_some_iff.mp h
  obtain ⟨rfl, rfl⟩ := Prod.mk.inj (Option.some.inj h)
  have hpass₁ : Passes t u₁ := (passes_of_readOctet? ha).trans (hdot hu₁)
  have hpass₂ : Passes u₁ u₂ := (passes_of_readOctet? hb).trans (hdot hu₂)
  have hpass₃ : Passes u₂ u₃ := (passes_of_readOctet? hc).trans (hdot hu₃)
  refine ⟨((hpass₁.trans hpass₂).trans hpass₃).trans (passes_of_readOctet? hd), a, b, c, d, rfl, ?_⟩
  exact ⟨lt_of_readOctet? ha, lt_of_readOctet? hb, lt_of_readOctet? hc, lt_of_readOctet? hd⟩

theorem passes_of_readGroup? {n : Nat} (h : readGroup? t = some (n, rest)) : Passes t rest := by
  obtain ⟨w, rfl, hw, -⟩ := readGroup?_eq_some_iff.mp h
  refine ⟨w, rfl, fun c hc ↦ ?_⟩
  rw [isSign, hw.digits c hc]
  rfl

/-- A group that is all of a text leaves no room for octets. -/
theorem readOctets?_of_readGroup? {n : Nat} (h : readGroup? t = some (n, [])) :
    readOctets? g t = none := by
  obtain ⟨w, rfl, hw, -⟩ := readGroup?_eq_some_iff.mp h
  rw [List.append_nil]
  exact readOctets?_of_not_mem fun hdot ↦ absurd (hw.digits '.' hdot) (by decide)

/-! ## Reading groups -/

/-- The text in which the next group is looked for. -/
def groupStart? (first : Bool) (t : Text) : Option Text := if first then some t else after? ":" t

theorem passes_of_groupStart? {first : Bool} {start : Text} (h : groupStart? first t = some start) :
    Passes t start := by
  rcases first with _ | _
  · exact passes_of_after? (List.all_eq_true.mp rfl) h
  · exact Option.some.inj h ▸ Passes.refl t

/-- How groups are read: octets in the place of two groups end them, a group goes on with what
follows, and where there is neither nothing is read. -/
inductive ReadsGroups (g : Grammar) : Bool → Nat → Text → List Nat × Bool × Text → Prop
  | full (first : Bool) (t : Text) : ReadsGroups g first 0 t ([], false, t)
  | octets {first : Bool} {most : Nat} {t start rest : Text} {a b c d : Nat} :
      groupStart? first t = some start → 1 ≤ most →
      readOctets? g start = some ([a, b, c, d], rest) →
      ReadsGroups g first (most + 1) t ([a * 256 + b, c * 256 + d], true, rest)
  | group {first : Bool} {most : Nat} {t start mid rest : Text} {n : Nat} {ns : List Nat}
      {dotted : Bool} :
      groupStart? first t = some start → (1 ≤ most → readOctets? g start = none) →
      readGroup? start = some (n, mid) → ReadsGroups g false most mid (ns, dotted, rest) →
      ReadsGroups g first (most + 1) t (n :: ns, dotted, rest)
  | stop {first : Bool} {most : Nat} {t : Text} :
      (∀ start, groupStart? first t = some start →
        (1 ≤ most → readOctets? g start = none) ∧ readGroup? start = none) →
      ReadsGroups g first (most + 1) t ([], false, t)

theorem readsGroups (g : Grammar) (first : Bool) (most : Nat) (t : Text) :
    ReadsGroups g first most t (readGroups g first most t) := by
  induction most generalizing first t with
  | zero => exact .full first t
  | succ most ih =>
    rw [readGroups, ← groupStart?]
    rcases hstart : groupStart? first t with _ | start
    · rw [Option.bind_none, Option.bind_none, ite_self]
      refine .stop fun start h ↦ ?_
      rw [hstart] at h
      contradiction
    · rw [Option.bind_some, Option.bind_some]
      by_cases hoctets : 1 ≤ most ∧ (readOctets? g start).isSome
      · obtain ⟨⟨octets, rest⟩, hread⟩ := Option.isSome_iff_exists.mp hoctets.2
        obtain ⟨-, a, b, c, d, rfl, -⟩ := passes_of_readOctets? hread
        rw [if_pos hoctets.1, hread]
        exact .octets hstart hoctets.1 hread
      · have hnone : 1 ≤ most → readOctets? g start = none := by
          intro hmost
          exact Option.not_isSome_iff_eq_none.mp fun hsome ↦ hoctets ⟨hmost, hsome⟩
        have hif : (if 1 ≤ most then readOctets? g start else none) = none := by
          split
          · rename_i hmost
            exact hnone hmost
          · rfl
        rw [hif]
        rcases hgroup : readGroup? start with _ | ⟨n, mid⟩
        · refine .stop fun start' h ↦ ?_
          obtain rfl : start = start' := Option.some.inj (hstart.symm.trans h)
          exact ⟨hnone, hgroup⟩
        · exact .group hstart hnone hgroup (ih false mid)

section ReadsGroups

variable {first : Bool} {most : Nat} {ns : List Nat} {dotted : Bool}

theorem ReadsGroups.passes {x : List Nat × Bool × Text} (h : ReadsGroups g first most t x) :
    Passes t x.2.2 := by
  induction h with
  | full first t => exact .refl t
  | octets hstart _ hread =>
    exact (passes_of_groupStart? hstart).trans (passes_of_readOctets? hread).1
  | group hstart _ hread _ ih =>
    exact ((passes_of_groupStart? hstart).trans (passes_of_readGroup? hread)).trans ih
  | stop _ => exact .refl _

theorem ReadsGroups.length_le {x : List Nat × Bool × Text} (h : ReadsGroups g first most t x) :
    x.1.length ≤ most := by
  induction h with
  | full first t => exact Nat.le_refl 0
  | octets _ hmost _ => exact Nat.succ_le_succ hmost
  | group _ _ _ _ ih => exact Nat.succ_le_succ ih
  | stop _ => exact Nat.zero_le _

/-- Groups that are read up to the end are read with more room as well. -/
theorem ReadsGroups.widen {more : Nat} {x : List Nat × Bool × Text}
    (h : ReadsGroups g first most t x) (hend : x.2.2 = []) (hmore : most ≤ more) :
    readGroups g first more t = x := by
  induction h generalizing more with
  | full first t =>
    obtain rfl : t = [] := hend
    exact EndsGroups.readGroups_eq (Or.inl rfl) first more
  | octets hstart hmost hread =>
    obtain ⟨more, rfl⟩ := Nat.exists_eq_succ_of_ne_zero (Nat.ne_zero_of_lt hmore)
    exact readGroups_succ_of_octets hstart
      (Nat.le_trans hmost (Nat.le_of_succ_le_succ hmore)) hread
  | @group _ most _ start mid _ _ _ _ hstart hoctets hread htail ih =>
    obtain ⟨more, rfl⟩ := Nat.exists_eq_succ_of_ne_zero (Nat.ne_zero_of_lt hmore)
    have hnone : readOctets? g start = none := by
      -- With room for one group only, it was read up to the end.
      rcases most with _ | most
      · obtain rfl : mid = [] := by
          rcases htail
          exact hend
        exact readOctets?_of_readGroup? hread
      · exact hoctets (Nat.succ_le_succ (Nat.zero_le most))
    rw [readGroups_succ_of_group hstart hnone hread, ih hend (Nat.le_of_succ_le_succ hmore)]
  | @stop first _ t _ =>
    obtain rfl : t = [] := hend
    exact EndsGroups.readGroups_eq (Or.inl rfl) first more

end ReadsGroups

theorem passes_of_readGroups (g : Grammar) (first : Bool) (most : Nat) (t : Text) :
    Passes t (readGroups g first most t).2.2 := (readsGroups g first most t).passes

theorem passes_of_readAllGroups? {groups : List Nat}
    (h : readAllGroups? g t = some (groups, rest)) : Passes t rest := by
  have hhead := passes_of_readGroups g true 8 t
  rw [readAllGroups?] at h
  split at h
  · rename_i head dotted mid hread
    rw [hread] at hhead
    split at h
    · exact (Prod.mk.inj (Option.some.inj h)).2 ▸ hhead
    · split at h
      · contradiction
      · obtain ⟨mid', hmid', h⟩ := Option.bind_eq_some_iff.mp h
        have htail := passes_of_readGroups g true (8 - head.length - g.shortestRun) mid'
        have hrest := (Prod.mk.inj (Option.some.inj h)).2
        rw [← hrest]
        exact (hhead.trans (passes_of_after? (List.all_eq_true.mp rfl) hmid')).trans htail

/-- An address is the octets of its text or, if these are not all of it, its groups. -/
theorem read?_eq_some_iff {a : Address} :
    read? g t = some a ↔
      (∃ octets, readOctets? g t = some (octets, []) ∧ a = ofOctets octets) ∨
      ((∀ octets, readOctets? g t ≠ some (octets, [])) ∧
        ∃ groups, readAllGroups? g t = some (groups, []) ∧ a = ofGroups groups) := by
  by_cases hoctets : ∃ octets, readOctets? g t = some (octets, [])
  · obtain ⟨octets, hread⟩ := hoctets
    rw [read?_of_octets hread, Option.some_inj]
    constructor
    · rintro rfl
      exact Or.inl ⟨octets, hread, rfl⟩
    · rintro (⟨octets', hread', rfl⟩ | ⟨hnone, -⟩)
      · rw [hread] at hread'
        rw [(Prod.mk.inj (Option.some.inj hread')).1]
      · exact absurd hread (hnone octets)
  · rw [not_exists] at hoctets
    have hother : ¬∃ octets, readOctets? g t = some (octets, []) ∧ a = ofOctets octets := by
      rintro ⟨octets, hread, -⟩
      exact hoctets octets hread
    rw [or_iff_right hother, and_iff_right hoctets]
    have hgroups : read? g t = ((readAllGroups? g t).filter (·.2 = [])).map (ofGroups ·.1) := by
      rw [read?]
      rcases hread : readOctets? g t with _ | ⟨octets, _ | ⟨c, mid⟩⟩
      · rcases readAllGroups? g t with _ | ⟨groups, _ | ⟨c, mid⟩⟩ <;> rfl
      · exact absurd hread (hoctets octets)
      · rcases readAllGroups? g t with _ | ⟨groups, _ | ⟨c, mid⟩⟩ <;> rfl
    rw [hgroups, Option.map_eq_some_iff]
    simp only [Option.filter_eq_some_iff, decide_eq_true_eq]
    constructor
    · rintro ⟨⟨groups, rest⟩, ⟨hall, rfl⟩, rfl⟩
      exact ⟨groups, hall, rfl⟩
    · rintro ⟨groups, hall, rfl⟩
      exact ⟨(groups, []), ⟨hall, rfl⟩, rfl⟩

@[simp] theorem read?_nil (g : Grammar) : read? g [] = none := by
  rcases g with ⟨padded, shortest⟩
  rfl

theorem isSign_of_read? {a : Address} (h : read? g t = some a) :
    t ≠ [] ∧ ∀ c ∈ t, isSign c = true := by
  constructor
  · rintro rfl
    rw [read?_nil] at h
    contradiction
  · have hpasses : Passes t [] := by
      rcases read?_eq_some_iff.mp h with ⟨octets, hread, -⟩ | ⟨-, groups, hread, -⟩
      · exact (passes_of_readOctets? hread).1
      · exact passes_of_readAllGroups? hread
    obtain ⟨w, rfl, hw⟩ := hpasses
    rw [List.append_nil]
    exact hw

/-! ## Behind the mark of mapped addresses -/

theorem exists_of_readAllGroups?_mark (hrun : g.shortestRun ≤ 2) {groups : List Nat}
    (h : readAllGroups? g (mark ++ t) = some (groups, [])) :
    ∃ ns dotted, readGroups g true (7 - g.shortestRun) t = (ns, dotted, []) := by
  rw [readAllGroups?_mark hrun] at h
  obtain ⟨-, hend⟩ := Prod.mk.inj (Option.some.inj h)
  obtain ⟨most, hmost⟩ : ∃ most, 7 - g.shortestRun = most + 1 := ⟨6 - g.shortestRun, by omega⟩
  rw [hmost] at hend ⊢
  have hreads := readsGroups g false (most + 1) (':' :: t)
  generalize readGroups g false (most + 1) (':' :: t) = x at hend hreads
  have hfirst : ReadsGroups g true (most + 1) t x := by
    rcases hreads with _ | ⟨hstart, hroom, hread⟩ | ⟨hstart, hoctets, hread, htail⟩ | _
    · exact .octets hstart hroom hread
    · exact .group hstart hoctets hread htail
    · exact absurd hend (List.cons_ne_nil _ _)
  exact ⟨x.1, x.2.1, (hfirst.widen hend (Nat.le_refl _)).trans (by rw [← hend])⟩

/-- What stands behind the mark is not an IPv6 address. -/
theorem readAllGroups?_of_mark (hrun : g.shortestRun ≤ 2) {groups groups' : List Nat}
    (h : readAllGroups? g (mark ++ t) = some (groups, [])) :
    readAllGroups? g t ≠ some (groups', []) := by
  obtain ⟨ns, dotted, hread⟩ := exists_of_readAllGroups?_mark hrun h
  have hreads := readsGroups g true (7 - g.shortestRun) t
  rw [hread] at hreads
  have hlength : ns.length ≤ 7 - g.shortestRun := hreads.length_le
  rw [readAllGroups?, hreads.widen rfl (by omega)]
  simp only [if_neg (show ¬ns.length = 8 by omega)]
  intro hsome
  rcases dotted with _ | _
  · contradiction
  · contradiction

@[simp] theorem readOctets?_mark (t : Text) : readOctets? g (mark ++ t) = none :=
  readOctets?_of_stops (stops_cons (by decide) _)

theorem read?_mark_append_eq_some_iff {a : Address} :
    read? g (mark ++ t) = some a ↔
      ∃ groups, readAllGroups? g (mark ++ t) = some (groups, []) ∧ a = ofGroups groups := by
  simp only [read?_eq_some_iff, readOctets?_mark, reduceCtorEq, false_and, exists_false,
    false_or, ne_eq, not_false_eq_true, implies_true, true_and]

/-- What stands behind the mark is an address only as octets. -/
theorem family_of_read?_mark (hrun : g.shortestRun ≤ 2) {a b : Address}
    (ha : read? g (mark ++ t) = some a) (hb : read? g t = some b) : b.family = .v4 := by
  rcases read?_eq_some_iff.mp hb with ⟨octets, -, rfl⟩ | ⟨-, groups, hgroups, -⟩
  · rfl
  · obtain ⟨groups', hgroups', -⟩ := read?_mark_append_eq_some_iff.mp ha
    exact absurd hgroups (readAllGroups?_of_mark hrun hgroups')

theorem family_of_mark {a : Address} (h : read? g (mark ++ t) = some a) : a.family = .v6 := by
  obtain ⟨groups, -, rfl⟩ := read?_mark_append_eq_some_iff.mp h
  rfl

theorem read?_mark (hrun : g.shortestRun ≤ 2) : read? g mark = none := by
  have hnone : readGroups g false (7 - g.shortestRun) [':'] = ([], false, [':']) := by
    refine readGroups_of_stops fun start hstart ↦ ?_
    obtain rfl : [] = start := Option.some.inj hstart
    exact stops_nil 16
  rw [Option.eq_none_iff_forall_ne_some]
  intro a ha
  rw [← List.append_nil mark] at ha
  obtain ⟨groups, hgroups, -⟩ := read?_mark_append_eq_some_iff.mp ha
  rw [readAllGroups?_mark hrun, hnone] at hgroups
  exact absurd (Prod.mk.inj (Option.some.inj hgroups)).2 (List.cons_ne_nil _ _)

theorem value_ofGroups_mark {w x y z : Nat} (hw : w < 256) (hx : x < 256) (hy : y < 256)
    (hz : z < 256) :
    (ofGroups [0, 0, 0, 0, 0, 0xFFFF, w * 256 + x, y * 256 + z]).value =
      0xFFFF * 2 ^ 32 + assemble 256 [w, x, y, z] := by
  have hvalues : Bits.values 128 = 2 ^ 128 := rfl
  show assemble 65536 _ % Bits.values 128 = _
  simp only [assemble, List.foldl_cons, List.foldl_nil, hvalues]
  omega

theorem read?_mark_of_v4 (hrun : g.shortestRun ≤ 2) {a : Address} (ha : read? g t = some a)
    (hv4 : a.family = .v4) :
    ∃ b, read? g (mark ++ t) = some b ∧ b.isMapped = true ∧ b.unmapped = a := by
  rcases read?_eq_some_iff.mp ha with ⟨octets, hoctets, rfl⟩ | ⟨-, groups, -, rfl⟩
  · obtain ⟨-, w, x, y, z, rfl, hw, hx, hy, hz⟩ := passes_of_readOctets? hoctets
    have hvalue := value_ofGroups_mark hw hx hy hz
    have hlt : assemble 256 [w, x, y, z] < 2 ^ 32 := by
      simp only [assemble, List.foldl_cons, List.foldl_nil]
      omega
    have hvalues : Bits.values 32 = 2 ^ 32 := rfl
    have hmapped :
        (ofGroups [0, 0, 0, 0, 0, 0xFFFF, w * 256 + x, y * 256 + z]).isMapped = true := by
      rw [isMapped, hvalue, hvalues, Bool.and_eq_true]
      exact ⟨rfl, beq_iff_eq.mpr (by omega)⟩
    have hread := read?_of_groups (readOctets?_mark t) (readAllGroups?_mark_of_octets hrun hoctets)
    refine ⟨_, hread, hmapped, ?_⟩
    rw [unmapped, if_pos hmapped]
    refine eq_of_family_of_value rfl ?_
    show (ofGroups _).value % Bits.values 32 = assemble 256 _ % Bits.values 32
    rw [hvalue, hvalues]
    omega
  · contradiction

end Address

namespace Range

open Text Address

variable {t u : Text} {r : Range}

/-- A single address that embeds an IPv4 address. -/
def IsMappedHost (r : Range) : Prop := r.length = r.family.width ∧ r.address.isMapped = true

/-- A single address as the IPv4 address that it embeds, if it does. -/
def reduced (r : Range) : Range := if r.length = r.family.width then host r.address.unmapped else r

@[simp] theorem reduced_eq_self_iff : r.reduced = r ↔ ¬r.IsMappedHost := by
  rw [IsMappedHost, reduced, unmapped]
  by_cases hhost : r.length = r.family.width
  · by_cases hmapped : r.address.isMapped = true
    · rw [if_pos hhost, if_pos hmapped]
      refine iff_of_false (fun h ↦ ?_) fun h ↦ h ⟨hhost, hmapped⟩
      have hv6 : r.address.family = .v6 := by
        rw [isMapped, Bool.and_eq_true, decide_eq_true_eq] at hmapped
        exact hmapped.1
      rw [← h] at hv6
      contradiction
    · rw [if_pos hhost, if_neg hmapped]
      exact iff_of_true (eq_of_address_of_length rfl hhost.symm) fun h ↦ hmapped h.2
  · rw [if_neg hhost]
    exact iff_of_true rfl fun h ↦ hhost h.1

@[simp] theorem toOption_parse (t : Text) : (parse t).toOption = read? (trim t) := by
  rw [parse]
  rcases read? (trim t) with _ | r
  · rfl
  · rfl

theorem read?_of_parse (ht : trim t = t) (h : parse t = .ok r) : read? t = some r := by
  rw [← ht, ← toOption_parse, h]
  rfl

theorem read?_of_not_mem (h : '/' ∉ t) : read? t = (Address.parse? t).map host := by
  rw [read?, cut?_eq_none_iff.mpr h]

theorem read?_append_cons_eq_some_iff {w ds : Text} (h : '/' ∉ w) :
    read? (w ++ '/' :: ds) = some r ↔
      ∃ a n, Address.read? .ranged w = some a ∧ readLength? ds = some n ∧
        ∃ hn : n ≤ a.family.width, r = cut a n hn := by
  rw [read?, cut?_append_cons h]
  constructor
  · intro hread
    obtain ⟨a, ha, hread⟩ := Option.bind_eq_some_iff.mp hread
    obtain ⟨n, hn, hread⟩ := Option.bind_eq_some_iff.mp hread
    split at hread
    · rename_i hle
      exact ⟨a, n, ha, hn, hle, (Option.some.inj hread).symm⟩
    · contradiction
  · rintro ⟨a, n, ha, hn, hle, rfl⟩
    exact Option.bind_eq_some_iff.mpr
      ⟨a, ha, Option.bind_eq_some_iff.mpr ⟨n, hn, dif_pos hle⟩⟩

/-- A slash and a number. -/
def IsLength (tail : Text) : Prop := ∃ ds, tail = '/' :: ds ∧ ds ≠ [] ∧ ∀ c ∈ ds, isDigit c = true

/-- A range is spelled by its address, behind which a length may stand. -/
theorem exists_of_read? (h : read? t = some r) :
    ∃ w tail g a, t = w ++ tail ∧ g.shortestRun ≤ 2 ∧ Address.read? g w = some a ∧
      (tail = [] ∨ IsLength tail) := by
  by_cases hslash : '/' ∈ t
  · obtain ⟨w, ds, rfl, hw⟩ := List.eq_append_cons_of_mem hslash
    obtain ⟨a, n, ha, hn, -⟩ := (read?_append_cons_eq_some_iff hw).mp h
    obtain ⟨-, hnumber⟩ := Option.ite_none_right_eq_some.mp hn
    obtain ⟨⟨hne, hall⟩, -⟩ := Option.ite_none_right_eq_some.mp hnumber
    refine ⟨w, _, .ranged, a, rfl, by decide, ha, Or.inr ⟨ds, rfl, hne, fun c hc ↦ ?_⟩⟩
    exact isSome_digitValue?_iff.mp (List.all_eq_true.mp hall c hc)
  · rw [read?_of_not_mem hslash] at h
    obtain ⟨a, ha, -⟩ := Option.map_eq_some_iff.mp h
    exact ⟨t, [], .bare, a, (List.append_nil t).symm, by decide, ha, Or.inl rfl⟩

theorem not_isBlank_of_read? (h : read? t = some r) : ∀ c ∈ t, isBlank c = false := by
  obtain ⟨w, tail, g, a, rfl, -, ha, htail⟩ := exists_of_read? h
  intro c hc
  rcases List.mem_append.mp hc with hc | hc
  · exact not_isBlank_of_isSign ((isSign_of_read? ha).2 c hc)
  · rcases htail with rfl | ⟨ds, rfl, -, hdigits⟩
    · exact absurd hc List.not_mem_nil
    · rcases List.mem_cons.mp hc with rfl | hc
      · rfl
      · have hdigit := isSome_digitValue?_of_decimal (isSome_digitValue?_iff.mpr (hdigits c hc))
        refine not_isBlank_of_isSign ?_
        rw [isSign, hdigit]
        rfl

/-- What is left of a spelling behind the mark of mapped addresses. -/
def unmarked (t : Text) : Text := (after? mark t).getD t

/-- Behind the mark there is still the text of an address, with or without a length. -/
theorem exists_unmarked_eq (h : read? t = some r) :
    ∃ w tail, unmarked t = w ++ tail ∧ w ≠ [] ∧ (∀ c ∈ w, isSign c = true) ∧
      (tail = [] ∨ IsLength tail) := by
  obtain ⟨w, tail, g, a, rfl, hrun, ha, htail⟩ := exists_of_read? h
  obtain ⟨hne, hsigns⟩ := isSign_of_read? ha
  rw [unmarked]
  rcases hmark : after? mark (w ++ tail) with _ | u
  · exact ⟨w, tail, rfl, hne, hsigns, htail⟩
  · rw [Option.getD_some]
    rcases List.append_eq_append_iff.mp (after?_eq_some_iff.mp hmark) with
      ⟨front, hfront, rfl⟩ | ⟨front, rfl, rfl⟩
    · -- The mark holds no slash, so it can end before the address does only if it is all of it.
      rcases front with _ | ⟨c, front⟩
      · rw [List.append_nil] at hfront
        rw [← hfront, read?_mark hrun] at ha
        contradiction
      · rcases htail with htail | ⟨ds, hds, -⟩
        · exact absurd htail (List.cons_ne_nil _ _)
        · obtain rfl : c = '/' := (List.cons.inj hds).1
          have hmem : '/' ∈ mark := by
            rw [hfront]
            exact List.mem_append_right w List.mem_cons_self
          exact absurd hmem (by decide)
    · refine ⟨front, tail, rfl, ?_, fun c hc ↦ hsigns c (List.mem_append_right _ hc), htail⟩
      rintro rfl
      rw [List.append_nil, read?_mark hrun] at ha
      contradiction

/-- The spellings whose range is still known when the mark is taken off. A range that is no mapped
address may not be written with the mark, and a mapped address must be: with octets behind it, and
without a length. -/
def OutlastsMark (t : Text) (r : Range) : Prop :=
  match after? mark t with
  | some rest => ∃ a : Address, a.family = .v4 ∧ Address.parse? rest = some a
  | none => ¬r.IsMappedHost

theorem reduced_of_lt (h : r.length < r.family.width) : r.reduced = r :=
  if_neg (Nat.ne_of_lt h)

/-- Behind the mark there is the embedded address only if its octets are there. -/
theorem read?_eq_reduced_iff (h : read? (mark ++ u) = some r) :
    read? u = some r.reduced ↔ ∃ a : Address, a.family = .v4 ∧ Address.parse? u = some a := by
  have hmark : '/' ∉ mark := by decide
  by_cases hslash : '/' ∈ u
  · -- A length that an IPv4 address can have makes a range of many IPv6 addresses.
    refine iff_of_false (fun hu ↦ ?_) ?_
    · obtain ⟨w, ds, rfl, hw⟩ := List.eq_append_cons_of_mem hslash
      have hmarked : '/' ∉ mark ++ w := by
        rw [List.mem_append, not_or]
        exact ⟨hmark, hw⟩
      rw [← List.append_assoc] at h
      obtain ⟨a, n, ha, hn, hle, rfl⟩ := (read?_append_cons_eq_some_iff hmarked).mp h
      obtain ⟨b, m, hb, hm, hle', heq⟩ := (read?_append_cons_eq_some_iff hw).mp hu
      obtain rfl : n = m := Option.some.inj (hn.symm.trans hm)
      have ha6 : a.family = .v6 := family_of_mark ha
      have hb4 : b.family = .v4 := family_of_read?_mark (by decide) ha hb
      have hlt : (cut a n hle).length < (cut a n hle).family.width := by
        show n < a.family.width
        rw [hb4] at hle'
        rw [ha6]
        exact Nat.lt_of_le_of_lt hle' (by decide)
      rw [reduced_of_lt hlt] at heq
      have hfamily : a.family = b.family := congrArg family heq
      rw [ha6, hb4] at hfamily
      contradiction
    · rintro ⟨a, -, ha⟩
      exact absurd ((isSign_of_read? ha).2 '/' hslash) (by decide)
  · have hslash' : '/' ∉ mark ++ u := by
      rw [List.mem_append, not_or]
      exact ⟨hmark, hslash⟩
    rw [read?_of_not_mem hslash'] at h
    obtain ⟨a, ha, rfl⟩ := Option.map_eq_some_iff.mp h
    rw [read?_of_not_mem hslash, Option.map_eq_some_iff]
    constructor
    · rintro ⟨b, hb, -⟩
      exact ⟨b, family_of_read?_mark (by decide) ha hb, hb⟩
    · rintro ⟨b, hv4, hb⟩
      obtain ⟨a', ha', -, hunmapped⟩ := read?_mark_of_v4 (by decide) hb hv4
      obtain rfl : a' = a := Option.some.inj (ha'.symm.trans ha)
      exact ⟨b, hb, (congrArg host hunmapped.symm).trans (if_pos rfl).symm⟩

theorem parse_unmarked_iff (ht : trim t = t) (h : parse t = .ok r) :
    (parse (unmarked t)).toOption = some r.reduced ↔ OutlastsMark t r := by
  have hread := read?_of_parse ht h
  rw [unmarked, OutlastsMark, toOption_parse]
  rcases hmark : after? mark t with _ | u
  · rw [Option.getD_none, ht, hread]
    exact Option.some_inj.trans (eq_comm.trans reduced_eq_self_iff)
  · obtain rfl := after?_eq_some_iff.mp hmark
    have hu : trim u = u := trim_of_forall fun c hc ↦
      not_isBlank_of_read? hread c (List.mem_append_right mark hc)
    rw [Option.getD_some, hu]
    exact read?_eq_reduced_iff hread

end Range
end PacketFilter
