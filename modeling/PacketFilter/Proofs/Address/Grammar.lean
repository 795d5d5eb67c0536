import PacketFilter.Proofs.Address.Spelling

/-!
# The grammar of addresses

An address is spelled by four octets, by eight groups, or by fewer groups around two colons, and
octets may stand in the place of the last two groups. `Spelling` is such a text taken apart, and
`Spelling.Suits` says what a grammar asks of the parts: how numerals look, how many groups there
are. What is read by a grammar is known from that. A text is an address if it is that of a spelling
that suits the grammar, and the spelling says which.

## Reading without looking ahead

Octets are tried before every group, and groups are read greedily, so it has to be shown that no
text is lost. Four octets are read where a group could be only if a dot follows the first numeral,
and behind a group there is a colon or nothing. And two colons end the groups before them, because
no group is empty.
-/

namespace PacketFilter.Address

open Text

variable {g : Grammar} {t w rest : Text}

/-! ## Octets -/

/-- The octets of an IPv4 address. -/
structure IsOctets (g : Grammar) (ws : List Text) : Prop where
  length_eq : ws.length = 4
  octets : ∀ w ∈ ws, IsOctet g w

theorem readOctets?_eq_some_iff {ns : List Nat} :
    readOctets? g t = some (ns, rest) ↔
      ∃ ws, IsOctets g ws ∧ t = joinWith "." ws ++ rest ∧ ws.map (digitsValue 10) = ns ∧
        Stops 10 rest := by
  constructor
  · intro h
    obtain ⟨⟨a, t₁⟩, ha, h⟩ := Option.bind_eq_some_iff.mp h
    obtain ⟨u₁, hu₁, h⟩ := Option.bind_eq_some_iff.mp h
    obtain ⟨⟨b, t₂⟩, hb, h⟩ := Option.bind_eq_some_iff.mp h
    obtain ⟨u₂, hu₂, h⟩ := Option.bind_eq_some_iff.mp h
    obtain ⟨⟨c, t₃⟩, hc, h⟩ := Option.bind_eq_some_iff.mp h
    obtain ⟨u₃, hu₃, h⟩ := Option.bind_eq_some_iff.mp h
    obtain ⟨⟨d, t₄⟩, hd, h⟩ := Option.bind_eq_some_iff.mp h
    obtain ⟨rfl, rfl⟩ := Prod.mk.inj (Option.some.inj h)
    obtain ⟨w, rfl, hw, rfl, -⟩ := readOctet?_eq_some_iff.mp ha
    obtain rfl := after?_eq_some_iff.mp hu₁
    obtain ⟨x, rfl, hx, rfl, -⟩ := readOctet?_eq_some_iff.mp hb
    obtain rfl := after?_eq_some_iff.mp hu₂
    obtain ⟨y, rfl, hy, rfl, -⟩ := readOctet?_eq_some_iff.mp hc
    obtain rfl := after?_eq_some_iff.mp hu₃
    obtain ⟨z, rfl, hz, rfl, hstops⟩ := readOctet?_eq_some_iff.mp hd
    refine ⟨[w, x, y, z], ⟨rfl, ?_⟩, by simp [joinWith], rfl, hstops⟩
    simp only [List.forall_mem_cons, List.not_mem_nil, false_imp_iff, implies_true, and_true]
    exact ⟨hw, hx, hy, hz⟩
  · rintro ⟨ws, ⟨hlength, hws⟩, rfl, rfl, hstops⟩
    obtain ⟨w, x, y, z, rfl⟩ := List.length_eq_four.mp hlength
    simp only [List.forall_mem_cons, List.not_mem_nil, false_imp_iff, implies_true, and_true] at hws
    obtain ⟨hw, hx, hy, hz⟩ := hws
    have hread : ∀ {v : Text}, IsOctet g v → ∀ u, readOctet? g (v ++ '.' :: u) =
        some (digitsValue 10 v, '.' :: u) := fun {v} hv u ↦
      readOctet?_eq_some_iff.mpr ⟨v, rfl, hv, rfl, stops_cons (by decide) u⟩
    have hlast : readOctet? g (z ++ rest) = some (digitsValue 10 z, rest) :=
      readOctet?_eq_some_iff.mpr ⟨z, rfl, hz, rfl, hstops⟩
    have hafter : ∀ u : Text, after? "." ('.' :: u) = some u := fun _ ↦ rfl
    have htext : joinWith "." [w, x, y, z] ++ rest =
        w ++ '.' :: (x ++ '.' :: (y ++ '.' :: (z ++ rest))) := by
      simp [joinWith]
    rw [htext, readOctets?, hread hw]
    simp only [Option.bind_eq_bind, Option.bind_some, hafter, hread hx, hread hy, hlast,
      List.map_cons, List.map_nil]

/-- The end of a text, or a colon. -/
def AtColon (t : Text) : Prop := ∀ c ∈ t.head?, c = ':'

@[simp] theorem atColon_nil : AtColon [] := fun c hc ↦ absurd hc (by simp)

theorem atColon_cons (t : Text) : AtColon (':' :: t) := fun _ hc ↦ (Option.some.inj hc).symm

theorem AtColon.stops {base : Nat} (h : AtColon t) : Stops base t := by
  intro c hc
  rw [h c hc]
  rfl

theorem EndsGroups.atColon (h : EndsGroups t) : AtColon t := by
  rcases h with rfl | ⟨u, rfl⟩
  · exact atColon_nil
  · exact atColon_cons _

theorem not_mem_of_isNumeral {base most : Nat} {c : Char} (hc : digitValue? base c = none)
    (h : IsNumeral base most w) : c ∉ w := by
  intro hmem
  have hdigit := h.digits c hmem
  rw [hc] at hdigit
  exact Bool.false_ne_true hdigit

/-- Where a group is written, no octets are read. -/
theorem readOctets?_of_isNumeral (hw : IsNumeral 16 4 w) (hrest : AtColon rest) :
    readOctets? g (w ++ rest) = none := by
  rw [Option.eq_none_iff_forall_ne_some]
  rintro ⟨ns, u⟩ hread
  obtain ⟨⟨n, afterFirst⟩, hfirst, hread⟩ := Option.bind_eq_some_iff.mp hread
  obtain ⟨afterDot, hdot, -⟩ := Option.bind_eq_some_iff.mp hread
  obtain ⟨v, heq, hv, -, -⟩ := readOctet?_eq_some_iff.mp hfirst
  obtain rfl : afterFirst = '.' :: afterDot := after?_eq_some_iff.mp hdot
  -- The dot stands within the group, directly behind it, or the octet goes on behind the group.
  rcases List.append_eq_append_iff.mp heq with ⟨more, rfl, hmore⟩ | ⟨more, rfl, hmore⟩
  · rcases more with _ | ⟨c, more⟩
    · rw [hmore] at hrest
      exact absurd (hrest '.' rfl) (by decide)
    · obtain rfl : c = ':' := hrest c (by rw [hmore]; rfl)
      exact not_mem_of_isNumeral (c := ':') (by decide) hv.numeral (by simp)
  · rcases more with _ | ⟨c, more⟩
    · rw [List.nil_append] at hmore
      rw [← hmore] at hrest
      exact absurd (hrest '.' rfl) (by decide)
    · obtain rfl : '.' = c := (List.cons.inj hmore).1
      exact not_mem_of_isNumeral (c := '.') (by decide) hw (by simp)

/-! ## Rows of groups -/

/-- Groups between colons, of which octets may be the last two. -/
inductive Row where
  | stop
  | octets (ws : List Text)
  | group (w : Text) (row : Row)
  deriving DecidableEq

namespace Row

/-- What stands between the colons. -/
def pieces : Row → List Text
  | stop => []
  | octets ws => [joinWith "." ws]
  | group w row => w :: row.pieces

/-- The row as it is written. -/
def text (row : Row) : Text := joinWith ":" row.pieces

/-- The row as it is written behind a group. -/
def behind (row : Row) : Text := row.pieces.flatMap (':' :: ·)

/-- The groups that four octets make. -/
def pair : List Nat → List Nat
  | [a, b, c, d] => [a * 256 + b, c * 256 + d]
  | _ => []

/-- The values of the groups. -/
def values : Row → List Nat
  | stop => []
  | octets ws => pair (ws.map (digitsValue 10))
  | group w row => digitsValue 16 w :: row.values

/-- The number of groups. -/
def size : Row → Nat
  | stop => 0
  | octets _ => 2
  | group _ row => row.size + 1

/-- Whether there are octets at the end of the row. -/
def isDotted : Row → Bool
  | stop => false
  | octets _ => true
  | group _ row => row.isDotted

/-- What a grammar asks of a row. -/
def Suits (g : Grammar) : Row → Prop
  | stop => True
  | octets ws => IsOctets g ws
  | group w row => IsNumeral 16 4 w ∧ row.Suits g

variable {row : Row}

@[simp] theorem text_group (w : Text) (row : Row) : (group w row).text = w ++ row.behind :=
  joinWith_cons ":" w row.pieces

/-- A row as it is written at the start or behind a group. -/
def after (first : Bool) (row : Row) : Text := if first then row.text else row.behind

theorem atColon_behind (row : Row) (hrest : AtColon rest) : AtColon (row.behind ++ rest) := by
  cases row with
  | stop => exact hrest
  | octets ws => exact atColon_cons _
  | group w row => exact atColon_cons _

theorem length_values (h : row.Suits g) : row.values.length = row.size := by
  induction row with
  | stop => rfl
  | octets ws =>
    obtain ⟨w, x, y, z, rfl⟩ := List.length_eq_four.mp h.length_eq
    rfl
  | group w row ih => exact congrArg (· + 1) (ih h.2)

/-! ### Reading a row -/

theorem groupStart?_eq_some_iff {first : Bool} {start : Text} :
    groupStart? first t = some start ↔ t = (if first then [] else [':']) ++ start := by
  cases first with
  | true => exact Option.some_inj
  | false => exact after?_eq_some_iff

@[simp] theorem after_octets (first : Bool) (ws : List Text) :
    (octets ws).after first = (if first then [] else [':']) ++ joinWith "." ws := by
  cases first with
  | true => rfl
  | false => exact List.append_nil _

@[simp] theorem after_group (first : Bool) (w : Text) (row : Row) :
    (group w row).after first = (if first then [] else [':']) ++ (w ++ row.behind) := by
  cases first with
  | true => exact text_group w row
  | false => rfl

theorem exists_of_readsGroups {first : Bool} {most : Nat} {x : List Nat × Bool × Text}
    (h : ReadsGroups g first most t x) :
    ∃ row : Row, row.Suits g ∧ row.size ≤ most ∧ t = row.after first ++ x.2.2 ∧
      x.1 = row.values ∧ x.2.1 = row.isDotted := by
  have hstop : ∀ first : Bool, stop.after first = [] := fun first ↦ by cases first <;> rfl
  induction h with
  | full first t => exact ⟨stop, trivial, Nat.le_refl 0, by rw [hstop]; rfl, rfl, rfl⟩
  | octets hstart hmost hread =>
    obtain ⟨ws, hws, rfl, hvalues, -⟩ := readOctets?_eq_some_iff.mp hread
    refine ⟨octets ws, hws, Nat.succ_le_succ hmost, ?_, ?_, rfl⟩
    · rw [after_octets, List.append_assoc]
      exact groupStart?_eq_some_iff.mp hstart
    · rw [values, hvalues]
      rfl
  | group hstart _ hread _ ih =>
    obtain ⟨w, rfl, hw, rfl, -⟩ := readGroup?_eq_some_iff.mp hread
    obtain ⟨row, hrow, hsize, hmid, hvalues, hdotted⟩ := ih
    refine ⟨group w row, ⟨hw, hrow⟩, Nat.succ_le_succ hsize, ?_, congrArg _ hvalues, hdotted⟩
    rw [after_group, List.append_assoc, List.append_assoc, groupStart?_eq_some_iff.mp hstart, hmid]
    rfl
  | stop _ => exact ⟨stop, trivial, Nat.zero_le _, by rw [hstop]; rfl, rfl, rfl⟩

/-- A row is read where it ends, if there is room for its groups. -/
theorem readGroups_eq {most : Nat} (h : row.Suits g) (hmost : row.size ≤ most)
    (hrest : EndsGroups rest) (first : Bool) :
    readGroups g first most (row.after first ++ rest) = (row.values, row.isDotted, rest) := by
  have hstart : ∀ (first : Bool) (u : Text),
      groupStart? first ((if first then [] else [':']) ++ u) = some u :=
    fun _ _ ↦ groupStart?_eq_some_iff.mpr rfl
  induction row generalizing first most with
  | stop =>
    have hstop : stop.after first = [] := by cases first <;> rfl
    rw [hstop]
    exact hrest.readGroups_eq first most
  | octets ws =>
    obtain ⟨most, rfl⟩ := Nat.exists_eq_succ_of_ne_zero (Nat.ne_zero_of_lt hmost)
    have hread : readOctets? g (joinWith "." ws ++ rest) = some (ws.map (digitsValue 10), rest) :=
      readOctets?_eq_some_iff.mpr ⟨ws, h, rfl, rfl, hrest.stops.decimal⟩
    obtain ⟨w, x, y, z, rfl⟩ := List.length_eq_four.mp h.length_eq
    rw [after_octets, List.append_assoc]
    exact readGroups_succ_of_octets (hstart first _) (Nat.le_of_succ_le_succ hmost) hread
  | group w row ih =>
    obtain ⟨most, rfl⟩ := Nat.exists_eq_succ_of_ne_zero (Nat.ne_zero_of_lt hmost)
    have hcolon := row.atColon_behind hrest.atColon
    have hread : readGroup? (w ++ (row.behind ++ rest)) =
        some (digitsValue 16 w, row.behind ++ rest) :=
      readGroup?_eq_some_iff.mpr ⟨w, rfl, h.1, rfl, hcolon.stops⟩
    have htail := ih h.2 (Nat.le_of_succ_le_succ hmost) false
    rw [after_group, List.append_assoc, List.append_assoc,
      readGroups_succ_of_group (hstart first _) (readOctets?_of_isNumeral h.1 hcolon) hread]
    rw [show row.behind = row.after false from rfl, htail]
    rfl

/-- A row that is not octets alone does not start with octets. -/
theorem readOctets?_eq_none (h : row.Suits g) (hne : ∀ ws, row ≠ octets ws)
    (hrest : AtColon rest) : readOctets? g (row.text ++ rest) = none := by
  cases row with
  | stop => exact readOctets?_of_stops hrest.stops
  | octets ws => exact absurd rfl (hne ws)
  | group w row =>
    rw [text_group, List.append_assoc]
    exact readOctets?_of_isNumeral h.1 (row.atColon_behind hrest)

end Row

/-- What a grammar asks of the rows around two colons. The colons stand for the groups that are
missing, of which there have to be enough. -/
structure SuitAround (g : Grammar) (head tail : Row) : Prop where
  suits_head : head.Suits g
  plain : head.isDotted = false
  lt : head.size < 8
  suits_tail : tail.Suits g
  room : tail.size ≤ 8 - head.size - g.shortestRun

/-! ## Spellings -/

/-- A text that may be an address, taken apart. -/
inductive Spelling where
  | dotted (ws : List Text)
  | full (row : Row)
  | shortened (head tail : Row)
  deriving DecidableEq

namespace Spelling

/-- The text that is taken apart. -/
def text : Spelling → Text
  | dotted ws => joinWith "." ws
  | full row => row.text
  | shortened head tail => head.text ++ ':' :: ':' :: tail.text

/-- What a grammar asks of a spelling. -/
def Suits (g : Grammar) : Spelling → Prop
  | dotted ws => IsOctets g ws
  | full row => row.Suits g ∧ row.size = 8
  | shortened head tail => SuitAround g head tail

/-- The address that is spelled. -/
def address : Spelling → Address
  | dotted ws => ofOctets (ws.map (digitsValue 10))
  | full row => ofGroups row.values
  | shortened head tail =>
    ofGroups (head.values ++ List.replicate (8 - head.size - tail.size) 0 ++ tail.values)

end Spelling

theorem readAllGroups?_full {row : Row} (h : (Spelling.full row).Suits g) :
    readAllGroups? g row.text = some (row.values, []) := by
  obtain ⟨hrow, hsize⟩ := h
  have hread := Row.readGroups_eq hrow hsize.le (Or.inl rfl) true
  rw [List.append_nil] at hread
  rw [readAllGroups?, show row.text = row.after true from rfl, hread]
  exact if_pos ((Row.length_values hrow).trans hsize)

theorem readAllGroups?_shortened {head tail : Row} (h : SuitAround g head tail) :
    readAllGroups? g (Spelling.shortened head tail).text =
      some (head.values ++ List.replicate (8 - head.size - tail.size) 0 ++ tail.values, []) := by
  obtain ⟨hhead, hplain, hlt, htail, hroom⟩ := h
  have hreadHead := Row.readGroups_eq hhead hlt.le (Or.inr ⟨tail.text, rfl⟩) true
  rw [hplain] at hreadHead
  rw [← Row.length_values hhead] at hlt hroom
  have hreadTail := Row.readGroups_eq htail hroom (Or.inl rfl) true
  rw [List.append_nil] at hreadTail
  have hall := readAllGroups?_of_double hreadHead hlt hreadTail
  rwa [Row.length_values hhead, Row.length_values htail] at hall

/-- Groups that are read up to the end are spelled in one of these ways. -/
theorem exists_of_readAllGroups? {groups : List Nat} (h : readAllGroups? g t = some (groups, [])) :
    ∃ x : Spelling, x.Suits g ∧ x.text = t ∧ x.address = ofGroups groups := by
  obtain ⟨head, hhead, hsize, ht, hvalues, hdotted⟩ :=
    Row.exists_of_readsGroups (readsGroups g true 8 t)
  rw [readAllGroups?] at h
  rcases hread : readGroups g true 8 t with ⟨ns, dotted, mid⟩
  rw [hread] at h ht hvalues hdotted
  obtain rfl : ns = head.values := hvalues
  obtain rfl : dotted = head.isDotted := hdotted
  simp only [Row.length_values hhead] at h
  by_cases height : head.size = 8
  · rw [if_pos height] at h
    obtain ⟨rfl, rfl⟩ := Prod.mk.inj (Option.some.inj h)
    exact ⟨.full head, ⟨hhead, height⟩, (ht.trans (List.append_nil _)).symm, rfl⟩
  · rw [if_neg height] at h
    split at h
    · contradiction
    rename_i hplain
    obtain ⟨u, hu, h⟩ := Option.bind_eq_some_iff.mp h
    have hmid : mid = "::".toList ++ u := after?_eq_some_iff.mp hu
    obtain ⟨tail, htail, hroom, htext, htailValues, -⟩ :=
      Row.exists_of_readsGroups (readsGroups g true (8 - head.size - g.shortestRun) u)
    obtain ⟨rfl, hend⟩ := Prod.mk.inj (Option.some.inj h)
    rw [hend, List.append_nil] at htext
    refine ⟨.shortened head tail,
      ⟨hhead, Bool.eq_false_iff.mpr hplain, by omega, htail, hroom⟩, ?_, ?_⟩
    · rw [ht, hmid, htext]
      rfl
    · rw [htailValues, Row.length_values htail]
      rfl

/-- **What an address looks like.** A text is read as an address by a grammar if it is that of a
spelling that suits the grammar. -/
theorem read?_eq_some_iff_spelling {a : Address} :
    read? g t = some a ↔ ∃ x : Spelling, x.Suits g ∧ x.text = t ∧ x.address = a := by
  constructor
  · intro h
    rcases read?_eq_some_iff.mp h with ⟨ns, hread, rfl⟩ | ⟨-, groups, hread, rfl⟩
    · obtain ⟨ws, hws, rfl, rfl, -⟩ := readOctets?_eq_some_iff.mp hread
      exact ⟨.dotted ws, hws, (List.append_nil _).symm, rfl⟩
    · exact exists_of_readAllGroups? hread
  · rintro ⟨x, hx, rfl, rfl⟩
    cases x with
    | dotted ws =>
      have hread : readOctets? g (joinWith "." ws) = some (ws.map (digitsValue 10), []) :=
        readOctets?_eq_some_iff.mpr ⟨ws, hx, (List.append_nil _).symm, rfl, stops_nil 10⟩
      exact read?_of_octets hread
    | full row =>
      have hne : ∀ ws, row ≠ .octets ws := by
        rintro ws rfl
        exact absurd hx.2 (show ¬2 = 8 by decide)
      have hnone := Row.readOctets?_eq_none hx.1 hne atColon_nil
      rw [List.append_nil] at hnone
      exact read?_of_groups hnone (readAllGroups?_full hx)
    | shortened head tail =>
      have hne : ∀ ws, head ≠ .octets ws := by
        rintro ws rfl
        exact Bool.noConfusion hx.plain
      have hnone := Row.readOctets?_eq_none hx.suits_head hne (atColon_cons (':' :: tail.text))
      exact read?_of_groups hnone (readAllGroups?_shortened hx)

end PacketFilter.Address
