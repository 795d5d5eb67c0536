import PacketFilter.Proofs.Address.Order
import PacketFilter.Proofs.Address.Print

/-!
# Reading addresses back

Whatever is written for an address is read as that address, by either grammar. A written address is
numerals with single characters between them, so everything rests on where a numeral ends: at a
character that is no digit of its base. `Stops` is that condition on the rest of the text.

## Where groups end

Groups are read greedily, and an IPv4 address is tried before every group. Neither does harm. The
written groups of an address that is not mapped hold no dot, without which no IPv4 address is read;
and they end at the end of the text or before the two colons that stand for the longest run of
zeros, where no further group begins. What the two colons stand for is then known from the numbers
of groups before and after them.
-/

namespace PacketFilter.Address

open Text

/-! ## Numerals in an address -/

/-- A text that does not continue a numeral of the base. -/
def Stops (base : Nat) (t : Text) : Prop := ∀ c, t.head? = some c → digitValue? base c = none

@[simp] theorem stops_nil (base : Nat) : Stops base [] := fun _ h ↦ absurd h (by simp)

theorem stops_cons {base : Nat} {c : Char} (h : digitValue? base c = none) (t : Text) :
    Stops base (c :: t) := by
  intro d hd
  rw [List.head?_cons, Option.some_inj] at hd
  rwa [← hd]

theorem Stops.decimal {t : Text} (h : Stops 16 t) : Stops 10 t := by
  intro c hc
  have hvalue := h c hc
  rw [digitValue?, Option.filter_eq_none_iff] at hvalue ⊢
  intro n hn
  have hlarge := hvalue n hn
  simp only [decide_eq_true_eq] at hlarge ⊢
  omega

private theorem takeWhile_of_stops {base : Nat} {t : Text} (h : Stops base t) :
    t.takeWhile (fun c ↦ (digitValue? base c).isSome) = [] :=
  takeWhile_of_head? fun c hc ↦ by rw [h c hc, Option.isSome_none]

theorem readDigits?_of_stops {base : Nat} {t : Text} (h : Stops base t) (most : Nat) :
    readDigits? base most t = none := by
  simp [readDigits?, takeWhile_of_stops h]

/-- Some digits, but no more than `most`. -/
structure IsNumeral (base most : Nat) (w : Text) : Prop where
  ne_nil : w ≠ []
  length_le : w.length ≤ most
  digits : ∀ c ∈ w, (digitValue? base c).isSome = true

theorem readDigits?_eq_some_iff {base most : Nat} {t w rest : Text} :
    readDigits? base most t = some (w, rest) ↔
      t = w ++ rest ∧ IsNumeral base most w ∧ Stops base rest := by
  have hstops : ∀ u : Text, Stops base u ↔ ∀ c ∈ u.head?, (digitValue? base c).isSome = false := by
    intro u
    simp only [Stops, Option.isSome_eq_false_iff, Option.isNone_iff_eq_none, Option.mem_def]
  -- A text has one longest run of digits, which is what is read.
  have hread : ∀ {run u : Text}, (∀ c ∈ run, (digitValue? base c).isSome = true) → Stops base u →
      readDigits? base most (run ++ u) =
        if 1 ≤ run.length ∧ run.length ≤ most then some (run, u) else none := by
    intro run u hrun hu
    rw [readDigits?, takeWhile_append_of_head? hrun ((hstops u).mp hu)]
    simp only [List.drop_left]
  constructor
  · intro h
    obtain ⟨run, u, rfl, hrun, hu⟩ := exists_span (fun c ↦ (digitValue? base c).isSome) t
    have hu' := (hstops u).mpr hu
    rw [hread hrun hu', Option.ite_none_right_eq_some] at h
    obtain ⟨⟨hpos, hle⟩, h⟩ := h
    obtain ⟨rfl, rfl⟩ := Prod.mk.inj (Option.some.inj h)
    exact ⟨rfl, ⟨List.ne_nil_of_length_pos hpos, hle, hrun⟩, hu'⟩
  · rintro ⟨rfl, hw, hrest⟩
    rw [hread hw.digits hrest, if_pos ⟨List.length_pos_iff.mpr hw.ne_nil, hw.length_le⟩]

theorem isNumeral_toDigits {b most n : Nat} (hb : 1 < b) (hb' : b ≤ 16)
    (hlength : (Nat.toDigits b n).length ≤ most) : IsNumeral b most (Nat.toDigits b n) :=
  ⟨Nat.toDigits_ne_nil, hlength, fun _ hc ↦ isSome_digitValue?_of_mem_toDigits hb hb' hc⟩

/-! ## Octets -/

variable {g : Grammar}

/-- A zero in front of further digits. -/
def IsPadded (w : Text) : Prop := 2 ≤ w.length ∧ w.head? = some '0'

/-- An octet, with padding only where the grammar allows it. -/
structure IsOctet (g : Grammar) (w : Text) : Prop where
  numeral : IsNumeral 10 3 w
  lt : digitsValue 10 w < 256
  unpadded : g.paddedOctets = true ∨ ¬IsPadded w

theorem readOctet?_eq_some_iff {t rest : Text} {n : Nat} :
    readOctet? g t = some (n, rest) ↔
      ∃ w, t = w ++ rest ∧ IsOctet g w ∧ digitsValue 10 w = n ∧ Stops 10 rest := by
  have hpadded : ∀ {w : Text}, w ≠ [] → (w.length = 1 ∨ w.head? ≠ some '0' ↔ ¬IsPadded w) := by
    intro w hne
    have hpos : 0 < w.length := List.length_pos_iff.mpr hne
    rw [IsPadded, not_and_or, not_le, Nat.lt_succ_iff]
    exact or_congr_left ⟨fun h ↦ h.le, fun h ↦ by omega⟩
  rw [readOctet?]
  constructor
  · intro h
    obtain ⟨⟨w, mid⟩, hw, h⟩ := Option.bind_eq_some_iff.mp h
    obtain ⟨⟨hlt, hpad⟩, h⟩ := Option.ite_none_right_eq_some.mp h
    obtain ⟨rfl, rfl⟩ := Prod.mk.inj (Option.some.inj h)
    obtain ⟨rfl, hnumeral, hstops⟩ := readDigits?_eq_some_iff.mp hw
    rw [hpadded hnumeral.ne_nil] at hpad
    exact ⟨w, rfl, ⟨hnumeral, hlt, hpad⟩, rfl, hstops⟩
  · rintro ⟨w, rfl, hw, rfl, hstops⟩
    refine Option.bind_eq_some_iff.mpr
      ⟨(w, rest), readDigits?_eq_some_iff.mpr ⟨rfl, hw.numeral, hstops⟩, if_pos ⟨hw.lt, ?_⟩⟩
    rw [hpadded hw.numeral.ne_nil]
    exact hw.unpadded

theorem readOctet?_of_stops {t : Text} (h : Stops 10 t) : readOctet? g t = none := by
  rw [readOctet?, readDigits?_of_stops h]
  rfl

theorem readOctet?_decimal {n : Nat} (hn : n < 256) {rest : Text} (hrest : Stops 10 rest) :
    readOctet? g (decimal n ++ rest) = some (n, rest) := by
  have hlength : (decimal n).length ≤ 3 := Nat.toDigits_length 10 n 3 (by decide) (by omega)
  have hvalue : digitsValue 10 (decimal n) = n := digitsValue_toDigits (by decide) (by decide) n
  have hunpadded : ¬IsPadded (decimal n) := by
    rintro ⟨htwo, hhead⟩
    by_cases hzero : n = 0
    · subst hzero
      exact absurd htwo (by decide)
    · exact head?_toDigits_ne_zero (by decide) (by decide) (by omega) hhead
  have hnumeral : IsNumeral 10 3 (decimal n) :=
    isNumeral_toDigits (by decide) (by decide) hlength
  exact readOctet?_eq_some_iff.mpr
    ⟨decimal n, rfl, ⟨hnumeral, hvalue.symm ▸ hn, Or.inr hunpadded⟩, hvalue, hrest⟩

theorem suffix_of_readOctet? {t rest : Text} {n : Nat} (h : readOctet? g t = some (n, rest)) :
    rest <:+ t := by
  obtain ⟨w, rfl, -⟩ := readOctet?_eq_some_iff.mp h
  exact List.suffix_append w rest

theorem readOctets?_of_stops {t : Text} (h : Stops 10 t) : readOctets? g t = none := by
  rw [readOctets?, readOctet?_of_stops h]
  rfl

theorem readOctets?_joinWith {a b c d : Nat} (ha : a < 256) (hb : b < 256) (hc : c < 256)
    (hd : d < 256) {rest : Text} (hrest : Stops 10 rest) :
    readOctets? g (joinWith "." ([a, b, c, d].map decimal) ++ rest) =
      some ([a, b, c, d], rest) := by
  have hdot : ∀ t : Text, Stops 10 ('.' :: t) := fun t ↦ stops_cons (by decide) t
  have hafter : ∀ t : Text, after? "." ('.' :: t) = some t := fun t ↦ rfl
  have htext : joinWith "." ([a, b, c, d].map decimal) ++ rest =
      decimal a ++ '.' :: (decimal b ++ '.' :: (decimal c ++ '.' :: (decimal d ++ rest))) := by
    simp [joinWith]
  rw [htext, readOctets?, readOctet?_decimal ha (hdot _)]
  simp only [Option.bind_eq_bind, Option.bind_some, hafter, readOctet?_decimal hb (hdot _),
    readOctet?_decimal hc (hdot _), readOctet?_decimal hd hrest]

/-- Four octets are read only where there is a dot. -/
theorem readOctets?_of_not_mem {t : Text} (h : '.' ∉ t) : readOctets? g t = none := by
  rw [Option.eq_none_iff_forall_ne_some]
  intro found hfound
  obtain ⟨⟨n, rest⟩, hfirst, hfound⟩ := Option.bind_eq_some_iff.mp hfound
  obtain ⟨afterDot, hdot, -⟩ := Option.bind_eq_some_iff.mp hfound
  have hrest : rest = '.' :: afterDot := after?_eq_some_iff.mp hdot
  have hmem : '.' ∈ rest := by
    rw [hrest]
    exact List.mem_cons_self
  exact h ((suffix_of_readOctet? hfirst).subset hmem)

/-! ## Groups -/

theorem readGroup?_eq_some_iff {t rest : Text} {n : Nat} :
    readGroup? t = some (n, rest) ↔
      ∃ w, t = w ++ rest ∧ IsNumeral 16 4 w ∧ digitsValue 16 w = n ∧ Stops 16 rest := by
  rw [readGroup?]
  constructor
  · intro h
    obtain ⟨⟨w, mid⟩, hw, h⟩ := Option.bind_eq_some_iff.mp h
    obtain ⟨rfl, rfl⟩ := Prod.mk.inj (Option.some.inj h)
    obtain ⟨rfl, hnumeral, hstops⟩ := readDigits?_eq_some_iff.mp hw
    exact ⟨w, rfl, hnumeral, rfl, hstops⟩
  · rintro ⟨w, rfl, hw, rfl, hstops⟩
    exact Option.bind_eq_some_iff.mpr
      ⟨(w, rest), readDigits?_eq_some_iff.mpr ⟨rfl, hw, hstops⟩, rfl⟩

theorem readGroup?_of_stops {t : Text} (h : Stops 16 t) : readGroup? t = none := by
  rw [readGroup?, readDigits?_of_stops h]
  rfl

theorem readGroup?_hex {n : Nat} (hn : n < 65536) {rest : Text} (hrest : Stops 16 rest) :
    readGroup? (hex n ++ rest) = some (n, rest) := by
  have hlength : (hex n).length ≤ 4 := Nat.toDigits_length 16 n 4 (by decide) (by omega)
  exact readGroup?_eq_some_iff.mpr ⟨hex n, rfl, isNumeral_toDigits (by decide) (by decide) hlength,
    digitsValue_toDigits (by decide) (by decide) n, hrest⟩

section Step

variable {first : Bool} {most : Nat} {t start rest : Text}

theorem readGroups_succ_of_group {n : Nat}
    (hstart : (if first then some t else after? ":" t) = some start)
    (hoctets : readOctets? g start = none) (hgroup : readGroup? start = some (n, rest)) :
    readGroups g first (most + 1) t =
      (n :: (readGroups g false most rest).1, (readGroups g false most rest).2) := by
  rw [readGroups, hstart]
  simp only [Option.bind_some, hoctets, hgroup, ite_self]

/-- An IPv4 address in the place of two groups ends them. -/
theorem readGroups_succ_of_octets {a b c d : Nat}
    (hstart : (if first then some t else after? ":" t) = some start) (hmost : 1 ≤ most)
    (hoctets : readOctets? g start = some ([a, b, c, d], rest)) :
    readGroups g first (most + 1) t = ([a * 256 + b, c * 256 + d], true, rest) := by
  rw [readGroups, hstart]
  simp only [if_pos hmost, Option.bind_some, hoctets]

theorem readGroups_of_stops
    (h : ∀ start, (if first then some t else after? ":" t) = some start → Stops 16 start) :
    readGroups g first most t = ([], false, t) := by
  cases most with
  | zero => rw [readGroups]
  | succ most =>
    rw [readGroups]
    cases hstart : (if first then some t else after? ":" t) with
    | none => simp
    | some start =>
      have hstops : Stops 16 start := h start hstart
      simp [readOctets?_of_stops hstops.decimal, readGroup?_of_stops hstops]

end Step

/-- The end of the text, or the two colons that stand for a run of zeros. -/
def EndsGroups (t : Text) : Prop := t = [] ∨ ∃ u, t = ':' :: ':' :: u

theorem EndsGroups.stops {t : Text} (h : EndsGroups t) : Stops 16 t := by
  rcases h with rfl | ⟨u, rfl⟩
  · exact stops_nil 16
  · exact stops_cons (by decide) _

theorem EndsGroups.readGroups_eq {t : Text} (h : EndsGroups t) (first : Bool) (most : Nat) :
    readGroups g first most t = ([], false, t) := by
  refine readGroups_of_stops fun start hstart ↦ ?_
  cases first with
  | true =>
    cases hstart
    exact h.stops
  | false =>
    rcases h with rfl | ⟨u, rfl⟩
    · cases hstart
    · cases hstart
      exact stops_cons (by decide) _

/-- Groups with a colon before each of them. -/
def colonGroups (ns : List Nat) : Text := ns.flatMap fun n ↦ ':' :: hex n

@[simp]
theorem colons_cons (n : Nat) (ns : List Nat) : colons (n :: ns) = hex n ++ colonGroups ns := by
  induction ns generalizing n with
  | nil => simp [colons, colonGroups, joinWith]
  | cons m ns ih =>
    have hjoin : colons (n :: m :: ns) = hex n ++ ":".toList ++ colons (m :: ns) := rfl
    rw [hjoin, ih m]
    simp [colonGroups]

theorem dot_not_mem_hex (n : Nat) : '.' ∉ hex n := by
  have hother : ∀ c ∈ hex n, c ≠ '.' := forall_mem_hex (by decide) n
  exact fun h ↦ hother '.' h rfl

theorem dot_not_mem_colons (ns : List Nat) : '.' ∉ colons ns := by
  have hother : ∀ c ∈ colons ns, c ≠ '.' := forall_mem_colons (by decide) (by decide) ns
  exact fun h ↦ hother '.' h rfl

theorem dot_not_mem_printGroups (ns : List Nat) : '.' ∉ printGroups ns := by
  have hother : ∀ c ∈ printGroups ns, c ≠ '.' :=
    forall_mem_printGroups (by decide) (by decide) ns
  exact fun h ↦ hother '.' h rfl

theorem dot_not_mem_colonGroups (ns : List Nat) : '.' ∉ colonGroups ns := by
  intro h
  obtain ⟨n, -, hn⟩ := List.mem_flatMap.mp h
  rcases List.mem_cons.mp hn with heq | hhex
  · exact absurd heq (by decide)
  · exact dot_not_mem_hex n hhex

section Colons

variable {ns : List Nat} {rest : Text} {most : Nat}

private theorem stops_colonGroups (ns : List Nat) (hrest : EndsGroups rest) :
    Stops 16 (colonGroups ns ++ rest) := by
  cases ns with
  | nil => exact hrest.stops
  | cons n ns => exact stops_cons (by decide) _

/-- A group that others follow, as long as no dot does. -/
private theorem readOctets?_hex (n : Nat) (ns : List Nat) (hdot : '.' ∉ rest) :
    readOctets? g (hex n ++ (colonGroups ns ++ rest)) = none := by
  refine readOctets?_of_not_mem ?_
  rw [List.mem_append, List.mem_append, not_or, not_or]
  exact ⟨dot_not_mem_hex n, dot_not_mem_colonGroups ns, hdot⟩

theorem readGroups_colonGroups (hns : ∀ n ∈ ns, n < 65536) (hrest : EndsGroups rest)
    (hdot : '.' ∉ rest) (hmost : ns.length ≤ most) :
    readGroups g false most (colonGroups ns ++ rest) = (ns, false, rest) := by
  induction ns generalizing most with
  | nil => exact hrest.readGroups_eq false most
  | cons n ns ih =>
    obtain ⟨hn, hns⟩ := List.forall_mem_cons.mp hns
    have htext : colonGroups (n :: ns) ++ rest = ':' :: (hex n ++ (colonGroups ns ++ rest)) := by
      simp [colonGroups]
    cases most with
    | zero => exact absurd hmost (by simp)
    | succ most =>
      have hgroup := readGroup?_hex hn (stops_colonGroups ns hrest)
      rw [htext, readGroups_succ_of_group rfl (readOctets?_hex n ns hdot) hgroup,
        ih hns (by simpa using hmost)]

theorem readGroups_colons (hns : ∀ n ∈ ns, n < 65536) (hrest : EndsGroups rest)
    (hdot : '.' ∉ rest) (hmost : ns.length ≤ most) :
    readGroups g true most (colons ns ++ rest) = (ns, false, rest) := by
  cases ns with
  | nil => exact hrest.readGroups_eq true most
  | cons n ns =>
    obtain ⟨hn, hns⟩ := List.forall_mem_cons.mp hns
    cases most with
    | zero => exact absurd hmost (by simp)
    | succ most =>
      have hgroup := readGroup?_hex hn (stops_colonGroups ns hrest)
      rw [colons_cons, List.append_assoc,
        readGroups_succ_of_group rfl (readOctets?_hex n ns hdot) hgroup,
        readGroups_colonGroups hns hrest hdot (by simpa using hmost)]

end Colons

/-- Two colons stand for as many zeros as groups are missing. -/
theorem readAllGroups?_of_double {head tail : List Nat} {dotted : Bool} {t middle rest : Text}
    (hhead : readGroups g true 8 t = (head, false, "::".toList ++ middle)) (hlt : head.length < 8)
    (htail : readGroups g true (8 - head.length - g.shortestRun) middle = (tail, dotted, rest)) :
    readAllGroups? g t =
      some (head ++ List.replicate (8 - head.length - tail.length) 0 ++ tail, rest) := by
  have hafter : after? "::" ("::".toList ++ middle) = some middle := after?_eq_some_iff.mpr rfl
  rw [readAllGroups?, hhead]
  simp only [if_neg (show ¬head.length = 8 by omega), Bool.false_eq_true, if_false, hafter]
  simp only [Option.bind_eq_bind, Option.bind_some, htail]

theorem readAllGroups?_colons {ns : List Nat} (hns : ∀ n ∈ ns, n < 65536)
    (hlength : ns.length = 8) :
    readAllGroups? g (colons ns) = some (ns, []) := by
  have hread := readGroups_colons (g := g) hns (Or.inl rfl) List.not_mem_nil hlength.le
  rw [List.append_nil] at hread
  rw [readAllGroups?, hread]
  exact if_pos hlength

theorem readAllGroups?_double {head tail : List Nat} (hhead : ∀ n ∈ head, n < 65536)
    (htail : ∀ n ∈ tail, n < 65536) (hlt : head.length < 8)
    (hlength : tail.length ≤ 8 - head.length - g.shortestRun) :
    readAllGroups? g (colons head ++ ("::".toList ++ colons tail)) =
      some (head ++ List.replicate (8 - head.length - tail.length) 0 ++ tail, []) := by
  have hends : EndsGroups ("::".toList ++ colons tail) := Or.inr ⟨_, rfl⟩
  have hdot : '.' ∉ "::".toList ++ colons tail := by
    have hcolons : '.' ∉ "::".toList := by decide
    rw [List.mem_append, not_or]
    exact ⟨hcolons, dot_not_mem_colons tail⟩
  have hread := readGroups_colons (g := g) htail (Or.inl rfl) List.not_mem_nil hlength
  rw [List.append_nil] at hread
  exact readAllGroups?_of_double (readGroups_colons hhead hends hdot hlt.le) hlt hread

/-! ## Runs of zeros -/

theorem eq_replicate_append_zeroRun (ns : List Nat) :
    ns = List.replicate (zeroRun ns) 0 ++ ns.drop (zeroRun ns) := by
  induction ns with
  | nil => rfl
  | cons n ns ih =>
    by_cases hn : n = 0
    · have hrun : zeroRun (n :: ns) = zeroRun ns + 1 := by simp [zeroRun, hn]
      rw [hrun, List.replicate_succ, List.drop_succ_cons, List.cons_append, ← ih, hn]
    · have hrun : zeroRun (n :: ns) = 0 := by simp [zeroRun, hn]
      rw [hrun]
      rfl

theorem zeroRun_le_length (ns : List Nat) : zeroRun ns ≤ ns.length :=
  (List.takeWhile_prefix _).length_le

/-- The longest run lies within the list, and it is a run of zeros. -/
theorem longestRun_spec (ns : List Nat) :
    (longestRun ns).1 + (longestRun ns).2 ≤ ns.length ∧
      ns = ns.take (longestRun ns).1 ++ List.replicate (longestRun ns).2 0 ++
        ns.drop ((longestRun ns).1 + (longestRun ns).2) := by
  induction ns with
  | nil => exact ⟨Nat.le_refl _, rfl⟩
  | cons n ns ih =>
    obtain ⟨hwithin, heq⟩ := ih
    rw [longestRun]
    -- The longest run starts here, or it is the longest of the rest, one place further on.
    by_cases hhere : (longestRun ns).2 ≤ zeroRun (n :: ns)
    · simp only [if_pos hhere, Nat.zero_add, List.take_zero, List.nil_append]
      exact ⟨zeroRun_le_length (n :: ns), eq_replicate_append_zeroRun (n :: ns)⟩
    · have hnext : (longestRun ns).1 + 1 + (longestRun ns).2 =
          (longestRun ns).1 + (longestRun ns).2 + 1 := by omega
      simp only [if_neg hhere, hnext, List.length_cons, List.take_succ_cons, List.drop_succ_cons,
        List.cons_append]
      exact ⟨by omega, congrArg (n :: ·) heq⟩

/-! ## Digits of a number -/

@[simp] theorem length_digits (base count n : Nat) : (digits base count n).length = count := by
  induction count generalizing n with
  | zero => rfl
  | succ count ih => rw [digits, List.length_append, ih, List.length_singleton]

theorem lt_of_mem_digits {base count n d : Nat} (hbase : 0 < base)
    (h : d ∈ digits base count n) : d < base := by
  induction count generalizing n with
  | zero => exact absurd h List.not_mem_nil
  | succ count ih =>
    rw [digits, List.mem_append, List.mem_singleton] at h
    rcases h with h | rfl
    · exact ih h
    · exact Nat.mod_lt n hbase

/-- Digits make the number they were taken from, as far as they go. -/
@[simp] theorem assemble_digits (base count n : Nat) :
    assemble base (digits base count n) = n % base ^ count := by
  induction count generalizing n with
  | zero => rw [pow_zero, Nat.mod_one, digits, assemble, List.foldl_nil]
  -- The last digit is the remainder, and those before it are the digits of the quotient.
  | succ count ih =>
    have hconcat : assemble base (digits base count (n / base) ++ [n % base]) =
        assemble base (digits base count (n / base)) * base + n % base := by
      rw [assemble, List.foldl_append]
      rfl
    rw [digits, hconcat, ih, pow_succ', Nat.mod_mul, Nat.add_comm, Nat.mul_comm]

/-! ## Written addresses -/

theorem read?_of_octets {t : Text} {octets : List Nat} (h : readOctets? g t = some (octets, [])) :
    read? g t = some (ofOctets octets) := by
  rw [read?, h]
  rfl

theorem read?_of_groups {t : Text} {groups : List Nat} (hoctets : readOctets? g t = none)
    (hgroups : readAllGroups? g t = some (groups, [])) : read? g t = some (ofGroups groups) := by
  rw [read?, hoctets, hgroups]
  rfl

@[simp]
theorem readOctets?_dotted (a : Address) : readOctets? g (dotted a) = some (a.octets, []) := by
  have hlt : ∀ n : Nat, n % 256 < 256 := fun n ↦ Nat.mod_lt n (by decide)
  have h := readOctets?_joinWith (g := g) (hlt (a.value / 256 / 256 / 256))
    (hlt (a.value / 256 / 256)) (hlt (a.value / 256)) (hlt a.value) (stops_nil 10)
  rwa [List.append_nil] at h

theorem value_lt_of_v4 {a : Address} (h : a.family = .v4) : a.value < 256 ^ 4 := by
  have hvalue := a.value_lt
  rw [h] at hvalue
  exact hvalue

theorem value_lt_of_v6 {a : Address} (h : a.family = .v6) : a.value < 65536 ^ 8 := by
  have hvalue := a.value_lt
  rw [h] at hvalue
  exact hvalue

theorem ofV4_value {a : Address} (h : a.family = .v4) : ofV4 a.value = a :=
  eq_of_family_of_value h.symm (Nat.mod_eq_of_lt (value_lt_of_v4 h))

theorem ofV6_value {a : Address} (h : a.family = .v6) : ofV6 a.value = a :=
  eq_of_family_of_value h.symm (Nat.mod_eq_of_lt (value_lt_of_v6 h))

theorem ofOctets_octets {a : Address} (h : a.family = .v4) : ofOctets a.octets = a := by
  rw [ofOctets, octets, assemble_digits, Nat.mod_eq_of_lt (value_lt_of_v4 h), ofV4_value h]

theorem ofGroups_groups {a : Address} (h : a.family = .v6) : ofGroups a.groups = a := by
  rw [ofGroups, groups, assemble_digits, Nat.mod_eq_of_lt (value_lt_of_v6 h), ofV6_value h]

theorem readAllGroups?_printGroups {ns : List Nat} (hns : ∀ n ∈ ns, n < 65536)
    (hlength : ns.length = 8) (hrun : g.shortestRun ≤ 2) :
    readAllGroups? g (printGroups ns) = some (ns, []) := by
  obtain ⟨hwithin, heq⟩ := longestRun_spec ns
  simp only [printGroups]
  by_cases hshort : (longestRun ns).2 ≤ 1
  · rw [if_pos hshort]
    exact readAllGroups?_colons hns hlength
  · have htake : (ns.take (longestRun ns).1).length = (longestRun ns).1 := by
      rw [List.length_take]
      omega
    have hdrop : (ns.drop ((longestRun ns).1 + (longestRun ns).2)).length =
        8 - ((longestRun ns).1 + (longestRun ns).2) := by
      rw [List.length_drop, hlength]
    -- As many groups are missing as the run has zeros.
    have hmissing : 8 - (longestRun ns).1 - (8 - ((longestRun ns).1 + (longestRun ns).2)) =
        (longestRun ns).2 := by omega
    have hread := readAllGroups?_double (g := g) (fun n hn ↦ hns n (List.mem_of_mem_take hn))
      (fun n hn ↦ hns n (List.mem_of_mem_drop hn))
      (by omega : (ns.take (longestRun ns).1).length < 8)
      (by omega : (ns.drop ((longestRun ns).1 + (longestRun ns).2)).length ≤ _)
    rw [htake, hdrop, hmissing, ← heq] at hread
    rw [if_neg hshort, List.append_assoc]
    exact hread

/-- The two groups that four octets stand for. -/
def octetGroups (a : Address) : List Nat :=
  [a.value / 256 / 256 / 256 % 256 * 256 + a.value / 256 / 256 % 256,
    a.value / 256 % 256 * 256 + a.value % 256]

/-- The text in front of the octets of a mapped address. -/
def mark : Text := "::ffff:"

/-- The mark is two colons and a group, behind which further groups are read. -/
theorem readAllGroups?_mark (hrun : g.shortestRun ≤ 2) (t : Text) :
    readAllGroups? g (mark ++ t) =
      some (List.replicate (7 - (readGroups g false (7 - g.shortestRun) (':' :: t)).1.length) 0 ++
          0xFFFF :: (readGroups g false (7 - g.shortestRun) (':' :: t)).1,
        (readGroups g false (7 - g.shortestRun) (':' :: t)).2.2) := by
  have hends : EndsGroups (mark ++ t) := Or.inr ⟨_, rfl⟩
  have hf : Stops 10 ("ffff:".toList ++ t) := stops_cons (by decide) _
  have hgroup : readGroup? ("ffff:".toList ++ t) = some (0xFFFF, ':' :: t) :=
    readGroup?_hex (by decide : 0xFFFF < 65536) (stops_cons (by decide) _)
  have hmost : 8 - ([] : List Nat).length - g.shortestRun = 7 - g.shortestRun + 1 := by
    rw [List.length_nil]
    omega
  have htail : readGroups g true (7 - g.shortestRun + 1) ("ffff:".toList ++ t) = _ :=
    readGroups_succ_of_group rfl (readOctets?_of_stops hf) hgroup
  rw [← hmost] at htail
  have hzeros : ∀ n, 8 - 0 - (n + 1) = 7 - n := fun n ↦ by omega
  rw [readAllGroups?_of_double (hends.readGroups_eq true 8) (by decide) htail]
  simp only [List.length_nil, List.length_cons, hzeros, List.nil_append]

theorem readAllGroups?_mark_of_octets (hrun : g.shortestRun ≤ 2) {t : Text} {a b c d : Nat}
    (h : readOctets? g t = some ([a, b, c, d], [])) :
    readAllGroups? g (mark ++ t) =
      some ([0, 0, 0, 0, 0, 0xFFFF, a * 256 + b, c * 256 + d], []) := by
  obtain ⟨most, hmost⟩ : ∃ most, 7 - g.shortestRun = most + 1 := ⟨6 - g.shortestRun, by omega⟩
  rw [readAllGroups?_mark hrun, hmost, readGroups_succ_of_octets rfl (by omega) h]
  rfl

/-- A mapped address shows its octets after the group that marks it. -/
theorem readAllGroups?_mapped (a : Address) (hrun : g.shortestRun ≤ 2) :
    readAllGroups? g ("::ffff:".toList ++ dotted a) =
      some ([0, 0, 0, 0, 0, 0xFFFF] ++ a.octetGroups, []) :=
  readAllGroups?_mark_of_octets hrun (readOctets?_dotted a)

theorem ofGroups_mapped {a : Address} (h : a.family = .v6) (hmapped : a.value / 2 ^ 32 = 0xFFFF) :
    ofGroups ([0, 0, 0, 0, 0, 0xFFFF] ++ a.octetGroups) = a := by
  refine eq_of_family_of_value h.symm ?_
  have hvalues : Bits.values 128 = 2 ^ 128 := rfl
  show assemble 65536 _ % Bits.values 128 = a.value
  simp only [octetGroups, List.cons_append, List.nil_append, assemble, List.foldl_cons,
    List.foldl_nil, hvalues]
  omega

/-- Every address is read back, whether or not octets may be padded and however short a run of zeros
may be written as two colons. -/
theorem read?_print (hrun : g.shortestRun ≤ 2) (a : Address) : read? g a.print = some a := by
  rw [print]
  cases hfamily : a.family with
  | v4 =>
    show read? g (dotted a) = some a
    rw [read?_of_octets (readOctets?_dotted a), ofOctets_octets hfamily]
  | v6 =>
    show read? g (if a.isMapped then "::ffff:".toList ++ dotted a else printGroups a.groups) =
      some a
    by_cases hmapped : a.isMapped = true
    · have hstops : Stops 10 ("::ffff:".toList ++ dotted a) := stops_cons (by decide) _
      have hvalue : a.value / 2 ^ 32 = 0xFFFF := by
        simpa [isMapped, hfamily, Bits.values] using hmapped
      rw [if_pos hmapped,
        read?_of_groups (readOctets?_of_stops hstops) (readAllGroups?_mapped a hrun)]
      exact congrArg some (ofGroups_mapped hfamily hvalue)
    · have hdot : '.' ∉ printGroups a.groups := dot_not_mem_printGroups a.groups
      have hlt : ∀ n ∈ a.groups, n < 65536 := fun n hn ↦ lt_of_mem_digits (by decide) hn
      rw [if_neg hmapped, read?_of_groups (readOctets?_of_not_mem hdot)
        (readAllGroups?_printGroups hlt (length_digits _ _ _) hrun), ofGroups_groups hfamily]

end PacketFilter.Address
