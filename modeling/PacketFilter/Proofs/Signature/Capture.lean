import PacketFilter.Proofs.Address.Spelling
import PacketFilter.Proofs.Regex.Words
import PacketFilter.Proofs.Signature.Anchor

/-!
# What a signature captures as an address

The placeholder stands for anything that looks like an address, with or without the mark of mapped
addresses in front. The mark is taken off wherever it is written as it is in the pattern, and what
is left is taken for the address. So a signature that ends in the placeholder matches every line
that ends in an address, but the range that is read off the line is the one that was written only
if the spelling outlasts the loss of the mark.
-/

namespace PacketFilter.Signature

open Regex

/-! ## The pattern of the placeholder -/

/-- The characters of addresses. -/
def addressSet : CharSet :=
  .union (.union (.union (.union (.span '0' '9') (.span 'a' 'f')) (.span 'A' 'F')) (.one ':'))
    (.one '.')

/-- The mark of mapped addresses, if it is there. -/
def prefixPattern : Pattern := .times (.concat (chars Address.mark)) 0 (some 1) true

/-- A length, if it is there. -/
def lengthPattern : Pattern :=
  .times (.concat [.char '/', .times (.one (.span '0' '9')) 1 none true]) 0 (some 1) true

/-- An address and its length. -/
def rangePattern : Pattern := .concat [.times (.one addressSet) 1 none true, lengthPattern]

/-- The pattern of a text with an address behind it, at the end of the line. -/
def behind (s : Text) : Pattern :=
  .concat (chars s ++ [prefixPattern, .group 1 (some addressName) rangePattern, .look .textEnd])

/-- The items of the placeholder's pattern and of the dollar sign behind it, the last first. -/
private def addressItems : List Item :=
  [{ pattern := .look .textEnd },
    { pattern := .group 1 (some addressName) rangePattern, depth := 7 },
    { pattern := prefixPattern, depth := 3 }]

private theorem readAll?_addressPattern (items : List Item) :
    Reader.readAll? 52 { items := items } (addressPattern ++ ['$']) =
      some { items := addressItems ++ items, names := [some addressName] } := rfl

variable {s t : Text}

theorem not_mem_signs_of_letters
    (hs : ∀ c ∈ s, Text.isAlphabetic c = true ∨ Text.isBlank c = true) :
    (∀ c ∈ s, c ∉ signs) ∧ '_' ∉ s := by
  have hsigns : ∀ c ∈ '_' :: signs, Text.isAlphabetic c = false ∧ Text.isBlank c = false := by
    have hall : ('_' :: signs).all (fun c ↦ !Text.isAlphabetic c && !Text.isBlank c) = true := by
      decide
    intro c hc
    simpa using List.all_eq_true.mp hall c hc
  have hother : ∀ c ∈ s, c ∉ '_' :: signs := by
    intro c hc hmem
    obtain ⟨hletter, hblank⟩ := hsigns c hmem
    rcases hs c hc with h | h
    · exact Bool.false_ne_true (hletter.symm.trans h)
    · exact Bool.false_ne_true (hblank.symm.trans h)
  exact ⟨fun c hc h ↦ hother c hc (List.mem_cons_of_mem '_' h),
    fun h ↦ hother '_' h List.mem_cons_self⟩

theorem replace_placeholder (hs : '_' ∉ s) :
    Text.replace placeholder addressPattern (s ++ placeholder) = s ++ addressPattern := by
  rw [Text.replace, List.length_append]
  exact Text.replaceUpTo_append hs placeholder 6

theorem expand_placeholder (hs : ∀ c ∈ s, c ∉ signs) (hplace : '_' ∉ s) :
    expand (s ++ placeholder) = s ++ (addressPattern ++ ['$']) := by
  have hstart : Text.startsWith (s ++ addressPattern) "^" = false := by
    rcases s with _ | ⟨c, s⟩
    · rfl
    · have hc : c ≠ '^' := fun h ↦ hs c List.mem_cons_self (h ▸ by decide)
      rw [Text.startsWith, Option.isSome_eq_false_iff, Option.isNone_iff_eq_none]
      exact if_neg (Ne.symm hc)
  have hend : Text.endsWith (s ++ addressPattern) "$" = false := by
    have hnone : Text.beforeEnd? "$" (s ++ addressPattern) = none := by
      rw [Option.eq_none_iff_forall_ne_some]
      intro front hfront
      have hlast := congrArg List.getLast? (Text.beforeEnd?_eq_some_iff.mp hfront)
      rw [List.getLast?_append, List.getLast?_append] at hlast
      have hbracket : some ')' = some '$' := hlast
      exact absurd hbracket (by decide)
    rw [Text.endsWith, hnone]
    rfl
  rw [expand, replace_placeholder hplace, anchor, hstart, hend, ← List.append_assoc]
  rfl

/-- Items that are not nested do not make a branch any deeper. -/
theorem foldl_max_zeros (n : Nat) (ds : List Nat) (h : ∀ d ∈ ds, d = 0) : ds.foldl max n = n := by
  induction ds generalizing n with
  | nil => rfl
  | cons d ds ih =>
    obtain ⟨rfl, hds⟩ := List.forall_mem_cons.mp h
    rw [List.foldl_cons, Nat.max_zero, ih n hds]

/-- The items of a text with an address behind it, the last first. -/
private def itemsBehind (s : Text) : List Item :=
  addressItems ++ (chars s).reverse.map ({ pattern := · })

private theorem pattern_itemsBehind (s : Text) :
    (Item.concat (itemsBehind s)).pattern = behind s := by
  rw [Item.pattern_concat, itemsBehind, behind, List.reverse_append, List.map_append,
    ← List.map_reverse, List.reverse_reverse, List.map_map]
  exact congrArg (fun ps ↦ Pattern.concat (ps ++ _)) (List.map_id _)

@[simp] private theorem depth_itemsBehind (s : Text) : (Item.concat (itemsBehind s)).depth = 8 := by
  have hzeros : (((chars s).reverse.map ({ pattern := · } : Pattern → Item)).map
      Item.depth).foldl max 7 = 7 := by
    refine foldl_max_zeros 7 _ fun d hd ↦ ?_
    rw [List.map_map] at hd
    obtain ⟨p, -, rfl⟩ := List.mem_map.mp hd
    rfl
  exact congrArg (· + 1) hzeros

private theorem readAll?_behind (hs : ∀ c ∈ s, c ∉ signs) :
    Reader.readAll? (s.length + 52) {} (s ++ (addressPattern ++ ['$'])) =
      some { items := itemsBehind s, names := [some addressName] } := by
  have hword : Reader.readAll? (s.length + 52) {} (s ++ (addressPattern ++ ['$'])) =
      Reader.readAll? 52 { items := (chars s).reverse.map ({ pattern := · }) ++ [] }
        (addressPattern ++ ['$']) := Reader.readAll?_append_word rfl hs 52 _
  rwa [List.append_nil, readAll?_addressPattern] at hword

theorem parse?_behind (hs : ∀ c ∈ s, c ∉ signs) :
    Pattern.parse? (s ++ (addressPattern ++ ['$'])) =
      if (behind s).weight ≤ heaviest then some (behind s) else none := by
  have hshallow : 8 ≤ deepest := by decide
  rw [Pattern.parse?, List.length_append]
  show (Reader.readAll? (s.length + 52) {} (s ++ (addressPattern ++ ['$'])) >>= _) = _
  rw [readAll?_behind hs]
  show (if (Item.concat (itemsBehind s)).depth ≤ deepest ∧
    (Item.concat (itemsBehind s)).pattern.weight ≤ heaviest then
      some (Item.concat (itemsBehind s)).pattern else none) = _
  simp only [pattern_itemsBehind, depth_itemsBehind, hshallow, true_and]

@[simp] theorem groups_behind (s : Text) : (behind s).groups = [(1, some addressName)] := by
  have hchars : (chars s).flatMap Pattern.groups = [] := by
    rw [List.flatMap_eq_nil_iff]
    intro p hp
    obtain ⟨c, -, rfl⟩ := List.mem_map.mp hp
    rfl
  rw [behind, Pattern.groups_concat, List.flatMap_append, hchars]
  rfl

/-- The text in front of the placeholder takes a state for each byte, and the address and the end of
the line take the others. -/
@[simp] theorem weight_behind (s : Text) : (behind s).weight = Utf8.size s + 61 := by
  have haddress : ([prefixPattern, .group 1 (some addressName) rangePattern,
      .look .textEnd].map Pattern.weight).sum = 61 := by decide
  rw [behind, Pattern.weight_concat (List.append_ne_nil_of_right_ne_nil _ (List.cons_ne_nil _ _)),
    List.map_append, List.sum_append, haddress, Pattern.sum_map_weight_chars]

/-- A signature of letters and blanks with an address behind them is accepted unless it is too
large. -/
theorem compile_placeholder (name : Text)
    (hs : ∀ c ∈ s, Text.isAlphabetic c = true ∨ Text.isBlank c = true) :
    compile name (s ++ placeholder) =
      if (behind s).weight ≤ heaviest then
        .ok ⟨name, s ++ (addressPattern ++ ['$']), behind s, 1⟩
      else .error "invalid regex" := by
  obtain ⟨hsigns, hplace⟩ := not_mem_signs_of_letters hs
  have hnamed : (behind s).groupNamed? addressName = some 1 := by
    rw [Pattern.groupNamed?, groups_behind]
    rfl
  have hcount : (behind s).groupCount = 1 := by
    rw [Pattern.groupCount, groups_behind]
    rfl
  have hparse := parse?_behind hsigns
  have hexpand := expand_placeholder hsigns hplace
  rw [← hexpand] at hparse ⊢
  by_cases hfits : (behind s).weight ≤ heaviest
  · rw [if_pos hfits] at hparse ⊢
    refine compile_eq_ok_iff.mpr ⟨behind s, hparse, ?_, ?_⟩
    · rw [hnamed, hcount]
      rfl
    · rw [hnamed]
      rfl
  · rw [if_neg hfits] at hparse ⊢
    rw [compile, hparse]

/-! ## A line with an address at its end -/

theorem contains_addressSet {c : Char} (h : Address.isSign c = true) :
    addressSet.contains c = true := by
  simp only [addressSet, CharSet.contains, Bool.or_eq_true, contains_span_iff, contains_one_iff]
  rcases Address.toNat_of_isSign h with h | h | h | h | h
  · exact Or.inl (Or.inl (Or.inl (Or.inl h)))
  · exact Or.inl (Or.inl (Or.inl (Or.inr h)))
  · exact Or.inl (Or.inl (Or.inr h))
  · exact Or.inl (Or.inr h)
  · exact Or.inr h

variable {c : Cursor}

theorem firstEnd?_prefixPattern (c : Cursor) :
    ∃ d, prefixPattern.firstEnd? c = some d ∧ d.ahead = Range.unmarked c.ahead ∧
      d.captures = c.captures := by
  rw [prefixPattern, Pattern.firstEnd?_optional, Range.unmarked]
  rcases hmark : Text.after? Address.mark c.ahead with _ | rest
  · rw [Pattern.firstEnd?_chars hmark]
    exact ⟨c, rfl, rfl, rfl⟩
  · rw [Pattern.firstEnd?_concat (Pattern.foldlM_chars (Text.after?_eq_some_iff.mp hmark))]
    exact ⟨_, rfl, rfl, rfl⟩

theorem firstEnd?_lengthPattern {tail : Text} (h : c.ahead = tail)
    (htail : tail = [] ∨ Range.IsLength tail) :
    lengthPattern.firstEnd? c = some (c.pass tail []) := by
  rw [lengthPattern, Pattern.firstEnd?_optional]
  rcases htail with rfl | ⟨ds, rfl, hne, hdigits⟩
  · have hslash : (Pattern.char '/').ends c = [] := by
      refine Pattern.ends_one_of_not fun a ha ↦ ?_
      rw [h] at ha
      exact absurd ha nofun
    rw [Pattern.concat, List.foldl_cons, List.foldl_nil, Pattern.firstEnd?_seq, hslash]
    exact congrArg some (h ▸ c.pass_nil).symm
  · have hspan : ∀ a ∈ ds, (CharSet.span '0' '9').contains a = true := fun a ha ↦
      contains_span_iff.mpr (Text.toNat_of_isDigit (hdigits a ha))
    have hstop : ∀ a ∈ ([] : Text).head?, ¬(CharSet.span '0' '9').contains a = true := by
      intro a ha
      exact absurd ha (Option.not_mem_none a)
    have hrun := Pattern.firstEnd?_run (c := c.pass ['/'] ds) hne hspan hstop
      (List.append_nil ds).symm
    rw [Cursor.pass_pass] at hrun
    rw [Pattern.firstEnd?_concat (d := c.pass ('/' :: ds) [])]
    · rfl
    · rw [List.foldlM_cons, Pattern.firstEnd?_char h, Option.bind_eq_bind, Option.bind_some,
        List.foldlM_cons, hrun]
      rfl

theorem firstEnd?_rangePattern {w tail : Text} (h : c.ahead = w ++ tail) (hw : w ≠ [])
    (hsigns : ∀ a ∈ w, Address.isSign a = true) (htail : tail = [] ∨ Range.IsLength tail) :
    rangePattern.firstEnd? c = some (c.pass (w ++ tail) []) := by
  have hstop : ∀ a ∈ tail.head?, ¬addressSet.contains a = true := by
    rcases htail with rfl | ⟨ds, rfl, -⟩
    · intro a ha
      exact absurd ha (Option.not_mem_none a)
    · intro a ha
      rw [← Option.some.inj ha]
      decide
  have hrun := Pattern.firstEnd?_run hw (fun a ha ↦ contains_addressSet (hsigns a ha)) hstop h
  have hlength : lengthPattern.firstEnd? (c.pass w tail) = some ((c.pass w tail).pass tail []) :=
    firstEnd?_lengthPattern rfl htail
  rw [Cursor.pass_pass] at hlength
  refine Pattern.firstEnd?_concat ?_
  rw [List.foldlM_cons, hrun, Option.bind_eq_bind, Option.bind_some, List.foldlM_cons, hlength]
  rfl

/-- A line that ends in an address is matched as a whole, and what is captured is the spelling
behind the mark. -/
theorem search?_behind {r : Range} (s : Text) (h : Range.read? t = some r) :
    ∃ m, (behind s).search? (s ++ t) = some m ∧ m.captures = [(1, Range.unmarked t)] := by
  obtain ⟨d, hd, hahead, hcaptures⟩ := firstEnd?_prefixPattern ((Cursor.start (s ++ t)).pass s t)
  obtain ⟨w, tail, heq, hw, hsigns, htail⟩ := Range.exists_unmarked_eq h
  have hrest : d.ahead = w ++ tail := hahead.trans heq
  have hrange := firstEnd?_rangePattern hrest hw hsigns htail
  have hbetween : d.between (d.pass (w ++ tail) []) = w ++ tail :=
    Cursor.between_pass (hrest.trans (List.append_nil _).symm)
  have hend : (behind s).firstEnd? (Cursor.start (s ++ t)) =
      some { d.pass (w ++ tail) [] with captures := (1, w ++ tail) :: d.captures } := by
    refine Pattern.firstEnd?_concat ?_
    rw [List.foldlM_append, Pattern.foldlM_chars rfl]
    refine Option.bind_eq_some_iff.mpr ⟨_, rfl, ?_⟩
    rw [List.foldlM_cons, hd]
    refine Option.bind_eq_some_iff.mpr ⟨_, rfl, ?_⟩
    rw [List.foldlM_cons, Pattern.firstEnd?_group, hrange, Option.map_some, hbetween]
    rfl
  refine ⟨_, Pattern.search?_of_matchAt? (congrArg (Option.map _) hend), ?_⟩
  rw [heq]
  exact congrArg _ hcaptures

/-- What a signature captures as an address is the address of its hit, if it is one. -/
theorem exists_hit_of_search? {s : Signature} {line raw : Text} {m : Match}
    (h : s.pattern.search? line = some m) (hraw : m.group? s.addressGroup = some raw) :
    ∃ hit, s.match? line = some hit ∧ hit.rawAddress = some raw ∧
      hit.address = (Range.parse raw).toOption := by
  rw [match?, h]
  refine ⟨_, rfl, hraw, ?_⟩
  show (m.group? s.addressGroup).bind _ = _
  rw [hraw, Option.bind_some]

/-- How many bytes may stand in front of the placeholder without coming near the limit on the size
of a pattern: they take 8 MiB of 10. -/
def ample : Nat := 2 ^ 18

/-- A signature of letters and blanks with the placeholder behind them is accepted, unless it is so
long that it may be too large. If it is accepted, it matches every line that has an address in the
placeholder's place, and takes the spelling behind the mark for the address. The range that it tells
of is the one that was written if and only if the spelling outlasts the mark. -/
theorem match?_placeholder {r : Range} (name : Text)
    (hs : ∀ c ∈ s, Text.isAlphabetic c = true ∨ Text.isBlank c = true)
    (ht : Text.trim t = t) (hr : Range.parse t = .ok r) :
    (Utf8.size s ≤ ample → ∃ sig, compile name (s ++ placeholder) = .ok sig) ∧
    ∀ sig, compile name (s ++ placeholder) = .ok sig →
      ∃ hit, sig.match? (s ++ t) = some hit ∧ hit.rawAddress = some (Range.unmarked t) ∧
        (hit.address = some r.reduced ↔ r.OutlastsMark t) := by
  have hcompile := compile_placeholder name hs
  rw [weight_behind] at hcompile
  refine ⟨fun hsize ↦ ?_, fun sig hsig ↦ ?_⟩
  · have hfits : Utf8.size s + 61 ≤ heaviest :=
      (Nat.add_le_add_right hsize 61).trans (by decide)
    rw [if_pos hfits] at hcompile
    exact ⟨_, hcompile⟩
  · rw [hcompile] at hsig
    split at hsig
    · obtain rfl := Except.ok.inj hsig
      obtain ⟨m, hsearch, hcaptures⟩ := search?_behind s (Range.read?_of_parse ht hr)
      have hgroup : m.group? 1 = some (Range.unmarked t) := by
        rw [Match.group?, hcaptures]
        rfl
      obtain ⟨hit, hhit, hraw, haddress⟩ := exists_hit_of_search?
        (s := ⟨name, s ++ (addressPattern ++ ['$']), behind s, 1⟩) hsearch hgroup
      refine ⟨hit, hhit, hraw, ?_⟩
      rw [haddress]
      exact Range.parse_unmarked_iff ht hr
    · exact absurd hsig nofun

/-- The address that embeds `1.2.3.4`. -/
def embedded : Range := .host (.ofGroups [0, 0, 0, 0, 0, 0xFFFF, 0x102, 0x304])

/-- An embedded address is known if its octets are written behind the mark. -/
theorem match?_placeholder_octets :
    Range.parse "::ffff:1.2.3.4" = .ok embedded ∧
    ∃ sig hit, compile "login" "from __IP__" = .ok sig ∧
      sig.match? "from ::ffff:1.2.3.4" = some hit ∧ hit.rawAddress = some "1.2.3.4" ∧
      hit.address = some (.host (.ofOctets [1, 2, 3, 4])) := by
  have hparse : Range.parse "::ffff:1.2.3.4" = .ok embedded := by decide +kernel
  have hletters : ∀ c ∈ ("from " : Text), Text.isAlphabetic c = true ∨ Text.isBlank c = true := by
    have hall : ("from " : Text).all (fun c ↦ Text.isAlphabetic c || Text.isBlank c) = true := by
      decide
    intro c hc
    exact Bool.or_eq_true_iff.mp (List.all_eq_true.mp hall c hc)
  obtain ⟨haccepted, hmatches⟩ := match?_placeholder "login" hletters (by decide) hparse
  obtain ⟨sig, hsig⟩ := haccepted (by decide)
  obtain ⟨hit, hhit, hraw, haddress⟩ := hmatches sig hsig
  have houtlasts : Range.OutlastsMark "::ffff:1.2.3.4" embedded :=
    ⟨.ofOctets [1, 2, 3, 4], rfl, by decide +kernel⟩
  have hreduced : embedded.reduced = .host (.ofOctets [1, 2, 3, 4]) := by decide +kernel
  refine ⟨hparse, sig, hit, hsig, hhit, hraw, ?_⟩
  rw [← hreduced]
  exact haddress.mpr houtlasts

/-- An embedded address whose groups are written behind the mark is lost, and a length that counts
from the start of the embedding is taken for one that counts from its end. -/
theorem match?_loses_embedded :
    Range.parse "::ffff:102:304" = .ok embedded ∧
    embedded.reduced = .host (.ofOctets [1, 2, 3, 4]) ∧
    ((compile "login" "from __IP__").toOption.bind (·.match? "from ::ffff:102:304")).map
      Hit.address = some none ∧
    (Range.parse "::ffff:1.2.3.4/24").toOption.map Range.print = some "::/24" ∧
    ((compile "login" "from __IP__").toOption.bind (·.match? "from ::ffff:1.2.3.4/24")).map
      (·.address.map Range.print) = some (some ("1.2.3.0/24" : Text)) := by
  refine ⟨?_, ?_, ?_, ?_, ?_⟩
  all_goals decide +kernel

end PacketFilter.Signature
