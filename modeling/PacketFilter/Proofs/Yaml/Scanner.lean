import PacketFilter.Proofs.Yaml.Allowed
import PacketFilter.Yaml.Scanner

/-!
# Tokens of what was written

A scanner leads to another if reading goes on there. How many tokens lie between does not matter as
long as there are at least as many characters, since the number of characters bounds the reading.

What is written has its tokens in places where no key is pending: at the start of a key, behind the
colon of a key, and behind the hyphen of an item. `between` are the scanners there. A key and its
colon lead from one of these places to another, and so does a scalar together with the break behind
it and the indentation of the next line. Only the tokens before, the margins and the column are kept
track of, and not how many characters or lines were read.
-/

namespace PacketFilter.Yaml

variable {u t w z : Text} {i l k n m : Nat} {o : List Nat} {toks : List Token} {allowed : Bool}

/-- A text in front of which there is nothing to skip. -/
def StartsToken (z : Text) : Prop := ∀ a ∈ z.head?, IsInk a ∧ a ≠ '#' ∧ a ≠ '\uFEFF'

@[simp] theorem startsToken_nil : StartsToken [] := fun _ h ↦ nomatch h

theorem startsToken_cons {a : Char} (h : IsInk a ∧ a ≠ '#' ∧ a ≠ '\uFEFF') (z : Text) :
    StartsToken (a :: z) := by
  intro b hb
  rw [List.head?_cons, Option.mem_some_iff] at hb
  exact hb ▸ h

theorem StartsToken.startsInk (h : StartsToken z) : StartsInk z := fun a ha ↦ (h a ha).1

namespace Scanner

variable {s s' s'' : Scanner}

/-! ## Leading from one scanner to another -/

/-- The scanner at the start of the next token, unless a key is missing. -/
def settle? (s : Scanner) : Option Scanner := s.toNext.refresh?

/-- Reading goes on from another scanner. -/
def Leads (s s' : Scanner) : Prop :=
  ∃ n, n + s'.cursor.ahead.length ≤ s.cursor.ahead.length ∧
    ∀ fuel, run? (fuel + n) s = run? fuel s'

theorem Leads.trans (h : Leads s s') (h' : Leads s' s'') : Leads s s'' := by
  obtain ⟨n, hlength, hrun⟩ := h
  obtain ⟨n', hlength', hrun'⟩ := h'
  refine ⟨n' + n, by omega, fun fuel ↦ ?_⟩
  rw [← Nat.add_assoc, hrun, hrun']

/-- What precedes the next token makes no difference. -/
theorem leads_of_settle? (h : s.settle? = s'.settle?)
    (hlength : s'.cursor.ahead.length ≤ s.cursor.ahead.length) : Leads s s' := by
  refine ⟨0, by omega, fun fuel ↦ ?_⟩
  cases fuel with
  | zero => rfl
  | succ fuel =>
    have hsettle : s.toNext.refresh? = s'.toNext.refresh? := h
    rw [Nat.add_zero, run?, run?, hsettle]

theorem leads_of_token? {r r' : Scanner} {a : Char} (hsettle : s.settle? = some r)
    (hunroll : r.unroll r.cursor.column = r') (ha : r'.cursor.head? = some a)
    (htoken : r'.token? a = some s')
    (hlength : s'.cursor.ahead.length < s.cursor.ahead.length) : Leads s s' := by
  refine ⟨1, by omega, fun fuel ↦ ?_⟩
  have hsettle : s.toNext.refresh? = some r := hsettle
  rw [run?, hsettle]
  simp only [Option.bind_eq_bind, Option.bind_some, hunroll, ha, htoken]

/-! ## Space -/

/-- Space up to a break or to the next token. -/
theorem skipSpace_of_skipWhile {c c' : Cursor} (fuel : Nat)
    (hskip : c.skipWhile (fun a ↦ a == ' ' || ((false || !allowed) && a == '\t')) = c')
    (hmark : c.head? ≠ some '\uFEFF') (hcomment : c'.head? ≠ some '#') :
    skipSpace false (fuel + 1) allowed c =
      if c'.head?.any isBreak then skipSpace false fuel (allowed || !false) c'.readBreak.2
      else (allowed, c') := by
  have hfirst : (if c.index = 0 ∧ c.head? = some '\uFEFF' then c.advance 1 else c) = c :=
    if_neg fun h ↦ hmark h.2
  have hlast : (if c'.head? = some '#' then c'.toLineEnd else c') = c' := if_neg hcomment
  rw [skipSpace]
  simp only [hfirst, hskip, hlast]

theorem skipSpace_spaces (hz : StartsToken z) (fuel n : Nat) :
    skipSpace false (fuel + 1) allowed ⟨List.replicate n ' ' ++ z, i, l, k⟩ =
      (allowed, ⟨z, i + n, l, k + n⟩) := by
  have hmark : (List.replicate n ' ' ++ z).head? ≠ some '\uFEFF' := by
    cases n with
    | zero => exact fun h ↦ (hz _ h).2.2 rfl
    | succ n => simp [List.replicate_succ]
  have hstop : ∀ a ∈ z.head?, (a == ' ' || ((false || !allowed) && a == '\t')) = false := by
    intro a ha
    have hspacing := (hz a ha).1.1
    rw [isSpacing, Bool.or_eq_false_iff] at hspacing
    rw [hspacing.1, hspacing.2, Bool.and_false, Bool.or_false]
  have hskip := Cursor.skipWhile_append (w := List.replicate n ' ') (i := i) (l := l) (k := k)
    (by simp) hstop
  rw [List.length_replicate] at hskip
  have hbreak : ¬ z.head?.any isBreak = true := by
    rw [Option.any_eq_true]
    rintro ⟨a, ha, hbreak⟩
    rw [(hz a ha).1.2] at hbreak
    cases hbreak
  rw [skipSpace_of_skipWhile fuel hskip hmark fun h ↦ (hz _ h).2.1 rfl]
  exact if_neg hbreak

theorem skipSpace_line (hz : StartsToken z) (fuel n : Nat) :
    skipSpace false (fuel + 2) allowed ⟨'\n' :: (List.replicate n ' ' ++ z), i, l, k⟩ =
      (true, ⟨z, i + 1 + n, l + 1, n⟩) := by
  have hskip : Cursor.skipWhile (fun a ↦ a == ' ' || ((false || !allowed) && a == '\t'))
      ⟨'\n' :: (List.replicate n ' ' ++ z), i, l, k⟩ =
      ⟨'\n' :: (List.replicate n ' ' ++ z), i, l, k⟩ := by
    refine Cursor.skipWhile_of_stops fun a ha ↦ ?_
    cases ha
    simp
  have hhead : Cursor.head? ⟨'\n' :: (List.replicate n ' ' ++ z), i, l, k⟩ = some '\n' := rfl
  rw [skipSpace_of_skipWhile _ hskip (by simp [hhead]) (by simp [hhead]), hhead, Option.any_some,
    if_pos isOwnBreak_newline.isBreak, Cursor.readBreak_cons isOwnBreak_newline, Bool.not_false,
    Bool.or_true, skipSpace_spaces hz, Nat.zero_add]

/-! ## Scanners between tokens -/

/-- A scanner in no collection on one line and with no possible key. -/
def between (toks : List Token) (m : Nat) (o : List Nat) (allowed : Bool) (c : Cursor) : Scanner :=
  { cursor := c, tokens := toks, keyAllowed := allowed, margin := m, outerMargins := o }

/-- The scanner with the next token as a possible key, or with none. -/
def withPlace (s : Scanner) (place : Option KeyPlace) : Scanner := { s with place := place }

/-- A possible key that is given up once its line ends. -/
def Fades (l : Nat) (place : Option KeyPlace) : Prop :=
  ∀ p ∈ place, p.required = false ∧ p.line ≤ l

theorem fades_none (l : Nat) : Fades l none := fun _ h ↦ nomatch h

theorem refresh?_of_fades {c : Cursor} {place : Option KeyPlace} (h : Fades l place)
    (hl : l < c.line) :
    refresh? ((between toks m o allowed c).withPlace place) =
      some (between toks m o allowed c) := by
  have hplace : refreshPlace c place = some none := by
    cases place with
    | none => rfl
    | some p =>
      obtain ⟨hrequired, hline⟩ := h p rfl
      rw [refreshPlace, if_pos (Or.inl (by omega)), hrequired, if_neg Bool.false_ne_true]
  rw [refresh?]
  simp only [between, withPlace, hplace]
  rfl

theorem toNext_withPlace {c c' : Cursor} {allowed' : Bool} (toks : List Token) (m : Nat)
    (o : List Nat) (place : Option KeyPlace)
    (h : skipSpace false (c.ahead.length + 1) allowed c = (allowed', c')) :
    toNext ((between toks m o allowed c).withPlace place) =
      (between toks m o allowed' c').withPlace place := by
  simp only [toNext, between, withPlace, inFlow, List.isEmpty_nil, Bool.not_true, h]

theorem settle?_spaces (hz : StartsToken z) (n : Nat) :
    settle? (between toks m o allowed ⟨List.replicate n ' ' ++ z, i, l, k⟩) =
      some (between toks m o allowed ⟨z, i + n, l, k + n⟩) := by
  have hspace : skipSpace false ((List.replicate n ' ' ++ z).length + 1) allowed
      ⟨List.replicate n ' ' ++ z, i, l, k⟩ = (allowed, ⟨z, i + n, l, k + n⟩) :=
    skipSpace_spaces hz _ n
  exact (congrArg refresh? (toNext_withPlace toks m o none hspace)).trans rfl

theorem settle?_of_startsToken (hz : StartsToken z) :
    settle? (between toks m o allowed ⟨z, i, l, k⟩) =
      some (between toks m o allowed ⟨z, i, l, k⟩) :=
  settle?_spaces hz 0

/-- The end of a line leads to the next token. -/
theorem leads_of_line (hz : StartsToken z) {place : Option KeyPlace} (h : Fades l place) (n : Nat) :
    Leads
      ((between toks m o allowed ⟨'\n' :: (List.replicate n ' ' ++ z), i, l, k⟩).withPlace place)
      (between toks m o true ⟨z, i + 1 + n, l + 1, n⟩) := by
  refine leads_of_settle? ?_ (by simp [withPlace, between]; omega)
  rw [settle?_of_startsToken hz, settle?, toNext_withPlace toks m o place (skipSpace_line hz _ n)]
  exact refresh?_of_fades h (Nat.lt_succ_self l)

theorem leads_break (hz : StartsToken z) (toks : List Token) (m : Nat) (o : List Nat)
    (allowed : Bool) (n i l k : Nat) :
    Leads (between toks m o allowed ⟨'\n' :: (List.replicate n ' ' ++ z), i, l, k⟩)
      (between toks m o true ⟨z, i + 1 + n, l + 1, n⟩) :=
  leads_of_line hz (fades_none l) n

/-- A possible key is forgotten at a token on a later line. -/
theorem leads_of_fades {l' : Nat} (hz : StartsToken z) {place : Option KeyPlace}
    (h : Fades l place) (hl : l < l') :
    Leads ((between toks m o allowed ⟨z, i, l', k⟩).withPlace place)
      (between toks m o allowed ⟨z, i, l', k⟩) := by
  refine leads_of_settle? ?_ (Nat.le_refl _)
  have hspace : skipSpace false (z.length + 1) allowed ⟨z, i, l', k⟩ = (allowed, ⟨z, i, l', k⟩) :=
    skipSpace_spaces hz z.length 0
  rw [settle?_of_startsToken hz, settle?, toNext_withPlace toks m o place hspace]
  exact refresh?_of_fades h hl

/-! ## Blocks stay open -/

theorem unroll_of_margin {c : Cursor} (hm : m ≤ c.column + 1) (place : Option KeyPlace) :
    unroll ((between toks m o allowed c).withPlace place) c.column =
      (between toks m o allowed c).withPlace place := by
  have hclose : closeBlocks c.column m o = (0, m, o) := by
    cases o with
    | nil => rfl
    | cons m' o => rw [closeBlocks, if_neg (by omega)]
  rw [unroll, if_neg (by simp [inFlow, between, withPlace])]
  simp only [between, withPlace, hclose]
  rfl

/-- A token behind space leads to what is behind it. -/
theorem leads_of_spaces (hz : StartsToken z) {a : Char} (ha : z.head? = some a) (hm : m ≤ k + n + 1)
    (htoken : token? (between toks m o allowed ⟨z, i + n, l, k + n⟩) a = some s)
    (hlength : s.cursor.ahead.length < z.length) :
    Leads (between toks m o allowed ⟨List.replicate n ' ' ++ z, i, l, k⟩) s := by
  refine leads_of_token? (settle?_spaces hz n) (unroll_of_margin hm none) ha htoken ?_
  show s.cursor.ahead.length < (List.replicate n ' ' ++ z).length
  rw [List.length_append]
  omega

/-! ## Scalars -/

theorem savePlace?_between {c : Cursor} (hm : m ≤ c.column) (toks : List Token) (o : List Nat)
    (allowed : Bool) :
    ∃ place, Fades c.line place ∧ savePlace? (between toks m o allowed c) =
      some ((between toks m o allowed c).withPlace place) := by
  cases allowed with
  | false => exact ⟨none, fades_none _, rfl⟩
  | true =>
    refine ⟨_, ?_, rfl⟩
    intro p hp
    cases hp
    refine ⟨?_, Nat.le_refl _⟩
    simp [between]
    omega

theorem startsPlain_of_not_mem {a : Char} {next : Option Char} (hspacing : isSpacing a = false)
    (hfirst : a ∉ firstSigns) (hnext : a = '-' ∨ a = '?' ∨ a = ':' → endsWord next = false) :
    startsPlain false a next = true := by
  have hsome : endsWord next = false → ∃ b, next = some b ∧ isSpacing b = false := by
    intro h
    cases next with
    | none => cases h
    | some b => exact ⟨b, rfl, (Bool.or_eq_false_iff.mp h).1⟩
  by_cases ha : a = '-' ∨ a = '?' ∨ a = ':'
  · have hends := hnext ha
    obtain ⟨b, rfl, hb⟩ := hsome hends
    obtain rfl | rfl | rfl := ha <;> simp [startsPlain, hends, hb]
  · have hsigns : ("-?:,[]\x7b\x7d#&*!|>'\"%@\x60".toList.all fun b ↦
        (['-', '?', ':'] ++ firstSigns).contains b) = true := by decide
    have hmem : a ∉ "-?:,[]\x7b\x7d#&*!|>'\"%@\x60".toList := by
      intro h
      obtain h | h := List.mem_append.mp (List.contains_iff_mem.mp (List.all_eq_true.mp hsigns a h))
      · exact ha (by simpa using h)
      · exact hfirst h
    rw [startsPlain, hspacing, decide_eq_false hmem]
    rfl

theorem token?_eq_plain? {a : Char} {c : Cursor} (hspacing : isSpacing a = false)
    (hfirst : a ∉ firstSigns) (hnext : a = '-' ∨ a = '?' ∨ a = ':' → endsWord c.second? = false)
    (hstart : c.isAtMark '-' = false) (hend : c.isAtMark '.' = false) :
    token? (between toks m o allowed c) a = plain? (between toks m o allowed c) := by
  have hne : ∀ b ∈ firstSigns, a ≠ b := fun b hb h ↦ hfirst (h ▸ hb)
  have hsign : ∀ b, b = '-' ∨ b = '?' ∨ b = ':' → ¬ (a = b ∧ endsWord c.second? = true) := by
    rintro b hb ⟨rfl, hends⟩
    rw [hnext hb] at hends
    cases hends
  have hflow : inFlow (between toks m o allowed c) = false := rfl
  have hcursor : (between toks m o allowed c).cursor = c := rfl
  rw [token?]
  simp only [hflow, hcursor, hstart, hend, hne '[' (by decide), hne '\x7b' (by decide),
    hne ']' (by decide), hne '\x7d' (by decide), hne ',' (by decide), hne '*' (by decide),
    hne '&' (by decide), hne '!' (by decide), hne '|' (by decide), hne '>' (by decide),
    hne '\'' (by decide), hne '"' (by decide), hne '%' (by decide), hsign '-' (by decide),
    hsign '?' (by decide), hsign ':' (by decide), startsPlain_of_not_mem hspacing hfirst hnext,
    Bool.false_eq_true, false_or, false_and, and_false, if_false, if_true]

theorem plain?_of_readPlain? {c c' : Cursor} {broken : Bool} {place : Option KeyPlace}
    (hsave : savePlace? (between toks m o allowed c) =
      some ((between toks m o allowed c).withPlace place))
    (hread : readPlain? false m (c.ahead.length + 1) [] {} c = some (t, broken, c')) :
    plain? (between toks m o allowed c) =
      some ((between (.scalar t .plain :: toks) m o broken c').withPlace place) := by
  rw [plain?, hsave, Option.bind_eq_bind, Option.bind_some]
  show (readPlain? false m (c.ahead.length + 1) [] {} c).bind _ = _
  rw [hread]
  rfl

/-- How the first character of a plain scalar and the one behind it are seen. -/
theorem endsWord_of_startsWithSign {a : Char} (hsign : startsWithSign (a :: u) = false)
    (ha : a = '-' ∨ a = '?' ∨ a = ':') (y : Text) : endsWord (u ++ y).head? = false := by
  rw [startsWithSign, Bool.or_eq_false_iff] at hsign
  have hends : endsWord u.head? = false := by
    obtain rfl | rfl | rfl := ha <;> exact hsign.2
  cases u with
  | nil => cases hends
  | cons b u => exact hends

theorem leads_plain (hu : PlainText u) (hz : StartsToken z) (hn : n < m) (hm : m ≤ k + 1)
    (toks : List Token) (o : List Nat) (allowed : Bool) (i l : Nat) :
    ∃ i' l', Leads (between toks m o allowed
        ⟨' ' :: (u ++ '\n' :: (List.replicate n ' ' ++ z)), i, l, k⟩)
      (between (.scalar u .plain :: toks) m o true ⟨z, i', l', n⟩) := by
  set line : Text := '\n' :: (List.replicate n ' ' ++ z) with hline
  have hlength : z.length < line.length := by
    simp only [hline, List.length_cons, List.length_append, List.length_replicate]
    omega
  obtain ⟨a, u', rfl⟩ := List.exists_cons_of_ne_nil hu.ne_nil
  have hfirst : a ∉ firstSigns := of_decide_eq_false (Bool.or_eq_false_iff.mp hu.sign).1
  have hink : IsInk a :=
    (hu.oneLine a List.mem_cons_self).resolve_left fun h ↦ hu.space (by rw [h]; rfl)
  have hnumber : a ≠ '#' := fun h ↦ hfirst (by rw [h]; decide)
  have hmark : a ≠ '\uFEFF' := fun h ↦ hu.mark (by rw [h]; rfl)
  have hstarts : StartsToken (a :: u' ++ line) := startsToken_cons ⟨hink, hnumber, hmark⟩ _
  have hfuel : (a :: u').length < (a :: u' ++ line).length + 1 := by
    rw [List.length_append]
    omega
  have hread := readPlain?_line (i := i + 1) (l := l) (t := []) (g := {}) hz.startsInk hn
    hu.toPlainTail hu.ne_nil hu.space (fun h ↦ hnumber (Option.some_inj.mp h)) hfuel hm
  obtain ⟨place, hfades, hsave⟩ := savePlace?_between (c := ⟨a :: u' ++ line, i + 1, l, k + 1⟩) hm
    toks o allowed
  have hinner : ∀ mark, Cursor.isAtMark mark ⟨a :: u' ++ line, i + 1, l, k + 1⟩ = false :=
    fun mark ↦ Cursor.isAtMark_of_column (Nat.succ_pos k) mark
  have htoken := (token?_eq_plain? (c := ⟨a :: u' ++ line, i + 1, l, k + 1⟩) hink.1 hfirst
    (endsWord_of_startsWithSign hu.sign · line) (hinner '-') (hinner '.')).trans
    (plain?_of_readPlain? hsave hread)
  refine ⟨_, _, (leads_of_spaces (n := 1) hstarts rfl (by omega) htoken ?_).trans
    (leads_of_fades hz hfades (Nat.lt_succ_self l))⟩
  show z.length < (a :: u' ++ line).length
  rw [List.length_append]
  omega

theorem startsToken_quote (single : Bool) (y : Text) : StartsToken (quoteOf single :: y) :=
  startsToken_cons (by cases single <;> decide) y

theorem token?_eq_quoted? {c : Cursor} (hk : 0 < c.column) (single : Bool) :
    token? (between toks m o allowed c) (quoteOf single) =
      quoted? (between toks m o allowed c) single := by
  have hcursor : (between toks m o allowed c).cursor = c := rfl
  have hmark : ∀ mark, c.isAtMark mark = false := fun mark ↦ Cursor.isAtMark_of_column hk mark
  rw [token?]
  cases single <;> simp [quoteOf, hcursor, hmark]

theorem leads_quoted {single : Bool} {f : Char → Text} {written : Text}
    (h : Quoted single f (m + 1) t written) (hz : StartsToken z) (n : Nat) (hm : m ≤ k + 1)
    (toks : List Token) (o : List Nat) (allowed : Bool) (i l : Nat) :
    ∃ i' l', Leads (between toks m o allowed ⟨' ' :: (quoteOf single ::
        (written ++ quoteOf single :: '\n' :: (List.replicate n ' ' ++ z))), i, l, k⟩)
      (between (.scalar t (if single then .singleQuoted else .doubleQuoted) :: toks) m o true
        ⟨z, i', l', n⟩) := by
  set line : Text := '\n' :: (List.replicate n ' ' ++ z) with hline
  set ahead : Text := quoteOf single :: (written ++ quoteOf single :: line) with hahead
  have hfuel : written.length < ahead.length + 1 := by
    simp [hahead]
    omega
  obtain ⟨c, hread, hrest, hl⟩ := h.readQuoted? (t := []) (z := line) (i := i + 1 + 1) (l := l)
    (Nat.succ_pos m) (fun _ ↦ by simp [hline]) hfuel (Nat.succ_pos (k + 1))
  obtain ⟨place, hfades, hsave⟩ :=
    savePlace?_between (c := ⟨ahead, i + 1, l, k + 1⟩) hm toks o allowed
  have htoken : token? (between toks m o allowed ⟨ahead, i + 1, l, k + 1⟩) (quoteOf single) =
      some ((between (.scalar t (if single then .singleQuoted else .doubleQuoted) :: toks) m o false
        c).withPlace place) := by
    rw [token?_eq_quoted? (Nat.succ_pos k), quoted?, content?, hsave, Option.bind_eq_bind,
      Option.bind_some]
    show ((readQuoted? single (ahead.length + 1) []
      ⟨written ++ quoteOf single :: line, i + 1 + 1, l, k + 1 + 1⟩).bind _).bind _ = _
    rw [hread]
    rfl
  have hfirst := leads_of_spaces (n := 1) (i := i) (k := k) (startsToken_quote single _) rfl
    (by omega) htoken ?_
  · obtain ⟨rest, i', l', k'⟩ := c
    obtain rfl : rest = line := hrest
    have hlast : Fades l' place := fun p hp ↦ ⟨(hfades p hp).1, (hfades p hp).2.trans hl⟩
    exact ⟨_, _, hfirst.trans (leads_of_line hz hlast n)⟩
  · show c.ahead.length < _
    rw [hrest]
    simp
    omega

theorem leads_block (ht : allowsBlock t = true) (hz : StartsToken z) (hn : n < m)
    (hm : m ≤ k + 1) (toks : List Token) (o : List Nat) (allowed : Bool) (i l : Nat) :
    ∃ i' l', Leads (between toks m o allowed ⟨' ' :: ('|' :: (blockHints t ++ '\n' ::
        (indentLines (m + 1) ([·]) true (ended t) ++ (List.replicate n ' ' ++ z)))), i, l, k⟩)
      (between (.scalar t .literal :: toks) m o true ⟨z, i', l', n⟩) := by
  set body : Text := blockHints t ++ '\n' ::
    (indentLines (m + 1) ([·]) true (ended t) ++ (List.replicate n ' ' ++ z)) with hbody
  obtain ⟨⟨rest, i', l', k'⟩, hread, hrest, hcolumn, -⟩ :=
    readBlock?_ended (i := i + 1 + 1) (l := l) (k := k + 1 + 1) ht (Nat.one_le_of_lt hn)
      hz.startsInk (Nat.le_of_lt hn)
  obtain rfl : rest = z := hrest
  obtain rfl : k' = n := hcolumn
  have htoken : token? (between toks m o allowed ⟨'|' :: body, i + 1, l, k + 1⟩) '|' =
      some (between (.scalar t .literal :: toks) m o true ⟨rest, i', l', k'⟩) := by
    have hblock : token? (between toks m o allowed ⟨'|' :: body, i + 1, l, k + 1⟩) '|' =
        block? (between toks m o allowed ⟨'|' :: body, i + 1, l, k + 1⟩) .literal := by
      rw [token?]
      simp [Cursor.isAtMark_of_column, inFlow, between]
    rw [hblock]
    show (readBlock? false m ⟨body, i + 1 + 1, l, k + 1 + 1⟩).bind _ = _
    rw [hread]
    rfl
  have hstarts : StartsToken ('|' :: body) := startsToken_cons (by decide) body
  refine ⟨_, _, leads_of_spaces (n := 1) (i := i) hstarts rfl (by omega) htoken ?_⟩
  show rest.length < ('|' :: body).length
  simp [hbody]
  omega

/-! ## Styles -/

theorem plainText_of_styleOf (h : styleOf t = .plain) : PlainText t := by
  obtain ⟨hambiguous, hplain⟩ := allowsPlain_of_styleOf h
  refine plainText_of_allowsPlain ?_ hplain
  rintro rfl
  cases hambiguous

theorem quotableTail_of_styleOf (h : styleOf t = .singleQuoted) : QuotableTail t := by
  obtain ⟨hline, hquotes⟩ := allowsQuotes_of_styleOf h
  exact quotableTail_of_allowsQuotes hquotes hline

/-- **A scalar is read back**, in its style, together with the indentation of the next line. -/
theorem leads_scalar (t : Text) (hz : StartsToken z) (hn : n < m) (hm : m ≤ k + 1)
    (toks : List Token) (o : List Nat) (allowed : Bool) (i l : Nat) :
    ∃ i' l', Leads (between toks m o allowed
        ⟨' ' :: (writeScalar (m + 1) t ++ (List.replicate n ' ' ++ z)), i, l, k⟩)
      (between (.scalar t (styleOf t) :: toks) m o true ⟨z, i', l', n⟩) := by
  rw [writeScalar]
  cases hstyle : styleOf t with
  | plain =>
    have hplain := leads_plain (plainText_of_styleOf hstyle) hz hn hm toks o allowed i l
    simpa using hplain
  | singleQuoted =>
    have hquoted := leads_quoted (quoted_quotedBody (quotableTail_of_styleOf hstyle)) hz n hm toks o
      allowed i l
    rw [singleQuoted_eq]
    simpa [quoteOf] using hquoted
  | doubleQuoted =>
    have hquoted := leads_quoted (quoted_flatMap_escaped t) hz n hm toks o allowed i l
    rw [doubleQuoted_eq]
    simpa [quoteOf] using hquoted
  | literal =>
    have hblock := leads_block (allowsBlock_of_styleOf hstyle) hz hn hm toks o allowed i l
    rw [literal_ended]
    simpa using hblock
  | folded => exact absurd hstyle (styleOf_ne_folded t)

/-! ## Keys and items -/

/-- A name that can be a key: a word that is not too long. -/
def IsName (key : Text) : Prop := IsWord key ∧ key.length ≤ longestKey

instance (key : Text) : Decidable (IsName key) := inferInstanceAs (Decidable (_ ∧ _))

theorem startsToken_of_isWord {key : Text} (h : IsWord key) (y : Text) :
    StartsToken (key ++ y) := by
  intro a ha
  rw [List.head?_append_of_ne_nil _ h.1] at ha
  have hsigns : a ∉ signs := not_mem_signs (h.2 a (List.mem_of_head? ha))
  exact ⟨isInk_of_not_mem_signs hsigns, fun heq ↦ hsigns (by rw [heq]; decide),
    fun heq ↦ hsigns (by rw [heq]; decide)⟩

/-- Opens a mapping, unless it is open. -/
def opening (m k : Nat) : List Token := if m ≤ k then [.blockMapping] else []

/-- What a key and its colon add to the tokens. -/
def keyTokens (key : Text) (m k : Nat) : List Token :=
  opening m k ++ [.key, .scalar key .plain, .value]

theorem isAtMark_of_isWord {key : Text} (h : IsWord key) {mark : Char} (hmark : mark ∈ signs)
    (y : Text) : Cursor.isAtMark mark ⟨key ++ y, i, l, k⟩ = false := by
  refine Cursor.isAtMark_of_head? fun hhead ↦ h.not_mem hmark ?_
  rw [List.head?_append_of_ne_nil _ h.1] at hhead
  exact List.mem_of_head? hhead

/-- The first character of a word starts a plain scalar. -/
theorem token?_of_isWord {key : Text} {a : Char} (h : IsWord key) (ha : key.head? = some a)
    (y : Text) (toks : List Token) (m : Nat) (o : List Nat) (allowed : Bool) (i l k : Nat) :
    token? (between toks m o allowed ⟨key ++ y, i, l, k⟩) a =
      plain? (between toks m o allowed ⟨key ++ y, i, l, k⟩) := by
  have hsigns : a ∉ signs := not_mem_signs (h.2 a (List.mem_of_head? ha))
  have hfirst : a ∉ firstSigns := fun hmem ↦ hsigns (List.mem_append_left _ hmem)
  refine token?_eq_plain? (isInk_of_not_mem_signs hsigns).1 hfirst ?_
    (isAtMark_of_isWord h (by decide) y) (isAtMark_of_isWord h (by decide) y)
  rintro (rfl | rfl | rfl) <;> exact absurd (by decide) hsigns

/-- The possible key at a position. -/
def placeAt (toks : List Token) (m : Nat) (c : Cursor) : KeyPlace where
  required := m == c.column + 1
  number := toks.length
  index := c.index
  line := c.line
  column := c.column

theorem leads_name {key : Text} (hkey : IsWord key) (hz : endsWord z.head? = true)
    (hm : m ≤ k + 1) :
    Leads (between toks m o true ⟨key ++ ':' :: z, i, l, k⟩)
      ((between (.scalar key .plain :: toks) m o false
        ⟨':' :: z, i + key.length, l, k + key.length⟩).withPlace
          (some (placeAt toks m ⟨key ++ ':' :: z, i, l, k⟩))) := by
  obtain ⟨a, ha⟩ : ∃ a, key.head? = some a := by
    cases key with
    | nil => exact absurd rfl hkey.1
    | cons a key => exact ⟨a, rfl⟩
  have hboundary : Cursor.isAtBoundary ⟨key ++ ':' :: z, i, l, k⟩ = false := by
    rw [Cursor.isAtBoundary, isAtMark_of_isWord hkey (by decide),
      isAtMark_of_isWord hkey (by decide)]
    rfl
  have hread : readPlain? false m ((key ++ ':' :: z).length + 1) [] {} ⟨key ++ ':' :: z, i, l, k⟩ =
      some (key, false, ⟨':' :: z, i + key.length, l, k + key.length⟩) :=
    readPlain?_key (fun a ha ↦ isInk_of_not_mem_signs (not_mem_signs (hkey.2 a ha))) hkey.1
      (hkey.not_mem (by decide)) (fun h ↦ hkey.not_mem (by decide) (List.mem_of_head? h)) hz
      hboundary
  have htoken := (token?_of_isWord hkey ha (':' :: z) toks m o true i l k).trans
    (plain?_of_readPlain? rfl hread)
  have hhead : (key ++ ':' :: z).head? = some a := by
    rw [List.head?_append_of_ne_nil _ hkey.1, ha]
  refine leads_of_spaces (n := 0) (startsToken_of_isWord hkey _) hhead hm htoken ?_
  show (':' :: z).length < (key ++ ':' :: z).length
  rw [List.length_append]
  have hpos := List.length_pos_of_ne_nil hkey.1
  omega

theorem value?_placeAt (key : Text) (toks : List Token) (m : Nat) (o : List Nat) (c c' : Cursor) :
    value? ((between (.scalar key .plain :: toks) m o false c').withPlace
        (some (placeAt toks m c))) =
      some (between ((keyTokens key m c.column).reverse ++ toks)
        (if m ≤ c.column then c.column + 1 else m) (if m ≤ c.column then m :: o else o) false
        (c'.advance 1)) := by
  have hlater : toks.length + 1 + 1 - toks.length = 2 := by omega
  by_cases hm : m ≤ c.column
  · simp [value?, between, withPlace, placeAt, insert, roll, inFlow, take, push, keyTokens,
      opening, hm, hlater]
  · simp [value?, between, withPlace, placeAt, insert, roll, inFlow, take, push, keyTokens,
      opening, hm]

theorem token?_colon {c : Cursor} {place : Option KeyPlace} (hk : 0 < c.column)
    (hnext : endsWord c.second? = true) :
    token? ((between toks m o allowed c).withPlace place) ':' =
      value? ((between toks m o allowed c).withPlace place) := by
  have hcursor : ((between toks m o allowed c).withPlace place).cursor = c := rfl
  have hmark : ∀ mark, c.isAtMark mark = false := fun mark ↦ Cursor.isAtMark_of_column hk mark
  rw [token?]
  simp [hcursor, hmark, hnext]

/-- **A key is found** by the colon behind it, and opens a mapping at its column. -/
theorem leads_key {key : Text} (hkey : IsName key) (hz : endsWord z.head? = true) (hm : m ≤ k + 1)
    (toks : List Token) (o : List Nat) (i l : Nat) :
    Leads (between toks m o true ⟨key ++ ':' :: z, i, l, k⟩)
      (between ((keyTokens key m k).reverse ++ toks) (k + 1) (if m ≤ k then m :: o else o) false
        ⟨z, i + key.length + 1, l, k + key.length + 1⟩) := by
  obtain ⟨hword, hlength⟩ := hkey
  refine (leads_name hword hz hm).trans ?_
  set c : Cursor := ⟨key ++ ':' :: z, i, l, k⟩ with hc
  set c' : Cursor := ⟨':' :: z, i + key.length, l, k + key.length⟩ with hc'
  have hstarts : StartsToken (':' :: z) := startsToken_cons (by decide) z
  have hsettle : settle? ((between (.scalar key .plain :: toks) m o false c').withPlace
        (some (placeAt toks m c))) =
      some ((between (.scalar key .plain :: toks) m o false c').withPlace
        (some (placeAt toks m c))) := by
    have hspace : skipSpace false (c'.ahead.length + 1) false c' = (false, c') :=
      skipSpace_spaces hstarts _ 0
    have hrefresh : refreshPlace c' (some (placeAt toks m c)) = some (some (placeAt toks m c)) := by
      refine if_neg ?_
      show ¬ (l < l ∨ i + longestKey < i + key.length)
      omega
    rw [settle?, toNext_withPlace _ _ _ _ hspace, refresh?]
    simp only [between, withPlace, hrefresh]
    rfl
  have hmargin : (if m ≤ k then k + 1 else m) = k + 1 := by
    split_ifs <;> omega
  have hvalue := (token?_colon (c := c') (Nat.add_pos_right k (List.length_pos_of_ne_nil hword.1))
    hz).trans (value?_placeAt key toks m o c c')
  rw [show (if m ≤ c.column then c.column + 1 else m) = k + 1 from hmargin] at hvalue
  refine leads_of_token? hsettle (unroll_of_margin ?_ _) rfl hvalue ?_
  · show m ≤ k + key.length + 1
    omega
  · exact Nat.lt_succ_self z.length

end Scanner
end PacketFilter.Yaml
