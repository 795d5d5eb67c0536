import PacketFilter.Proofs.Yaml.Layout
import PacketFilter.Yaml.Parser

/-!
# Nodes of what was written

The readers of nodes are followed token by token. Each has an equation for the token it finds, and
from these it follows which node a list of tokens is read as and what is left. A list of tokens that
is followed by a further key, or by the end of its mapping, stands for a node if enough calls may be
nested; how many follows from the number of tokens.
-/

namespace PacketFilter.Yaml

/-! ## Nodes of values -/

/-- The node of a text in its style. -/
def textNode (t : Text) : Node := .scalar ⟨t, styleOf t, none⟩

/-- The node of a word, which is written plain. -/
def wordNode (t : Text) : Node := .scalar ⟨t, .plain, none⟩

/-- The node of a value. -/
def valueNode : Value → Node
  | .null => wordNode "null"
  | .number n => wordNode (Text.decimal n)
  | .text t => textNode t
  | .texts ts => .sequence (ts.map textNode)

/-- The nodes of an entry. -/
def entryNodes (e : Text × Value) : Node × Node := (wordNode e.1, valueNode e.2)

namespace Load

variable {l : Loading} {fuel : Nat} {k : Token} {rest toks : List Token}

/-- What is known of a document, with the tokens that are left. -/
def withTokens (l : Loading) (toks : List Token) : Loading := { l with tokens := toks }

/-! ## One token -/

theorem node_scalar (block bare : Bool) (t : Text) (style : Style) :
    node block bare (fuel + 1) (withTokens l (.scalar t style :: rest)) =
      some (.scalar ⟨t, style, none⟩, withTokens l rest) := by
  rw [node]
  rfl

theorem node_item (block : Bool) :
    node block true (fuel + 1) (withTokens l (.item :: rest)) =
      bareItems [] fuel (withTokens l (.item :: rest)) := by
  rw [node]
  rfl

theorem node_mapping (bare : Bool) :
    node true bare (fuel + 1) (withTokens l (.blockMapping :: rest)) =
      blockEntries [] fuel (withTokens l rest) := by
  rw [node]
  rfl

theorem node_noItems (block bare : Bool) :
    node block bare (fuel + 2) (withTokens l (.flowSequence :: .flowSequenceEnd :: rest)) =
      some (.sequence [], withTokens l rest) := by
  rw [node]
  show flowItems [] (fuel + 1) (withTokens l (.flowSequenceEnd :: rest)) = _
  rw [flowItems]
  rfl

theorem nodeUnless_of_not {ends : Token → Bool} (h : ends k = false) (block bare : Bool) :
    nodeUnless ends block bare (fuel + 1) (withTokens l (k :: rest)) =
      node block bare fuel (withTokens l (k :: rest)) := by
  rw [nodeUnless]
  show (if ends k = true then _ else _ : Load Node) _ = _
  rw [h]
  rfl

theorem nodeUnless_scalar {ends : Token → Bool} (t : Text) (style : Style)
    (h : ends (.scalar t style) = false) (block bare : Bool) (hfuel : 2 ≤ fuel) :
    nodeUnless ends block bare fuel (withTokens l (.scalar t style :: rest)) =
      some (.scalar ⟨t, style, none⟩, withTokens l rest) := by
  obtain ⟨fuel, rfl⟩ := Nat.exists_eq_add_of_le' hfuel
  rw [nodeUnless_of_not h, node_scalar]

theorem bareItems_item (items : List Node) :
    bareItems items (fuel + 1) (withTokens l (.item :: rest)) =
      (nodeUnless endsPlainItem true false fuel >>= fun n ↦ bareItems (n :: items) fuel)
        (withTokens l rest) := by
  rw [bareItems]
  rfl

theorem bareItems_of_ne (h : k ≠ .item) (items : List Node) :
    bareItems items (fuel + 1) (withTokens l (k :: rest)) =
      some (.sequence items.reverse, withTokens l (k :: rest)) := by
  rw [bareItems]
  cases k <;> first | rfl | exact absurd rfl h

theorem blockEntries_key (entries : List (Node × Node)) :
    blockEntries entries (fuel + 1) (withTokens l (.key :: rest)) =
      (nodeUnless endsBlockEntry true true fuel >>= fun k ↦
        blockValue fuel >>= fun v ↦ blockEntries ((k, v) :: entries) fuel) (withTokens l rest) := by
  rw [blockEntries]
  rfl

theorem blockEntries_end (entries : List (Node × Node)) :
    blockEntries entries (fuel + 1) (withTokens l (.blockEnd :: rest)) =
      some (.mapping entries.reverse, withTokens l rest) := by
  rw [blockEntries]
  rfl

theorem blockValue_value :
    blockValue (fuel + 1) (withTokens l (.value :: rest)) =
      nodeUnless endsBlockEntry true true fuel (withTokens l rest) := by
  rw [blockValue]
  rfl

theorem bind_eq_of {α β : Type} {read : Load α} {next : α → Load β} {a : α} {l' : Loading}
    (h : read l = some (a, l')) : (read >>= next) l = next a l' := by
  show (read l).bind _ = _
  rw [h]
  rfl

/-! ## Values -/

theorem bareItems_texts (hk : k ≠ .item) (ts : List Text) (items : List Node)
    (hfuel : ts.length + 2 ≤ fuel) :
    bareItems items fuel (withTokens l (ts.flatMap (fun t ↦ [.item, textToken t]) ++ k :: rest)) =
      some (.sequence (items.reverse ++ ts.map textNode), withTokens l (k :: rest)) := by
  induction ts generalizing items fuel with
  | nil =>
    obtain ⟨fuel, rfl⟩ := Nat.exists_eq_add_of_le' hfuel
    rw [List.flatMap_nil, List.nil_append, List.map_nil, List.append_nil]
    exact bareItems_of_ne hk items
  | cons t ts ih =>
    rw [List.length_cons] at hfuel
    obtain ⟨fuel, rfl⟩ := Nat.exists_eq_add_of_le' (Nat.one_le_of_lt hfuel)
    have hitem : ∀ rest, nodeUnless endsPlainItem true false fuel
        (withTokens l (textToken t :: rest)) = some (textNode t, withTokens l rest) :=
      fun rest ↦ nodeUnless_scalar t (styleOf t) rfl true false (by omega)
    rw [List.flatMap_cons, List.append_assoc, List.cons_append, bareItems_item,
      List.singleton_append, bind_eq_of (hitem _), ih (textNode t :: items) (by omega),
      List.reverse_cons, List.append_assoc]
    rfl

theorem length_itemTokens (ts : List Text) :
    (ts.flatMap fun t ↦ [.item, textToken t]).length = 2 * ts.length := by
  induction ts with
  | nil => rfl
  | cons t ts ih =>
    have hcons : ([.item, textToken t] : List Token).length = 2 := rfl
    rw [List.flatMap_cons, List.length_append, ih, hcons, List.length_cons, Nat.mul_succ,
      Nat.add_comm]

/-- Tokens that are read as the node of an entry, whatever else follows. -/
def Reads (need : Nat) (toks : List Token) (n : Node) : Prop :=
  ∀ ⦃l fuel k rest⦄, k ≠ .item → need ≤ fuel →
    nodeUnless endsBlockEntry true true fuel (withTokens l (toks ++ k :: rest)) =
      some (n, withTokens l (k :: rest))

theorem Reads.mono {need need' : Nat} {n : Node} (h : Reads need toks n) (hle : need ≤ need') :
    Reads need' toks n :=
  fun _ _ _ _ hk hfuel ↦ h hk (hle.trans hfuel)

theorem reads_scalar (t : Text) (style : Style) :
    Reads 2 [.scalar t style] (.scalar ⟨t, style, none⟩) :=
  fun _ _ _ _ _ hfuel ↦ nodeUnless_scalar t style rfl _ _ hfuel

/-- **The tokens of a value are read as its node.** -/
theorem reads_value (v : Value) :
    Reads ((valueTokens v).length + 3) (valueTokens v) (valueNode v) := by
  cases v with
  | null => exact (reads_scalar _ _).mono (by decide)
  | number n => exact (reads_scalar _ _).mono (Nat.le_add_left 2 _)
  | text t => exact (reads_scalar _ _).mono (Nat.le_add_left 2 _)
  | texts ts =>
    cases ts with
    | nil =>
      intro l fuel k rest _ hfuel
      obtain ⟨fuel, rfl⟩ := Nat.exists_eq_add_of_le' hfuel
      exact (nodeUnless_of_not rfl true true).trans (node_noItems true true)
    | cons t ts =>
      intro l fuel k rest hk hfuel
      have hlength : (valueTokens (.texts (t :: ts))).length = 2 * (t :: ts).length :=
        length_itemTokens (t :: ts)
      rw [hlength, List.length_cons] at hfuel
      obtain ⟨fuel, rfl⟩ := Nat.exists_eq_add_of_le' (show 2 ≤ fuel by omega)
      have hneed : (t :: ts).length + 2 ≤ fuel := by
        rw [List.length_cons]
        omega
      exact ((nodeUnless_of_not rfl true true).trans (node_item true)).trans
        (bareItems_texts hk (t :: ts) [] hneed)

/-! ## Mappings -/

/-- The tokens and the node of what stands under a key. -/
structure Entry where
  key : Text
  tokens : List Token
  node : Node

/-- The tokens of an entry. -/
def Entry.toTokens (e : Entry) : List Token := .key :: .scalar e.key .plain :: .value :: e.tokens

/-- The nodes of an entry. -/
def Entry.toNodes (e : Entry) : Node × Node := (wordNode e.key, e.node)

/-- **The entries of a mapping are read** in order, up to its end. -/
theorem blockEntries_entries {need : Nat} (es : List Entry)
    (hreads : ∀ e ∈ es, Reads need e.tokens e.node) (entries : List (Node × Node))
    (hfuel : es.length + need + 3 ≤ fuel) :
    blockEntries entries fuel (withTokens l (es.flatMap Entry.toTokens ++ .blockEnd :: rest)) =
      some (.mapping (entries.reverse ++ es.map Entry.toNodes), withTokens l rest) := by
  induction es generalizing entries fuel with
  | nil =>
    obtain ⟨fuel, rfl⟩ := Nat.exists_eq_add_of_le' (Nat.one_le_of_lt hfuel)
    rw [List.flatMap_nil, List.nil_append, List.map_nil, List.append_nil]
    exact blockEntries_end entries
  | cons e es ih =>
    obtain ⟨he, hreads⟩ := List.forall_mem_cons.mp hreads
    rw [List.length_cons] at hfuel
    obtain ⟨fuel, rfl⟩ := Nat.exists_eq_add_of_le' (show 2 ≤ fuel by omega)
    obtain ⟨k, rest', hk, hrest⟩ : ∃ k rest', k ≠ .item ∧
        es.flatMap Entry.toTokens ++ .blockEnd :: rest = k :: rest' := by
      cases es with
      | nil => exact ⟨.blockEnd, rest, by decide, rfl⟩
      | cons e' es => exact ⟨.key, _, by decide, rfl⟩
    have hkey : ∀ rest, nodeUnless endsBlockEntry true true (fuel + 1)
        (withTokens l (.scalar e.key .plain :: rest)) = some (wordNode e.key, withTokens l rest) :=
      fun rest ↦ nodeUnless_scalar e.key .plain rfl true true (by omega)
    have hvalue : blockValue (fuel + 1) (withTokens l (.value :: (e.tokens ++ k :: rest'))) =
        some (e.node, withTokens l (k :: rest')) := by
      rw [blockValue_value]
      exact he hk (by omega)
    have htokens : (e :: es).flatMap Entry.toTokens ++ .blockEnd :: rest =
        .key :: .scalar e.key .plain :: .value :: (e.tokens ++ k :: rest') := by
      rw [List.flatMap_cons, List.append_assoc, hrest]
      rfl
    rw [htokens, blockEntries_key, bind_eq_of (hkey _), bind_eq_of hvalue, ← hrest,
      ih hreads _ (by omega), List.reverse_cons, List.append_assoc]
    rfl

/-- A mapping is itself what may stand under a key. -/
theorem reads_mapping {need : Nat} (es : List Entry)
    (hreads : ∀ e ∈ es, Reads need e.tokens e.node) :
    Reads (es.length + need + 5) (.blockMapping :: es.flatMap Entry.toTokens ++ [.blockEnd])
      (.mapping (es.map Entry.toNodes)) := by
  intro l fuel k rest hk hfuel
  obtain ⟨fuel, rfl⟩ := Nat.exists_eq_add_of_le' (show 2 ≤ fuel by omega)
  rw [List.append_assoc, List.cons_append]
  exact ((nodeUnless_of_not rfl true true).trans (node_mapping true)).trans
    (blockEntries_entries es hreads [] (by omega))

/-! ## The document -/

theorem root_mapping {need : Nat} (es : List Entry) (hreads : ∀ e ∈ es, Reads need e.tokens e.node)
    (htoks : toks = .blockMapping :: es.flatMap Entry.toTokens ++ [.blockEnd, .streamEnd])
    (hneed : es.length + need ≤ 4 * toks.length) :
    root { tokens := toks } =
      some (some (.mapping (es.map Entry.toNodes)),
        { tokens := [.streamEnd], handles := commonHandles }) := by
  have hroot : root { tokens := toks } =
      (node true false (4 * toks.length + 4) >>= fun n ↦
        documentEnds (4 * toks.length + 4) >>= fun _ ↦ pure (some n))
      (withTokens { tokens := [], handles := commonHandles } toks) := by
    rw [htoks]
    rfl
  have hnode : node true false (4 * toks.length + 4)
      (withTokens { tokens := [], handles := commonHandles } toks) =
      some (.mapping (es.map Entry.toNodes),
        withTokens { tokens := [], handles := commonHandles } [.streamEnd]) := by
    subst htoks
    exact (node_mapping false).trans (blockEntries_entries es hreads [] (by omega))
  rw [hroot, bind_eq_of hnode]
  rfl

end Load

/-- The entries of a mapping of values, as they are read. -/
def readEntries (entries : List (Text × Value)) : List Load.Entry :=
  entries.map fun e ↦ ⟨e.1, valueTokens e.2, valueNode e.2⟩

@[simp] theorem flatMap_readEntries (entries : List (Text × Value)) :
    (readEntries entries).flatMap Load.Entry.toTokens = entryTokens entries :=
  List.flatMap_map ..

@[simp] theorem map_readEntries (entries : List (Text × Value)) :
    (readEntries entries).map Load.Entry.toNodes = entries.map entryNodes :=
  List.map_map ..

theorem length_entryTokens (entries : List (Text × Value)) :
    entries.length ≤ (entryTokens entries).length ∧
      ∀ e ∈ entries, (valueTokens e.2).length + 3 ≤ (entryTokens entries).length := by
  induction entries with
  | nil => exact ⟨Nat.le_refl 0, fun _ h ↦ nomatch h⟩
  | cons e entries ih =>
    have hlength : (entryTokens (e :: entries)).length =
        (valueTokens e.2).length + 3 + (entryTokens entries).length := by
      simp [entryTokens]
      omega
    rw [hlength, List.length_cons]
    refine ⟨by omega, List.forall_mem_cons.mpr ⟨by omega, fun e' he' ↦ ?_⟩⟩
    exact le_trans (ih.2 e' he') (Nat.le_add_left _ _)

theorem reads_readEntries {entries : List (Text × Value)} {need : Nat}
    (h : (entryTokens entries).length ≤ need) :
    ∀ e ∈ readEntries entries, Load.Reads need e.tokens e.node := by
  intro _ hmem
  obtain ⟨e, he, rfl⟩ := List.mem_map.mp hmem
  exact (Load.reads_value e.2).mono (((length_entryTokens entries).2 e he).trans h)

/-- **A mapping is read back** as the document of its entries, the last of which is a mapping. -/
theorem parse?_nestedText {entries inner : List (Text × Value)} {name : Text}
    (hentries : ∀ e ∈ entries, Scanner.IsName e.1) (hname : Scanner.IsName name)
    (hinner : ∀ e ∈ inner, Scanner.IsName e.1) (hne : entries ≠ []) (hne' : inner ≠ []) :
    parse? (nestedText entries name inner) =
      some ⟨.mapping (entries.map entryNodes ++ [(wordNode name, .mapping (inner.map entryNodes))]),
        []⟩ := by
  set toks : List Token := nestedTokens entries name inner ++ [.streamEnd] with htoks
  have hlength : toks.length =
      (entryTokens entries).length + (entryTokens inner).length + 8 := by
    simp [htoks, nestedTokens, mappingTokens]
    omega
  set last : Load.Entry := ⟨name, mappingTokens inner, .mapping (inner.map entryNodes)⟩ with hlast
  have hmapping : Load.Reads (2 * toks.length) last.tokens last.node := by
    have hreads := Load.reads_mapping (readEntries inner)
      (reads_readEntries (Nat.le_refl (entryTokens inner).length))
    rw [flatMap_readEntries, map_readEntries] at hreads
    refine hreads.mono ?_
    have hcount := (length_entryTokens inner).1
    simp only [readEntries, List.length_map]
    omega
  have hreads : ∀ e ∈ readEntries entries ++ [last], Load.Reads (2 * toks.length) e.tokens e.node :=
    List.forall_mem_append.mpr
      ⟨reads_readEntries (by omega), List.forall_mem_singleton.mpr hmapping⟩
  have htokens : toks = .blockMapping ::
      (readEntries entries ++ [last]).flatMap Load.Entry.toTokens ++ [.blockEnd, .streamEnd] := by
    rw [List.flatMap_append, flatMap_readEntries]
    simp [htoks, hlast, nestedTokens, Load.Entry.toTokens]
  have hcount : (readEntries entries ++ [last]).length + 2 * toks.length ≤ 4 * toks.length := by
    have hentries := (length_entryTokens entries).1
    simp only [readEntries, List.length_append, List.length_map, List.length_singleton]
    omega
  rw [parse?, tokens?_nestedText hentries hname hinner hne hne']
  show (Load.root { tokens := toks }).bind _ = _
  rw [Load.root_mapping _ hreads htokens hcount, List.map_append, map_readEntries]
  rfl

end PacketFilter.Yaml
