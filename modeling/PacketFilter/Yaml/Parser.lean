import PacketFilter.Yaml.Node
import PacketFilter.Yaml.Scanner

/-!
# From tokens to documents

Each kind of collection has a reader for its entries. An entry may be left out wherever a sign
shows that one was meant, and is then an empty scalar. The readers call each other for every entry
and take a token at least every other call, so twice the number of tokens bounds their depth.

Inside a block mapping the hyphens of a sequence may stand at the column of the keys. The layout
does not mark such a sequence, which ends at the first token that is no hyphen.
-/

namespace PacketFilter.Yaml

/-- What is left of the tokens, and what is known of anchors and tags. -/
structure Loading where
  tokens : List Token
  /-- What handles of tags stand for. -/
  handles : List (Text × Text) := []
  /-- The numbers of anchors. -/
  anchors : List (Text × Nat) := []
  /-- The number of anchored nodes that have started. -/
  started : Nat := 0
  anchored : List Anchored := []

/-- A reader of tokens, which can fail. -/
abbrev Load := StateT Loading Option

namespace Load

def peek : Load Token := do
  match (← get).tokens with
  | k :: _ => return k
  | [] => failure

def skip : Load Unit := modify fun l ↦ { l with tokens := l.tokens.tail }

/-- The next token has to be a given one. -/
def expect (k : Token) : Load Unit := do
  if (← peek) = k then skip else failure

/-! ## Properties of nodes -/

/-- What is written before a node. -/
structure Properties where
  anchor : Option Text := none
  /-- The tag in full. -/
  tag : Option Text := none
  deriving DecidableEq, Repr

def fullTag (handle suffix : Text) : Load Text := do
  if handle = [] then return suffix
  match (← get).handles.find? (·.1 = handle) with
  | some (_, expansion) => return expansion ++ suffix
  | none => failure

def anchor : Load (Option Text) := do
  match ← peek with
  | .anchor name => skip; return some name
  | _ => return none

def tag : Load (Option Text) := do
  match ← peek with
  | .tag handle suffix => skip; return some (← fullTag handle suffix)
  | _ => return none

/-- An anchor and a tag, in either order. -/
def properties : Load Properties := do
  match ← anchor with
  | some name => return ⟨some name, ← tag⟩
  | none =>
    match ← tag with
    | some t => return ⟨← anchor, some t⟩
    | none => return {}

/-- The number of a name that anchors a node that starts here, and the number of the node among
those that are anchored. -/
def startAnchored (name : Text) : Load (Nat × Nat) := do
  let l ← get
  let number := l.anchors.length
  let others := l.anchors.filter (·.1 ≠ name)
  set { l with anchors := (name, number) :: others, started := l.started + 1 }
  return (number, l.started)

def anchoring (p : Properties) (body : Load Node) : Load Node := do
  match p.anchor with
  | none => body
  | some name =>
    let (number, start) ← startAnchored name
    let node ← body
    modify fun l ↦ { l with anchored := ⟨number, start, node⟩ :: l.anchored }
    return node

/-- The tag that a scalar carries. A lone exclamation mark is none. -/
def scalarTag (p : Properties) : Option Text := if p.tag = some ['!'] then none else p.tag

/-! ## Nodes -/

/-- Whether a token ends an entry of a block mapping that may be empty. -/
def endsBlockEntry : Token → Bool
  | .key | .value | .blockEnd => true
  | _ => false

/-- Whether a token ends an item of a sequence without marks of its own. -/
def endsPlainItem : Token → Bool
  | .item | .key | .value | .blockEnd => true
  | _ => false

/-- Whether a token ends an entry of a mapping on one line. -/
def endsFlowEntry : Token → Bool
  | .value | .comma | .flowMappingEnd => true
  | _ => false

/-- Whether a token ends the key of a pair in a sequence on one line. -/
def endsPairKey : Token → Bool
  | .value | .comma | .flowSequenceEnd => true
  | _ => false

mutual

/-- A node. Blocks are allowed if `block`, and a sequence without marks if `bare`. -/
def node (block bare : Bool) : (fuel : Nat) → Load Node
  | 0 => failure
  | fuel + 1 => do
    match ← peek with
    | .alias name =>
      skip
      match (← get).anchors.find? (·.1 = name) with
      | some (_, number) => return .alias number
      | none => failure
    | _ =>
      let p ← properties
      match ← peek, block with
      | .item, _ =>
        if bare then anchoring p (bareItems [] fuel)
        else if p = {} then failure
        else anchoring p (return .scalar ⟨[], .plain, p.tag⟩)
      | .scalar t style, _ => skip; anchoring p (return .scalar ⟨t, style, scalarTag p⟩)
      | .flowSequence, _ => skip; anchoring p (flowItems [] fuel)
      | .flowMapping, _ => skip; anchoring p (flowEntries [] fuel)
      | .blockSequence, true => skip; anchoring p (blockItems [] fuel)
      | .blockMapping, true => skip; anchoring p (blockEntries [] fuel)
      | _, _ =>
        if p = {} then failure else anchoring p (return .scalar ⟨[], .plain, p.tag⟩)

/-- A node, or an empty scalar in front of a token that `ends` accepts. -/
def nodeUnless (ends : Token → Bool) (block bare : Bool) : (fuel : Nat) → Load Node
  | 0 => failure
  | fuel + 1 => do if ends (← peek) then return .empty else node block bare fuel

/-- The rest of a block sequence, given the items before, the latest first. -/
def blockItems (items : List Node) : (fuel : Nat) → Load Node
  | 0 => failure
  | fuel + 1 => do
    match ← peek with
    | .item =>
      skip
      let n ← nodeUnless (fun k ↦ k = .item || k = .blockEnd) true false fuel
      blockItems (n :: items) fuel
    | .blockEnd => skip; return .sequence items.reverse
    | _ => failure

/-- The rest of a sequence whose hyphens stand at the column of the keys around it. -/
def bareItems (items : List Node) : (fuel : Nat) → Load Node
  | 0 => failure
  | fuel + 1 => do
    match ← peek with
    | .item =>
      skip
      let n ← nodeUnless endsPlainItem true false fuel
      bareItems (n :: items) fuel
    | _ => return .sequence items.reverse

/-- The rest of a block mapping. -/
def blockEntries (entries : List (Node × Node)) : (fuel : Nat) → Load Node
  | 0 => failure
  | fuel + 1 => do
    match ← peek with
    | .key =>
      skip
      let k ← nodeUnless endsBlockEntry true true fuel
      let v ← blockValue fuel
      blockEntries ((k, v) :: entries) fuel
    | .blockEnd => skip; return .mapping entries.reverse
    | _ => failure

/-- The value of an entry of a block mapping. -/
def blockValue : (fuel : Nat) → Load Node
  | 0 => failure
  | fuel + 1 => do
    if (← peek) = .value then
      skip
      nodeUnless endsBlockEntry true true fuel
    else return .empty

/-- The rest of a sequence on one line. -/
def flowItems (items : List Node) : (fuel : Nat) → Load Node
  | 0 => failure
  | fuel + 1 => do
    if (← peek) = .flowSequenceEnd then
      skip
      return .sequence items.reverse
    if items ≠ [] then expect .comma
    match ← peek with
    | .flowSequenceEnd => skip; return .sequence items.reverse
    | .key =>
      skip
      let n ← pair fuel
      flowItems (n :: items) fuel
    | _ =>
      let n ← node false false fuel
      flowItems (n :: items) fuel

/-- A mapping of one entry inside a sequence on one line. An empty key takes the token behind it
with it. -/
def pair : (fuel : Nat) → Load Node
  | 0 => failure
  | fuel + 1 => do
    let k ← if endsPairKey (← peek) then (do skip; return .empty) else node false false fuel
    let v ←
      if (← peek) = .value then (do
        skip
        nodeUnless (fun k ↦ k = .comma || k = .flowSequenceEnd) false false fuel)
      else return .empty
    return .mapping [(k, v)]

/-- The rest of a mapping on one line. -/
def flowEntries (entries : List (Node × Node)) : (fuel : Nat) → Load Node
  | 0 => failure
  | fuel + 1 => do
    if (← peek) = .flowMappingEnd then
      skip
      return .mapping entries.reverse
    if entries ≠ [] then expect .comma
    match ← peek with
    | .flowMappingEnd => skip; return .mapping entries.reverse
    | .key =>
      skip
      let k ← nodeUnless endsFlowEntry false false fuel
      let v ←
        if (← peek) = .value then (do
          skip
          nodeUnless (fun k ↦ k = .comma || k = .flowMappingEnd) false false fuel)
        else return .empty
      flowEntries ((k, v) :: entries) fuel
    | _ =>
      let k ← node false false fuel
      flowEntries ((k, .empty) :: entries) fuel

end

/-! ## The document -/

/-- The handles of tags that every document has. -/
def commonHandles : List (Text × Text) := [("!", "!"), ("!!", "tag:yaml.org,2002:")]

/-- Takes the directives before a document: at most one version, which must be 1.1 or 1.2, and at
most one meaning for a handle. -/
def directives : (fuel : Nat) → (versioned : Bool) → Load Unit
  | 0, _ => failure
  | fuel + 1, versioned => do
    match ← peek with
    | .version major minor =>
      if versioned ∨ major ≠ 1 ∨ (minor ≠ 1 ∧ minor ≠ 2) then failure
      skip
      directives fuel true
    | .handle name expansion =>
      if (← get).handles.any (·.1 = name) then failure
      skip
      modify fun l ↦ { l with handles := l.handles ++ [(name, expansion)] }
      directives fuel versioned
    | _ => return ()

/-- Whether a token ends an explicit document that is empty. -/
def endsDocument : Token → Bool
  | .version .. | .handle .. | .documentStart | .documentEnd | .streamEnd => true
  | _ => false

/-- Takes the marks of the document's end, after which there must be nothing. -/
def documentEnds : (fuel : Nat) → Load Unit
  | 0 => failure
  | fuel + 1 => do
    match ← peek with
    | .documentEnd => skip; documentEnds fuel
    | .streamEnd => return ()
    | _ => failure

/-- The root of the only document, or nothing if there is none. -/
def root : Load (Option Node) := do
  let fuel := 4 * (← get).tokens.length + 4
  match ← peek with
  | .streamEnd => return none
  | .version .. | .handle .. | .documentStart =>
    directives fuel false
    modify fun l ↦ { l with
      handles := l.handles ++ commonHandles.filter fun (h, _) ↦ !l.handles.any (·.1 = h) }
    expect .documentStart
    let n ← nodeUnless endsDocument true false fuel
    documentEnds fuel
    return some n
  | _ =>
    modify fun l ↦ { l with handles := commonHandles }
    let n ← node true false fuel
    documentEnds fuel
    return some n

end Load

/-- The document of a text. A text without any document has an empty one. -/
def parse? (t : Text) : Option Document := do
  let (n, l) ← Load.root { tokens := ← tokens? t }
  some ⟨n.getD .empty, l.anchored⟩

end PacketFilter.Yaml
