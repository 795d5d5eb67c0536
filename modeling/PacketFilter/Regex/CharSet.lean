import PacketFilter.Text.Blank
import PacketFilter.Text.Fold
import PacketFilter.Text.Property
import PacketFilter.Text.Script
import PacketFilter.Text.Utf8

/-!
# Classes of characters

A class in a pattern is built from characters, spans and named properties by union, intersection
and complement, and may be closed under case. Classes are kept as such expressions and asked for
membership; they are never flattened, so a complement costs nothing and a class stays readable.

Properties are named as Unicode names them. Letters of either case, blanks, hyphens and
underscores make no difference in a name, and neither does `is` in front. The general categories
and the scripts are all known, and of the binary properties those that `ofBinary?` lists. The other
binary properties, the age of characters and the properties that break text into graphemes, words
and sentences are left out: a pattern that names one of them is refused.
-/

namespace PacketFilter.Regex

inductive CharSet where
  | spans (s : Spans)
  | word
  | digit
  | blank
  | category (cs : List Text.Category)
  | union (a b : CharSet)
  | inter (a b : CharSet)
  | compl (a : CharSet)
  /-- The characters equal to a member up to case. -/
  | folded (a : CharSet)
  deriving DecidableEq, Repr

namespace CharSet

def contains : CharSet → Char → Bool
  | spans s, c => s.contains c
  | word, c => Text.isWord c
  | digit, c => Text.isDecimal c
  | blank, c => Text.isBlank c
  | category cs, c => Text.Category.anyContains cs c
  | union a b, c => a.contains c || b.contains c
  | inter a b, c => a.contains c && b.contains c
  | compl a, c => !a.contains c
  | folded a, c => (Text.caseVariants c).any a.contains

def empty : CharSet := spans []

def any : CharSet := compl empty

def one (c : Char) : CharSet := spans [(c.toNat, c.toNat)]

/-- The characters from `a` to `b`. -/
def span (a b : Char) : CharSet := spans [(a.toNat, b.toNat)]

/-- The characters of `a` that are not in `b`. -/
def diff (a b : CharSet) : CharSet := inter a (compl b)

/-- The characters of exactly one of the two classes. -/
def symmDiff (a b : CharSet) : CharSet := inter (union a b) (compl (inter a b))

/-- The class itself or its complement. -/
def negateIf (negated : Bool) (a : CharSet) : CharSet := if negated then compl a else a

/-- The class itself or its closure under case. -/
def foldIf (ignoreCase : Bool) (a : CharSet) : CharSet := if ignoreCase then folded a else a

def asciiWord : CharSet := spans [(48, 57), (65, 90), (95, 95), (97, 122)]

def asciiDigit : CharSet := spans [(48, 57)]

def asciiBlank : CharSet := spans [(9, 13), (32, 32)]

/-- The classes that patterns name between `[:` and `:]`. -/
def ofAsciiName? (name : Text) : Option CharSet :=
  (table.find? fun (n, _) ↦ n.toList = name).map fun (_, s) ↦ spans s
where
  table : List (String × Spans) :=
    [("alnum", [(48, 57), (65, 90), (97, 122)]), ("alpha", [(65, 90), (97, 122)]),
      ("ascii", [(0, 127)]), ("blank", [(9, 9), (32, 32)]), ("cntrl", [(0, 31), (127, 127)]),
      ("digit", [(48, 57)]), ("graph", [(33, 126)]), ("lower", [(97, 122)]),
      ("print", [(32, 126)]), ("punct", [(33, 47), (58, 64), (91, 96), (123, 126)]),
      ("space", [(9, 13), (32, 32)]), ("upper", [(65, 90)]),
      ("word", [(48, 57), (65, 90), (95, 95), (97, 122)]),
      ("xdigit", [(48, 57), (65, 70), (97, 102)])]

/-! ## Named properties -/

/-- A name without what makes no difference in it. The name of ISO_Comment keeps its `is`, since
`c` names a category. -/
def plainName (name : Text) : Text :=
  match Text.after? "is" (Text.lower name) with
  | some rest => if letters rest = ['c'] then "isc" else letters rest
  | none => letters (Text.lower name)
where
  letters (t : Text) : Text := t.filter fun c ↦ c.toNat < 128 && c != ' ' && c != '_' && c != '-'

def categories? (name : Text) : Option (List Text.Category) :=
  (entries.find? fun e ↦ name = e.1.toList || name = e.2.1.toList).map fun e ↦ e.2.2
where
  entries : List (String × String × List Text.Category) :=
    singles.map (fun e ↦ (e.1, e.2.1, [e.2.2])) ++ groups
  singles : List (String × String × Text.Category) :=
    [("lu", "uppercaseletter", .uppercaseLetter), ("ll", "lowercaseletter", .lowercaseLetter),
      ("lt", "titlecaseletter", .titlecaseLetter), ("lm", "modifierletter", .modifierLetter),
      ("lo", "otherletter", .otherLetter), ("mn", "nonspacingmark", .nonspacingMark),
      ("mc", "spacingmark", .spacingMark), ("me", "enclosingmark", .enclosingMark),
      ("nd", "decimalnumber", .decimalNumber), ("nl", "letternumber", .letterNumber),
      ("no", "othernumber", .otherNumber),
      ("pc", "connectorpunctuation", .connectorPunctuation),
      ("pd", "dashpunctuation", .dashPunctuation), ("ps", "openpunctuation", .openPunctuation),
      ("pe", "closepunctuation", .closePunctuation),
      ("pi", "initialpunctuation", .initialPunctuation),
      ("pf", "finalpunctuation", .finalPunctuation),
      ("po", "otherpunctuation", .otherPunctuation), ("sm", "mathsymbol", .mathSymbol),
      ("sc", "currencysymbol", .currencySymbol), ("sk", "modifiersymbol", .modifierSymbol),
      ("so", "othersymbol", .otherSymbol), ("zs", "spaceseparator", .spaceSeparator),
      ("zl", "lineseparator", .lineSeparator), ("zp", "paragraphseparator", .paragraphSeparator),
      ("cc", "control", .control), ("cf", "format", .format), ("co", "privateuse", .privateUse),
      ("digit", "digit", .decimalNumber), ("cntrl", "cntrl", .control)]
  groups : List (String × String × List Text.Category) :=
    [("l", "letter", Text.Category.letters), ("lc", "casedletter", Text.Category.casedLetters),
      ("m", "mark", Text.Category.marks), ("combiningmark", "mark", Text.Category.marks),
      ("n", "number", Text.Category.numbers), ("p", "punctuation", Text.Category.punctuation),
      ("punct", "punctuation", Text.Category.punctuation), ("s", "symbol", Text.Category.symbols),
      ("z", "separator", Text.Category.separators)]

def assigned : CharSet :=
  category (Text.Category.letters ++ Text.Category.marks ++ Text.Category.numbers ++
    Text.Category.punctuation ++ Text.Category.symbols ++ Text.Category.separators ++
    Text.Category.others)

/-- The class of a general category's plain name. -/
def ofCategory? (name : Text) : Option CharSet :=
  if name = "any" then some any
  else if name = "ascii" then some (spans [(0, 127)])
  else if name = "assigned" then some assigned
  else if name = "cn" ∨ name = "unassigned" then some (compl assigned)
  else if name = "c" ∨ name = "other" then
    some (union (category Text.Category.others) (compl assigned))
  else (categories? name).map category

def script? (name : Text) : Option Text.Script :=
  Text.Script.all.find? fun s ↦ s.names.any fun n ↦ plainName n = name

/-- The class of a script's plain name. -/
def ofScript? (name : Text) : Option CharSet := (script? name).map fun s ↦ spans s.spans

/-- The characters that the script of a plain name uses. -/
def ofScriptExtensions? (name : Text) : Option CharSet :=
  (script? name).map fun s ↦
    let used := Text.Script.shared.filter fun (_, names) ↦ names.any s.names.contains
    union (diff (spans s.spans) (spans (Text.Script.shared.map Prod.fst)))
      (spans (used.map Prod.fst))

/-- The class of a binary property's plain name. -/
def ofBinary? (name : Text) : Option CharSet :=
  if name = "alphabetic" ∨ name = "alpha" then some (spans Text.alphabeticSpans)
  else if name = "whitespace" ∨ name = "wspace" ∨ name = "space" then some blank
  else if name = "lowercase" ∨ name = "lower" then some (spans Text.lowercaseSpans)
  else if name = "uppercase" ∨ name = "upper" then some (spans Text.uppercaseSpans)
  else if name = "graphemeextend" ∨ name = "grext" then some (spans Text.graphemeExtendSpans)
  else if name = "joincontrol" ∨ name = "joinc" then some (spans [(0x200C, 0x200D)])
  else none

/-- The class of a property, category or script. -/
def ofName? (name : Text) : Option CharSet :=
  let n := plainName name
  (ofBinary? n).or ((ofCategory? n).or (ofScript? n))

/-- The class of a value of the property General_Category, Script or Script_Extensions. -/
def ofValue? (property value : Text) : Option CharSet :=
  let p := plainName property
  if p = "gc" ∨ p = "generalcategory" then ofCategory? (plainName value)
  else if p = "sc" ∨ p = "script" then ofScript? (plainName value)
  else if p = "scx" ∨ p = "scriptextensions" then ofScriptExtensions? (plainName value)
  else none

/-! ## Size

A matcher reads bytes and has states for them. For a single character it needs one for each byte of
its UTF-8 form, and this number is exact. For several characters it depends on which bytes they
share: for characters and spans of ASCII put together the number is a bound, and for all other
classes it is an estimate.
-/

/-- How many states a matcher needs for a character of the class. -/
def weight : CharSet → Nat
  | spans [(lo, hi)] => if lo = hi then Utf8.size [Char.ofNat lo] else 4
  | spans s => 2 * s.length + 2
  | word => 1540
  | digit => 130
  | blank => 16
  | category cs => 2 * (cs.flatMap Text.Category.spans).length
  | union a b => a.weight + b.weight + 2
  | inter a b => a.weight + b.weight
  | compl a => a.weight + 8
  | folded a => 2 * a.weight

end CharSet
end PacketFilter.Regex
