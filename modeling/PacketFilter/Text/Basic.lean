/-!
# Texts

Everything this library reads or writes is a list of characters. Rule files, log lines and
commands are short, and on lists the scanners below are structural recursions, so that what they
accept can be proved by induction on the text itself.

A string literal is coerced to a text, which keeps the wording of commands and messages readable
where they are built.

Order between texts is by code point, which is the order of their UTF-8 encodings; directory
entries, services and settings are listed in it.
-/

namespace PacketFilter

/-- A text is the list of its characters. -/
abbrev Text := List Char

namespace Text

instance : Coe String Text := ⟨String.toList⟩

/-! ## Cutting -/

/-- The text before and after the first `sep`. -/
def cut? (sep : Char) : Text → Option (Text × Text)
  | [] => none
  | c :: cs => if c = sep then some ([], cs) else (cut? sep cs).map fun (a, b) ↦ (c :: a, b)

/-- The text up to the first `sep`, all of it if there is none. -/
def before (sep : Char) (t : Text) : Text := t.takeWhile (· ≠ sep)

/-- The pieces between the characters `p` accepts. There is always one piece more than there are
such characters. -/
def splitBy (p : Char → Bool) : Text → List Text
  | [] => [[]]
  | c :: cs =>
    if p c then [] :: splitBy p cs
    else match splitBy p cs with
      | [] => [[c]]
      | piece :: rest => (c :: piece) :: rest

/-- What follows `opening`, if the text starts with it. -/
def after? : (opening : Text) → Text → Option Text
  | [], t => some t
  | _ :: _, [] => none
  | o :: os, c :: cs => if o = c then after? os cs else none

/-- What stands before `ending`, if the text ends with it. -/
def beforeEnd? (ending t : Text) : Option Text :=
  (after? ending.reverse t.reverse).map List.reverse

def startsWith (t opening : Text) : Bool := (after? opening t).isSome

def endsWith (t ending : Text) : Bool := (beforeEnd? ending t).isSome

/-- Whether `part` occurs in the text. -/
def holds (part : Text) : Text → Bool
  | [] => part.isEmpty
  | c :: cs => startsWith (c :: cs) part || holds part cs

/-- Every occurrence of `old`, from the left and without overlap, becomes `new`. The pieces are
counted off by `fuel`, which the text's length bounds. -/
def replaceUpTo (old new : Text) : (fuel : Nat) → Text → Text
  | 0, t => t
  | _, [] => []
  | fuel + 1, c :: cs =>
    match after? old (c :: cs) with
    | some rest => new ++ replaceUpTo old new fuel rest
    | none => c :: replaceUpTo old new fuel cs

def replace (old new t : Text) : Text := replaceUpTo old new t.length t

/-- The pieces with `sep` between neighbours. -/
def joinWith (sep : Text) : List Text → Text
  | [] => []
  | [t] => t
  | t :: u :: rest => t ++ sep ++ joinWith sep (u :: rest)

/-! ## Letters and digits of ASCII -/

/-- The decimal digits `0` to `9`. -/
def isDigit (c : Char) : Bool := '0' ≤ c && c ≤ '9'

/-- The letters `A` to `Z`. -/
def isUpper (c : Char) : Bool := 'A' ≤ c && c ≤ 'Z'

/-- The letters `a` to `z`. -/
def isLower (c : Char) : Bool := 'a' ≤ c && c ≤ 'z'

/-- ASCII letters of either case. -/
def isLetter (c : Char) : Bool := isUpper c || isLower c

/-- ASCII letters and digits. -/
def isAlphanumeric (c : Char) : Bool := isLetter c || isDigit c

/-- The lower-case form of an ASCII letter; every other character is left as it is. -/
def lowerChar (c : Char) : Char := if isUpper c then Char.ofNat (c.toNat + 32) else c

/-- ASCII letters in lower case. Names that differ in this form only are one name. -/
def lower (t : Text) : Text := t.map lowerChar

/-! ## Numerals -/

/-- The value of a digit in bases up to sixteen; letters count in either case. -/
def digitValue? (base : Nat) (c : Char) : Option Nat :=
  let value :=
    if isDigit c then some (c.toNat - 48)
    else if 'a' ≤ c && c ≤ 'f' then some (c.toNat - 87)
    else if 'A' ≤ c && c ≤ 'F' then some (c.toNat - 55)
    else none
  value.filter (· < base)

/-- The number a run of digits denotes, most significant digit first. -/
def digitsValue (base : Nat) (t : Text) : Nat :=
  t.foldl (fun n c ↦ n * base + (digitValue? base c).getD 0) 0

/-- A nonempty run of digits and nothing else. Leading zeros are allowed. -/
def number? (base : Nat) (t : Text) : Option Nat :=
  if t ≠ [] ∧ t.all (fun c ↦ (digitValue? base c).isSome) then some (digitsValue base t)
  else none

/-- A numeral below `bound`. -/
def numberBelow? (bound : Nat) (t : Text) : Option Nat := (number? 10 t).filter (· < bound)

def decimal (n : Nat) : Text := Nat.toDigits 10 n

/-- The hexadecimal numeral of a number, in lower case. -/
def hex (n : Nat) : Text := Nat.toDigits 16 n

/-- The numeral filled up on the left to `width` digits. -/
def padZero (width : Nat) (t : Text) : Text := List.replicate (width - t.length) '0' ++ t

/-- The text filled up on the right with blanks to `width` characters. -/
def padRight (width : Nat) (t : Text) : Text := t ++ List.replicate (width - t.length) ' '

/-! ## Order -/

/-- Order by code point, a proper beginning first. -/
def compare : Text → Text → Ordering
  | [], [] => .eq
  | [], _ :: _ => .lt
  | _ :: _, [] => .gt
  | a :: as, b :: bs => (Ord.compare a.toNat b.toNat).then (compare as bs)

/-- Whether the first text does not come after the second. -/
def le (a b : Text) : Bool := (compare a b).isLE

/-- The texts in order, each as often as it was given. -/
def sort (ts : List Text) : List Text := ts.mergeSort le

end Text
end PacketFilter
