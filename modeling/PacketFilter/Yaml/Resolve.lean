import PacketFilter.Bits
import PacketFilter.Text.Basic

/-!
# What a plain scalar means

A plain scalar may be read as null, as a truth value or as a number. Settings are read by what they
are wanted for, so reading needs only null and whole numbers. Writing needs all of them: a text
that looks like anything else has to be quoted.

Digits after a leading zero are a text, neither an octal nor a decimal number.
-/

namespace PacketFilter.Yaml

/-- The words for null. -/
def isNull (t : Text) : Bool :=
  (["null", "Null", "NULL", "~"] : List Text).contains t

/-- The words for truth values. -/
def isTruth (t : Text) : Bool :=
  (["true", "True", "TRUE", "false", "False", "FALSE"] : List Text).contains t

/-- The text without a leading plus sign. -/
def dropPlus : Text → Text
  | '+' :: t => t
  | t => t

def startsSigned (t : Text) : Bool := t.head?.any fun c ↦ c == '+' || c == '-'

/-- Whether a text is digits after a leading zero, with or without a sign. -/
def isZeroPadded (t : Text) : Bool :=
  match if startsSigned t then t.tail else t with
  | '0' :: d :: rest => (d :: rest).all Text.isDigit
  | _ => false

/-! ## Whole numbers -/

/-- The number of digits in one of the bases that a letter behind a zero names. -/
def based? : Text → Option Nat
  | '0' :: 'x' :: t => Text.number? 16 t
  | '0' :: 'o' :: t => Text.number? 8 t
  | '0' :: 'b' :: t => Text.number? 2 t
  | _ => none

/-- A number without a sign, below `bound`. -/
def magnitude? (bound : Nat) (t : Text) : Option Nat :=
  ((based? t).or (Text.number? 10 t)).filter (· < bound)

/-- A whole number from zero on, below `bound`. -/
def natural? (bound : Nat) (t : Text) : Option Nat :=
  if isZeroPadded t then none else magnitude? bound (dropPlus t)

/-- Whether a text is a whole number of 128 bits. -/
def isWhole (t : Text) : Bool :=
  match t with
  | '-' :: t => !isZeroPadded t && (magnitude? (Bits.values 127 + 1) t).isSome
  | t => (natural? (Bits.values 128) t).isSome

/-! ## Numbers with a fraction or an exponent -/

/-- The exponent that ends a decimal number, zero if there is none. -/
def exponent? : Text → Option Int
  | [] => some 0
  | c :: t =>
    if c = 'e' ∨ c = 'E' then
      match t with
      | '-' :: t => (Text.number? 10 t).map fun n ↦ -(n : Int)
      | '+' :: t => (Text.number? 10 t).map Int.ofNat
      | t => (Text.number? 10 t).map Int.ofNat
    else none

/-- The digits and the exponent of a decimal number without a sign. -/
def decimal? (t : Text) : Option (Text × Int) :=
  let whole := t.takeWhile Text.isDigit
  match t.drop whole.length with
  | '.' :: rest => do
    let fraction := rest.takeWhile Text.isDigit
    let e ← exponent? (rest.drop fraction.length)
    if whole = [] ∧ fraction = [] then none else some (whole ++ fraction, e - fraction.length)
  | rest => do
    let e ← exponent? rest
    if whole = [] then none else some (whole, e)

/-- The least number that is too large for a number of 64 bits with a fraction. -/
def floatBound : Nat := Bits.values 1024 - Bits.values 970

/-- Whether digits with an exponent make a number that is not too large. Exponents so far from zero
that the digits cannot make up for it are decided without computing the number. -/
def isFinite (digits : Text) (e : Int) : Bool :=
  let n := Text.digitsValue 10 digits
  if n = 0 then true
  else if 400 < e then false
  else if 0 ≤ e then n * Nat.pow 10 e.toNat < floatBound
  else if (digits.length : Int) + e < 300 then true
  else n < floatBound * Nat.pow 10 (-e).toNat

/-- Whether a text is a number that may have a fraction or an exponent. -/
def isDecimalNumber (t : Text) : Bool :=
  let unsigned := if startsSigned t then t.tail else t
  match decimal? unsigned with
  | some (digits, e) => isFinite digits e
  | none => false

/-- The words for infinite and undefined numbers. -/
def isSpecialNumber (t : Text) : Bool :=
  let infinity : List Text := [".inf", ".Inf", ".INF"]
  infinity.contains (dropPlus t) || (t.head? == some '-' && infinity.contains t.tail) ||
    ([".nan", ".NaN", ".NAN"] : List Text).contains t

/-- Whether a plain scalar of this text would not be read as a text, or is digits that another
reader could take for a number. -/
def isAmbiguous (t : Text) : Bool :=
  t = [] || isNull t || isTruth t || isZeroPadded t || isWhole t || isSpecialNumber t ||
    isDecimalNumber t

end PacketFilter.Yaml
