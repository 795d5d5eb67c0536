import PacketFilter.Text.Basic

/-!
# UTF-8

Files hold bytes. Rule files, templates, patterns and settings have to be UTF-8 as a whole; the
strings of a login record are shown whatever they hold, with U+FFFD in place of each piece that is
no character. Both readings go through `runs`, which splits any bytes into characters and
ill-formed pieces, so they cannot disagree on what is well-formed.

An ill-formed piece is as long as it could have been the start of a character: a lead byte with
the continuation bytes that suit it.
-/

namespace PacketFilter

/-- The contents of a file. -/
abbrev Bytes := List UInt8

namespace Utf8

/-- The character of a code point given by its pieces of six bits, the lead byte's bits first. -/
private def charOf (lead : Nat) (more : List UInt8) : Char :=
  Char.ofNat (more.foldl (fun n b ↦ n * 64 + b.toNat % 64) lead)

/-- Bytes that continue a character. -/
def isContinuation (b : UInt8) : Bool := 0x80 ≤ b && b ≤ 0xBF

/-- Lead bytes of two-byte characters. `C0` and `C1` would be longer forms of ASCII. -/
def leadsTwo (a : UInt8) : Bool := 0xC2 ≤ a && a ≤ 0xDF

/-- Lead bytes of three-byte characters. -/
def leadsThree (a : UInt8) : Bool := 0xE0 ≤ a && a ≤ 0xEF

/-- The second bytes that suit the lead byte of a three- or four-byte character. They exclude
longer forms, surrogates and what lies beyond U+10FFFF. -/
def suits (a b : UInt8) : Bool :=
  if a = 0xE0 then 0xA0 ≤ b && b ≤ 0xBF
  else if a = 0xED then 0x80 ≤ b && b ≤ 0x9F
  else if a = 0xF0 then 0x90 ≤ b && b ≤ 0xBF
  else if a = 0xF4 then 0x80 ≤ b && b ≤ 0x8F
  else (0xE1 ≤ a && a ≤ 0xF3) && isContinuation b

/-- The characters of some bytes, with `none` for each ill-formed piece. -/
def runs : Bytes → List (Option Char)
  | [] => []
  | a :: as =>
    if a < 0x80 then some (Char.ofNat a.toNat) :: runs as
    else match as with
      | [] => [none]
      | b :: bs =>
        if leadsTwo a && isContinuation b then some (charOf (a.toNat % 32) [b]) :: runs bs
        else if !suits a b then none :: runs (b :: bs)
        else match bs with
          | [] => [none]
          | c :: cs =>
            if !isContinuation c then none :: runs (c :: cs)
            else if leadsThree a then some (charOf (a.toNat % 16) [b, c]) :: runs cs
            else match cs with
              | [] => [none]
              | d :: ds =>
                if isContinuation d then some (charOf (a.toNat % 8) [b, c, d]) :: runs ds
                else none :: runs (d :: ds)

/-- The text of well-formed bytes. -/
def decode? (bs : Bytes) : Option Text := (runs bs).mapM id

/-- The text of any bytes, U+FFFD standing for each ill-formed piece. -/
def decodeLossy (bs : Bytes) : Text := (runs bs).map (·.getD '\uFFFD')

def encodeChar (c : Char) : Bytes :=
  let n := c.toNat
  if n < 0x80 then [.ofNat n]
  else if n < 0x800 then [.ofNat (0xC0 + n / 64), .ofNat (0x80 + n % 64)]
  else if n < 0x10000 then
    [.ofNat (0xE0 + n / 4096), .ofNat (0x80 + n / 64 % 64), .ofNat (0x80 + n % 64)]
  else
    [.ofNat (0xF0 + n / 262144), .ofNat (0x80 + n / 4096 % 64), .ofNat (0x80 + n / 64 % 64),
      .ofNat (0x80 + n % 64)]

def encode (t : Text) : Bytes := t.flatMap encodeChar

def size (t : Text) : Nat := (encode t).length

end Utf8
end PacketFilter
