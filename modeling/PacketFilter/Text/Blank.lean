import PacketFilter.Text.Basic

/-!
# Blanks, words and trimming

A blank is a character with the Unicode property White_Space. Trimming, splitting into words and
the blanks of a pattern or of a services line all use this one set, so that what counts as
surrounding space in a rule's name is the same everywhere.
-/

namespace PacketFilter.Text

/-- The property White_Space. -/
def isBlank (c : Char) : Bool :=
  let n := c.toNat
  (9 ≤ n && n ≤ 13) || n == 0x20 || n == 0x85 || n == 0xA0 || n == 0x1680 ||
    (0x2000 ≤ n && n ≤ 0x200A) || n == 0x2028 || n == 0x2029 || n == 0x202F || n == 0x205F ||
    n == 0x3000

def trimStart (t : Text) : Text := t.dropWhile isBlank

def trimEnd (t : Text) : Text := (t.reverse.dropWhile isBlank).reverse

def trim (t : Text) : Text := trimEnd (trimStart t)

/-- The longest runs of characters that are not blank, in order. -/
def words (t : Text) : List Text := (splitBy isBlank t).filter (· ≠ [])

/-- Every run of blanks becomes one space and the ends are trimmed. -/
def squeeze (t : Text) : Text := joinWith " " (words t)

end PacketFilter.Text
