import PacketFilter.Text.Property

/-!
# Quoted texts

Messages show names and paths from files between double quotes, in a form that stays on one line
and shows every character that is there: a quote or backslash is escaped, and what cannot be seen
on its own, a control or a combining mark, is given by its code point. A message can therefore
carry any text without breaking the line it stands on.
-/

namespace PacketFilter.Text

/-- A character as it stands between the quotes. -/
def quoteChar (c : Char) : Text :=
  if c = '\x00' then "\\0"
  else if c = '\t' then "\\t"
  else if c = '\n' then "\\n"
  else if c = '\r' then "\\r"
  else if c = '"' then "\\\""
  else if c = '\\' then "\\\\"
  else if isPrintable c && !extendsGrapheme c then [c]
  else "\\u\x7b" ++ hex c.toNat ++ "\x7d"

/-- The text between double quotes, on one line. -/
def quoted (t : Text) : Text := "\"" ++ t.flatMap quoteChar ++ "\""

/-- A path between double quotes. In paths the apostrophe is escaped as well. -/
def quotedPath (t : Text) : Text :=
  "\"" ++ t.flatMap (fun c ↦ if c = '\'' then "\\'".toList else quoteChar c) ++ "\""

end PacketFilter.Text
