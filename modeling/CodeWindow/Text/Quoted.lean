import CodeWindow.Text.Numeral
import CodeWindow.Text.Printable

/-! Quoted text. An error message quotes the text it is about between double quotes, with escapes
for what cannot be seen; the preview of a string in memory escapes both kinds of quote. -/

namespace CodeWindow.Text

/-- The escape of a character by its code point in hexadecimal, between braces. -/
def codePointEscape (c : Char) : List Char :=
  '\x5c' :: 'u' :: '\x7b' :: (hexDigits c.toNat).toList ++ ['\x7d']

/-- A character between double quotes. -/
def quotedChar (c : Char) : List Char :=
  if c == '\x22' then ['\x5c', '\x22']
  else if c == '\x5c' then ['\x5c', '\x5c']
  else if c == '\n' then ['\x5c', 'n']
  else if c == '\r' then ['\x5c', 'r']
  else if c == '\t' then ['\x5c', 't']
  else if c == '\x00' then ['\x5c', '0']
  else if isPlain c then [c]
  else codePointEscape c

/-- A text between double quotes, with everything escaped that would not be seen. -/
def quoted (text : List Char) : String :=
  String.ofList ('\x22' :: text.flatMap quotedChar ++ ['\x22'])

/-- A character of a string preview: both quotes and the backslash are escaped, and so is all that
is not visible ASCII. -/
def previewChar (c : Char) : List Char :=
  if c == '\t' then ['\x5c', 't']
  else if c == '\r' then ['\x5c', 'r']
  else if c == '\n' then ['\x5c', 'n']
  else if c == '\x27' || c == '\x22' || c == '\x5c' then ['\x5c', c]
  else if 0x20 ≤ c.toNat && c.toNat ≤ 0x7E then [c]
  else codePointEscape c

/-- The text of a string preview between its quotes. -/
def preview (text : List Char) : String :=
  String.ofList (text.flatMap previewChar)

end CodeWindow.Text
