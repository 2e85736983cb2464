import CodeWindow.Json
import CodeWindow.Text.Numeral

/-! The tokens of JSON text. A scanner reads one character at a time; between characters it stands
between tokens or inside a word, a number or a string, so scanning a text is a fold over its
characters. Whether the tokens stand in a sensible order is the business of the grammar. -/

namespace CodeWindow.Json

/-- A token: a mark of structure, or a value that is not built from others. -/
inductive Token where
  | openBrace
  | closeBrace
  | openBracket
  | closeBracket
  | colon
  | comma
  | scalar (value : Json)

/-- The part of a number that was read last. -/
inductive NumberPart where
  | sign
  | zero
  | integer
  | point
  | fraction
  | exponentMark
  | exponentSign
  | exponent
  deriving DecidableEq

/-- A number may end after these parts. -/
def NumberPart.complete : NumberPart → Bool
  | zero | integer | fraction | exponent => true
  | _ => false

/-- The part that a character continues a number with, if it does. -/
def NumberPart.next? (part : NumberPart) (c : Char) : Option NumberPart :=
  match part with
  | sign => if c == '0' then some zero else if c.isDigit then some integer else none
  | zero =>
    if c == '.' then some point else if c == 'e' || c == 'E' then some exponentMark else none
  | integer =>
    if c.isDigit then some integer else if c == '.' then some point
    else if c == 'e' || c == 'E' then some exponentMark else none
  | point => if c.isDigit then some fraction else none
  | fraction =>
    if c.isDigit then some fraction
    else if c == 'e' || c == 'E' then some exponentMark else none
  | exponentMark =>
    if c == '+' || c == '-' then some exponentSign else if c.isDigit then some exponent else none
  | exponentSign => if c.isDigit then some exponent else none
  | exponent => if c.isDigit then some exponent else none

/-- The text of a string under way: its characters, latest first, whether they are all of it, and
the first half of a surrogate pair that waits for the second. -/
structure StringPart where
  chars : List Char := []
  whole : Bool := true
  half : Option Nat := none

namespace StringPart

/-- Adds a character that stands for itself. -/
def push (part : StringPart) (c : Char) : StringPart :=
  { chars := c :: part.chars, whole := part.whole && part.half.isNone }

/-- Adds the 16-bit unit of an escape. -/
def pushUnit (part : StringPart) (unit : Nat) : StringPart :=
  let low := 0xDC00 ≤ unit && unit ≤ 0xDFFF
  let high := 0xD800 ≤ unit && unit ≤ 0xDBFF
  match part.half with
  | some first =>
    if low then
      { chars := Char.ofNat (0x10000 + (first - 0xD800) * 0x400 + (unit - 0xDC00)) :: part.chars,
        whole := part.whole }
    else { chars := part.chars, whole := false }
  | none =>
    if high then { part with half := some unit }
    else if low then { part with whole := false }
    else { part with chars := Char.ofNat unit :: part.chars }

/-- The text of a finished string, if it has one. -/
def text? (part : StringPart) : Option String :=
  if part.whole && part.half.isNone then some (String.ofList part.chars.reverse) else none

end StringPart

/-- Where a scanner stands between two characters. -/
inductive ScanState where
  | between
  /-- Inside a word, before the letters that must still follow. -/
  | word (owed : List Char) (value : Json)
  /-- Inside a number; its value is kept while it is a natural number. -/
  | number (part : NumberPart) (natural : Option Nat)
  | string (part : StringPart)
  /-- After a backslash in a string. -/
  | escape (part : StringPart)
  /-- Inside a four-digit escape. -/
  | hexEscape (part : StringPart) (owed unit : Nat)

/-- A scanner: the tokens read, latest first, and where it stands. -/
structure Scanner where
  tokens : List Token := []
  state : ScanState := .between

namespace Scanner

/-- Adds a token and stands between tokens. -/
def emit (tokens : List Token) (token : Token) : Option Scanner :=
  some { tokens := token :: tokens }

/-- Reads a character between tokens. -/
def start (tokens : List Token) (c : Char) : Option Scanner :=
  if c == ' ' || c == '\t' || c == '\n' || c == '\r' then some { tokens }
  else if c == '\x7b' then emit tokens .openBrace
  else if c == '\x7d' then emit tokens .closeBrace
  else if c == '[' then emit tokens .openBracket
  else if c == ']' then emit tokens .closeBracket
  else if c == ':' then emit tokens .colon
  else if c == ',' then emit tokens .comma
  else if c == '\x22' then some { tokens, state := .string {} }
  else if c == 't' then some { tokens, state := .word ['r', 'u', 'e'] (.bool true) }
  else if c == 'f' then some { tokens, state := .word ['a', 'l', 's', 'e'] (.bool false) }
  else if c == 'n' then some { tokens, state := .word ['u', 'l', 'l'] .null }
  else if c == '-' then some { tokens, state := .number .sign none }
  else if c == '0' then some { tokens, state := .number .zero (some 0) }
  else if c.isDigit then some { tokens, state := .number .integer (Text.digit? 10 c) }
  else none

/-- The value of a number after one more character of it. -/
def extendNatural (part : NumberPart) (natural : Option Nat) (c : Char) : Option Nat :=
  match part, natural, Text.digit? 10 c with
  | .integer, some n, some d => some (n * 10 + d)
  | _, _, _ => none

/-- Reads the character after a backslash. -/
def escaped (part : StringPart) (c : Char) : Option ScanState :=
  if c == '\x22' || c == '\x5c' || c == '/' then some (.string (part.push c))
  else if c == 'b' then some (.string (part.push '\x08'))
  else if c == 'f' then some (.string (part.push '\x0c'))
  else if c == 'n' then some (.string (part.push '\n'))
  else if c == 'r' then some (.string (part.push '\r'))
  else if c == 't' then some (.string (part.push '\t'))
  else if c == 'u' then some (.hexEscape part 4 0)
  else none

/-- Reads one character. -/
def step (scanner : Scanner) (c : Char) : Option Scanner :=
  match scanner.state with
  | .between => start scanner.tokens c
  | .word owed value =>
    match owed with
    | [] => start (.scalar value :: scanner.tokens) c
    | [letter] => if c == letter then emit scanner.tokens (.scalar value) else none
    | letter :: rest =>
      if c == letter then some { scanner with state := .word rest value } else none
  | .number part natural =>
    match part.next? c with
    | some next => some { scanner with state := .number next (extendNatural next natural c) }
    | none =>
      if part.complete then start (.scalar (.number natural) :: scanner.tokens) c else none
  | .string part =>
    if c == '\x22' then emit scanner.tokens (.scalar (.string part.text?))
    else if c == '\x5c' then some { scanner with state := .escape part }
    else if c.toNat < 0x20 then none
    else some { scanner with state := .string (part.push c) }
  | .escape part => (escaped part c).map fun state => { scanner with state }
  | .hexEscape part owed unit =>
    match Text.digit? 16 c with
    | none => none
    | some d =>
      let value := unit * 16 + d
      if owed ≤ 1 then some { scanner with state := .string (part.pushUnit value) }
      else some { scanner with state := .hexEscape part (owed - 1) value }

/-- The tokens once the text ends; a word or a string that is cut short is none. -/
def finish (scanner : Scanner) : Option (List Token) :=
  match scanner.state with
  | .between => some scanner.tokens.reverse
  | .number part natural =>
    if part.complete then some (.scalar (.number natural) :: scanner.tokens).reverse else none
  | _ => none

end Scanner

/-- The tokens of a text. -/
def tokens? (text : List Char) : Option (List Token) :=
  match text.foldlM Scanner.step ({} : Scanner) with
  | some scanner => scanner.finish
  | none => none

end CodeWindow.Json
