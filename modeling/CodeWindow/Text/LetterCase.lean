import CodeWindow.Text.LetterCase.Table

/-! Upper and lower case of whole texts. A letter maps to its counterpart, or to several characters
where its case is spelled so; the capital sigma goes to its final form at the end of a word. Texts
of ASCII letters never reach the tables. -/

namespace CodeWindow.Text

namespace LetterCase

/-- The counterpart of a code point under a table of runs. -/
def counterpart (runs : Array Run) (code : Nat) : Option Char :=
  (runs.find? fun run =>
    run.first ≤ code && code ≤ run.last && (code - run.first) % run.step == 0).map fun run =>
      Char.ofNat (Int.ofNat code + run.distance).toNat

/-- The upper case of one character. -/
def upperChar (c : Char) : List Char :=
  if c.toNat < 0x80 then [c.toUpper]
  else match upperSpellings.find? fun entry => entry.1 == c.toNat with
    | some (_, spelling) => spelling.map Char.ofNat
    | none => [(counterpart upperRuns c.toNat).getD c]

/-- The lower case of one character away from the end of a word. -/
def lowerChar (c : Char) : List Char :=
  if c.toNat < 0x80 then [c.toLower]
  else if c.toNat == 0x130 then ['i', Char.ofNat 0x307]
  else [(counterpart lowerRuns c.toNat).getD c]

/-- The first character that is not passed over is a letter with case. -/
def meetsCased (text : List Char) : Bool :=
  match text.dropWhile passedOver.has with
  | c :: _ => cased.has c
  | [] => false

/-- A capital sigma ends a word when a letter with case stands before it and none after it. -/
def endsWord (before after : List Char) : Bool :=
  meetsCased before && !meetsCased after

/-- The lower case of a text, given the characters before it from right to left. -/
def lowerFrom (before : List Char) : List Char → List Char
  | [] => []
  | c :: after =>
    let here :=
      if c.toNat == 0x3A3 && endsWord before after then [Char.ofNat 0x3C2] else lowerChar c
    here ++ lowerFrom (c :: before) after

end LetterCase

/-- The text in upper case. -/
def upper (text : String) : String :=
  String.ofList (text.toList.flatMap LetterCase.upperChar)

/-- The text in lower case. -/
def lower (text : String) : String :=
  String.ofList (LetterCase.lowerFrom [] text.toList)

end CodeWindow.Text
