/-! Starts, ends and padding of texts. -/

namespace CodeWindow.Text

/-- What follows `start` in a text that begins with it. -/
def afterStart? (start text : String) : Option String :=
  (start.toList.isPrefixOf? text.toList).map String.ofList

/-- What precedes `tail` in a text that ends with it. -/
def beforeEnd? (tail text : String) : Option String :=
  (tail.toList.reverse.isPrefixOf? text.toList.reverse).map fun rest => String.ofList rest.reverse

/-- So many spaces. -/
def spaces (count : Nat) : String := String.ofList (List.replicate count ' ')

/-- A text filled up with spaces to a width. -/
def padEnd (width : Nat) (text : String) : String := text ++ spaces (width - text.length)

end CodeWindow.Text
