/-! Sets of code points given as tables of closed ranges. The tables for letter case and
for quoted text follow version 17 of Unicode. -/

namespace CodeWindow.Text

/-- A table of closed ranges of code points. -/
abbrev CodePointSet := Array (Nat × Nat)

/-- A character is in a table when one of its ranges holds the character's code point. -/
def CodePointSet.has (set : CodePointSet) (c : Char) : Bool :=
  set.any fun range => range.1 ≤ c.toNat && c.toNat ≤ range.2

end CodeWindow.Text
