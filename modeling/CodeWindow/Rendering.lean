import CodeWindow.Error
import CodeWindow.Text.LetterCase

/-! The text of addresses, operand values and flags. Small addresses are shown in decimal and all
others in hexadecimal; an address inside a symbol is shown by, or with, the symbol. -/

namespace CodeWindow.Rendering

/-- An address: in decimal up to 255, in hexadecimal above. -/
def plainAddress (address : UInt64) : String :=
  if address > 255 then hexAddress address else Text.decimal address.toNat

/-- An address by its symbol, where it has one. -/
def addressOrSymbol (symbolAt : UInt64 → Option String) (address : UInt64) : String :=
  match symbolAt address with
  | some name => name
  | none => plainAddress address

/-- An address with its symbol in parentheses, where it has one. -/
def addressAndSymbol (symbolAt : UInt64 → Option String) (address : UInt64) : String :=
  match symbolAt address with
  | some name => hexAddress address ++ " (" ++ name ++ ")"
  | none => plainAddress address

/-- An immediate value: in decimal below 16 in size, in hexadecimal from there on, after its
sign. -/
def immediate (value : Int64) : String :=
  let size := value.toInt.natAbs
  if size < 0x10 then Text.signedDecimal value.toInt
  else if value < 0 then "-" ++ Text.hex size
  else Text.hex size

/-- Two numbers side by side: in decimal when both have one digit, both in hexadecimal
otherwise. -/
def numberPair (first second : UInt64) : String × String :=
  if first < 10 && second < 10 then (Text.decimal first.toNat, Text.decimal second.toNat)
  else (hexAddress first, hexAddress second)

/-- The flags of a status word between brackets: set flags in upper case, clear ones in lower
case. -/
def flags (value : UInt64) (bits : List (String × Nat)) : String :=
  let names := bits.map fun (name, bit) =>
    if value &&& (1 <<< UInt64.ofNat bit) ≠ 0 then Text.upper name else Text.lower name
  "[ " ++ " ".intercalate names ++ " ]"

end CodeWindow.Rendering
