/-! Numerals: natural numbers written in decimal, or in hexadecimal after `0x`, and read back under
a bound. A numeral may start with a plus sign. Reading goes from left to right and stops at the
first fault, so a wrong character after an overflow is never seen. -/

namespace CodeWindow.Text

/-- The decimal numeral of a number. -/
def decimal (n : Nat) : String := String.ofList (Nat.toDigits 10 n)

/-- The hexadecimal digits of a number, lower case, without leading zeros. -/
def hexDigits (n : Nat) : String := String.ofList (Nat.toDigits 16 n)

/-- The hexadecimal numeral of a number, marked by `0x`. -/
def hex (n : Nat) : String := "0x" ++ hexDigits n

/-- The decimal numeral of an integer. -/
def signedDecimal (n : Int) : String :=
  if n < 0 then "-" ++ decimal n.natAbs else decimal n.natAbs

/-- Why a text is no numeral below a bound. -/
inductive NumeralError where
  | empty
  | invalidDigit
  | overflow
  deriving DecidableEq

/-- The wording of a refused numeral. -/
def NumeralError.message : NumeralError → String
  | .empty => "cannot parse integer from empty string"
  | .invalidDigit => "invalid digit found in string"
  | .overflow => "number too large to fit in target type"

/-- The value of a digit in a base of at most 36; letters of either case follow the nine. -/
def digit? (base : Nat) (c : Char) : Option Nat :=
  let value :=
    if '0' ≤ c && c ≤ '9' then c.toNat - '0'.toNat
    else if 'a' ≤ c && c ≤ 'z' then c.toNat - 'a'.toNat + 10
    else if 'A' ≤ c && c ≤ 'Z' then c.toNat - 'A'.toNat + 10
    else base
  if value < base then some value else none

/-- The number that digits continue from `value`, every intermediate number below `bound`. -/
def readDigits (base bound : Nat) : Nat → List Char → Except NumeralError Nat
  | value, [] => .ok value
  | value, c :: rest =>
    match digit? base c with
    | none => .error .invalidDigit
    | some d =>
      if value * base + d < bound then readDigits base bound (value * base + d) rest
      else .error .overflow

/-- The number below `bound` that a numeral in `base` stands for. -/
def readNumeral (base bound : Nat) : List Char → Except NumeralError Nat
  | [] => .error .empty
  | ['+'] => .error .invalidDigit
  | '+' :: digits => readDigits base bound 0 digits
  | digits => readDigits base bound 0 digits

/-- The number below `bound` that a numeral stands for: in hexadecimal after `0x` or `0X`, in
decimal otherwise. -/
def readMarkedNumeral (bound : Nat) : List Char → Except NumeralError Nat
  | '0' :: 'x' :: digits => readNumeral 16 bound digits
  | '0' :: 'X' :: digits => readNumeral 16 bound digits
  | digits => readNumeral 10 bound digits

/-- The number below `bound` that a plain text stands for in decimal, if it does. -/
def natural? (bound : Nat) (text : String) : Option Nat :=
  (readNumeral 10 bound text.toList).toOption

end CodeWindow.Text
