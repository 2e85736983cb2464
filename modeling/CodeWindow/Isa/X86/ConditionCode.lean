import CodeWindow.Bits

/-! The condition codes of the x86 family and their truth in the flags. -/

namespace CodeWindow.Isa.X86

/-- The condition codes, each with a name of its own. -/
inductive ConditionCode where
  | above
  | aboveEqual
  | below
  | belowEqual
  | equal
  | greater
  | greaterEqual
  | less
  | lessEqual
  | notEqual
  | notOverflow
  | notParity
  | notSign
  | overflow
  | parity
  | sign
  deriving DecidableEq

namespace ConditionCode

/-- The condition code of a mnemonic's ending; most codes have several. -/
def ofSuffix? : String → Option ConditionCode
  | "a" | "nbe" => some above
  | "ae" | "nb" | "nc" => some aboveEqual
  | "b" | "c" | "nae" => some below
  | "be" | "na" => some belowEqual
  | "e" | "z" => some equal
  | "g" | "nle" => some greater
  | "ge" | "nl" => some greaterEqual
  | "l" | "nge" => some less
  | "le" | "ng" => some lessEqual
  | "ne" | "nz" => some notEqual
  | "no" => some notOverflow
  | "np" | "po" => some notParity
  | "ns" => some notSign
  | "o" => some overflow
  | "p" | "pe" => some parity
  | "s" => some sign
  | _ => none

/-- A bit of the flags is set. -/
def flag (flags : UInt64) (bit : Nat) : Bool := flags &&& (1 <<< UInt64.ofNat bit) ≠ 0

/-- The carry flag. -/
def carryFlag (flags : UInt64) : Bool := flag flags 0

/-- The parity flag. -/
def parityFlag (flags : UInt64) : Bool := flag flags 2

/-- The zero flag. -/
def zeroFlag (flags : UInt64) : Bool := flag flags 6

/-- The sign flag. -/
def signFlag (flags : UInt64) : Bool := flag flags 7

/-- The overflow flag. -/
def overflowFlag (flags : UInt64) : Bool := flag flags 11

/-- The truth of a condition in the flags. -/
def holds (code : ConditionCode) (flags : UInt64) : Bool :=
  match code with
  | above => !(carryFlag flags || zeroFlag flags)
  | aboveEqual => !carryFlag flags
  | below => carryFlag flags
  | belowEqual => carryFlag flags || zeroFlag flags
  | equal => zeroFlag flags
  | greater => !zeroFlag flags && signFlag flags == overflowFlag flags
  | greaterEqual => signFlag flags == overflowFlag flags
  | less => signFlag flags != overflowFlag flags
  | lessEqual => zeroFlag flags || signFlag flags != overflowFlag flags
  | notEqual => !zeroFlag flags
  | notOverflow => !overflowFlag flags
  | notParity => !parityFlag flags
  | notSign => !signFlag flags
  | overflow => overflowFlag flags
  | parity => parityFlag flags
  | sign => signFlag flags

end ConditionCode

end CodeWindow.Isa.X86
