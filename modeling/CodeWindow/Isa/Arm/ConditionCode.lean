import CodeWindow.Bits

/-! The condition codes of the ARM architectures and their truth in the flags N, Z, C and V, which
are the four highest bits of the low word of the status register. -/

namespace CodeWindow.Isa.Arm

/-- The condition codes, each with a name of its own. -/
inductive ConditionCode where
  | equal
  | notEqual
  | carrySet
  | carryClear
  | minus
  | plus
  | overflow
  | noOverflow
  | higher
  | lowerSame
  | greaterEqual
  | less
  | greater
  | lessEqual
  | always
  deriving DecidableEq

namespace ConditionCode

/-- The condition code of a mnemonic's ending. -/
def ofSuffix? : String → Option ConditionCode
  | "eq" => some equal
  | "ne" => some notEqual
  | "hs" | "cs" => some carrySet
  | "lo" | "cc" => some carryClear
  | "mi" => some minus
  | "pl" => some plus
  | "vs" => some overflow
  | "vc" => some noOverflow
  | "hi" => some higher
  | "ls" => some lowerSame
  | "ge" => some greaterEqual
  | "lt" => some less
  | "gt" => some greater
  | "le" => some lessEqual
  | "al" | "nv" => some always
  | _ => none

/-- A bit of the flags is set. -/
def flag (flags : UInt64) (bit : Nat) : Bool := (flags >>> UInt64.ofNat bit) &&& 1 == 1

/-- The negative flag. -/
def negative (flags : UInt64) : Bool := flag flags 31

/-- The zero flag. -/
def zero (flags : UInt64) : Bool := flag flags 30

/-- The carry flag. -/
def carry (flags : UInt64) : Bool := flag flags 29

/-- The overflow flag. -/
def overflowed (flags : UInt64) : Bool := flag flags 28

/-- The truth of a condition in the flags. -/
def holds (code : ConditionCode) (flags : UInt64) : Bool :=
  match code with
  | equal => zero flags
  | notEqual => !zero flags
  | carrySet => carry flags
  | carryClear => !carry flags
  | minus => negative flags
  | plus => !negative flags
  | overflow => overflowed flags
  | noOverflow => !overflowed flags
  | higher => carry flags && !zero flags
  | lowerSame => !(carry flags && !zero flags)
  | greaterEqual => negative flags == overflowed flags
  | less => negative flags != overflowed flags
  | greater => !zero flags && negative flags == overflowed flags
  | lessEqual => !(!zero flags && negative flags == overflowed flags)
  | always => true

end ConditionCode

end CodeWindow.Isa.Arm
