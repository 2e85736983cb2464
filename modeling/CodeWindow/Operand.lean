import CodeWindow.Bits

/-! Operands of instructions: what they name, how the named value is shifted or extended, and the
values that enhancement finds for them. -/

namespace CodeWindow

/-- The kinds of shift. -/
inductive ShiftKind where
  | lsl
  | lsr
  | asr
  | ror
  deriving DecidableEq

/-- A shift by a constant amount. -/
structure Shift where
  kind : ShiftKind
  amount : Nat
  deriving DecidableEq

/-- A shifted value at a width. -/
def Shift.apply (shift : Shift) (value : UInt64) (width : Nat) : UInt64 :=
  match shift.kind with
  | .lsl => Bits.lsl value shift.amount width
  | .lsr => Bits.lsr value shift.amount width
  | .asr => Bits.asr value shift.amount width
  | .ror => Bits.ror value shift.amount width

/-- Extensions of a byte, halfword, word or doubleword, without or with its sign. -/
inductive Extend where
  | uxtb
  | uxth
  | uxtw
  | uxtx
  | sxtb
  | sxth
  | sxtw
  | sxtx
  deriving DecidableEq

/-- An extended value. -/
def Extend.apply (extend : Extend) (value : UInt64) : UInt64 :=
  match extend with
  | .uxtb => value &&& Bits.mask 8
  | .uxth => value &&& Bits.mask 16
  | .uxtw => value &&& Bits.mask 32
  | .uxtx => value
  | .sxtb => (Bits.toSigned value 8).toUInt64
  | .sxth => (Bits.toSigned value 16).toUInt64
  | .sxtw => (Bits.toSigned value 32).toUInt64
  | .sxtx => value

/-- The address form of a memory operand. -/
structure MemoryReference where
  segment : Option String := none
  base : Option String := none
  index : Option String := none
  scale : Int64 := 0
  disp : Int64 := 0
  deriving DecidableEq

/-- What an operand names. -/
inductive OperandKind where
  | immediate (value : Int64)
  | register (name : String)
  | memory (reference : MemoryReference)
  deriving DecidableEq

/-- An operand. The size is the width of an access in bytes, zero where it is not known. The
values are those before and after the instruction ran; a resolved value is what the instruction
consumes, which for memory is what lies at the operand's address. -/
structure Operand where
  kind : OperandKind
  size : Nat := 0
  shift : Option Shift := none
  extend : Option Extend := none
  /-- The index is subtracted from the base. -/
  subtracted : Bool := false
  beforeValue : Option UInt64 := none
  afterValue : Option UInt64 := none
  beforeResolved : Option UInt64 := none
  afterResolved : Option UInt64 := none
  symbol : Option String := none
  display : Option String := none
  deriving DecidableEq

namespace Operand

/-- The name of a register operand. -/
def register? (operand : Operand) : Option String :=
  match operand.kind with
  | .register name => some name
  | _ => none

/-- The address form of a memory operand. -/
def memory? (operand : Operand) : Option MemoryReference :=
  match operand.kind with
  | .memory reference => some reference
  | _ => none

/-- The value of an immediate operand. -/
def immediate? (operand : Operand) : Option Int64 :=
  match operand.kind with
  | .immediate value => some value
  | _ => none

/-- The operand is a register. -/
def isRegister (operand : Operand) : Bool := operand.register?.isSome

/-- The operand lies in memory. -/
def isMemory (operand : Operand) : Bool := operand.memory?.isSome

/-- The operand is an immediate value. -/
def isImmediate (operand : Operand) : Bool := operand.immediate?.isSome

/-- The text of an operand, a question mark when it has none. -/
def label (operand : Operand) : String := operand.display.getD "?"

end Operand

end CodeWindow
