import CodeWindow.Isa.Arm.ConditionCode
import CodeWindow.Note

/-! The rules of AArch64: extended and shifted operands, conditions in the flags or in a register,
branches that name their target in the last operand, and notes by mnemonic. -/

namespace CodeWindow.Isa.Aarch64

variable {σ : Type} [Emulator σ]

/-- The status register. -/
def flagsRegister : String := "cpsr"

/-- The value of a register; the zero registers are always known. -/
def readRegister (ctx : Context σ) (insn : Instruction) (name : String) : Option UInt64 :=
  if name == "xzr" || name == "wzr" then some 0 else ctx.readRegister insn name

/-- The width of a register operand: 32 for the `w` registers and 64 for the others. -/
def registerWidth (operand : Operand) : Nat :=
  match operand.register? with
  | some name => if name.startsWith "w" then 32 else 64
  | none => 64

/-- The value of an immediate operand, shifted as the operand says. -/
def immediateValue (operand : Operand) (value : Int64) : UInt64 :=
  match operand.shift with
  | some shift => shift.apply value.toUInt64 64
  | none => value.toUInt64

/-- The width at which an instruction works: that of its first operand, where it is a register. -/
def operationWidth (insn : Instruction) : Nat :=
  match insn.operands with
  | first :: _ => if first.isRegister then registerWidth first else 64
  | [] => 64

/-- An extended value at a width. -/
def extended (operand : Operand) (value : UInt64) (width : Nat) : UInt64 :=
  match operand.extend with
  | some extend => extend.apply value &&& Bits.mask width
  | none => value

/-- A shifted value at a width. -/
def shifted (operand : Operand) (value : UInt64) (width : Nat) : UInt64 :=
  match operand.shift with
  | some shift => shift.apply value width &&& Bits.mask width
  | none => value

/-- The value of a register operand: the register, extended first and then shifted. -/
def registerValue (ctx : Context σ) (insn : Instruction) (operand : Operand) (name : String) :
    Option UInt64 :=
  (readRegister ctx insn name).map fun value =>
    let width := operationWidth insn
    shifted operand (extended operand value width) width

/-- The value of an index: extended, and then shifted at full width. -/
def indexValue (operand : Operand) (value : UInt64) : UInt64 :=
  let value :=
    match operand.extend with
    | some extend => extend.apply value
    | none => value
  match operand.shift with
  | some shift => shift.apply value 64
  | none => value

/-- The address of a memory operand: base, displacement and index. -/
def address (ctx : Context σ) (insn : Instruction) (operand : Operand)
    (reference : MemoryReference) : Option UInt64 := do
  let base ← readRegister ctx insn (← reference.base)
  let index ←
    match reference.index with
    | some name => (readRegister ctx insn name).map (indexValue operand)
    | none => some 0
  some (base + reference.disp.toUInt64 + index)

/-- A bit of a value, given by a 32-bit count; there is none from 64 on. -/
def bitOf (value bit : UInt64) : Bool := Bits.shiftRight value (bit.toNat % UInt32.size) &&& 1 == 1

/-- The outcome of a branch on the value of its first operand, and the bit that a second one
names. -/
def operandOutcome (insn : Instruction) : Option Bool :=
  let value (index : Nat) : Option UInt64 := insn.operands[index]?.bind Operand.beforeValue
  match insn.mnemonic with
  | "cbz" => (value 0).map fun v => v == 0
  | "cbnz" => (value 0).map fun v => v != 0
  | "tbz" => (value 0).bind fun v => (value 1).map fun bit => !bitOf v bit
  | "tbnz" => (value 0).bind fun v => (value 1).map fun bit => bitOf v bit
  | _ => none

/-- The outcome of a branch with a condition code. -/
def flagsOutcome (ctx : Context σ) (insn : Instruction) (suffix : String) : Option Bool :=
  (readRegister ctx insn flagsRegister).bind fun flags =>
    (Arm.ConditionCode.ofSuffix? suffix).map fun code => code.holds flags

/-- The condition of an instruction. -/
def condition (ctx : Context σ) (insn : Instruction) : Condition :=
  match Text.afterStart? "b." insn.mnemonic with
  | some suffix => .ofOption (flagsOutcome ctx insn suffix)
  | none => .ofOption (operandOutcome insn)

/-- An instruction may be asked for a target: every branch, and calls when calls count. -/
def mayBranch (insn : Instruction) (call : Bool) : Bool :=
  (insn.hasGroup .jump || insn.hasGroup .call || insn.hasGroup .ret ||
      insn.hasGroup .branchRelative || insn.isUnconditionalJump) &&
    (!insn.isCallLike || call)

/-- The target of a branch: the value of its last operand, and the link register for a return
without operands. -/
def branchTarget (ctx : Context σ) (insn : Instruction) (call : Bool) : Option UInt64 :=
  if mayBranch insn call then
    match insn.operands.getLast? with
    | some last => last.beforeValue
    | none =>
      if insn.mnemonic == "ret" then readRegister ctx insn "lr" else ctx.branchTarget insn call
  else none

/-! ### Notes -/

/-- The loads of a single register with the width of the access in bytes; without one it is the
width of the register. -/
def loadSizes : List (String × Option Nat) :=
  [("ldrb", some 1), ("ldurb", some 1), ("ldrsb", some 1), ("ldursb", some 1), ("ldrh", some 2),
    ("ldurh", some 2), ("ldrsh", some 2), ("ldursh", some 2), ("ldursw", some 4),
    ("ldrsw", some 4), ("ldur", none), ("ldr", none), ("ldtrb", some 1), ("ldtrsb", some 1),
    ("ldtrh", some 2), ("ldtrsh", some 2), ("ldtrsw", some 4), ("ldtr", none), ("ldxrb", some 1),
    ("ldxrh", some 2), ("ldxr", none), ("ldarb", some 1), ("ldarh", some 2), ("ldar", none)]

/-- The stores of a single register with the width of the access in bytes; without one it is the
width of the register. -/
def storeSizes : List (String × Option Nat) :=
  [("strb", some 1), ("sturb", some 1), ("strh", some 2), ("sturh", some 2), ("stur", none),
    ("str", none), ("sttrb", some 1), ("sttrh", some 2), ("sttr", none), ("stxrb", some 1),
    ("stxrh", some 2), ("stxr", none), ("stlrb", some 1), ("stlrh", some 2), ("stlr", none),
    ("stlxrb", some 1), ("stlxrh", some 2), ("stlxr", none)]

/-- The operators of comparisons. -/
def comparisonOperators : List (String × String) :=
  [("cmp", "-"), ("cmn", "+"), ("tst", "&"), ("ccmp", ""), ("ccmn", "")]

/-- The mnemonics of instructions that set their first operand. -/
def settingMnemonics : List String := ["mov", "adr", "adrp", "add", "sub"]

/-- The width of an access in bytes: the one given, or else that of a register. -/
def accessSize (size : Option Nat) (register : Operand) : Nat :=
  size.getD (registerWidth register / 8)

/-- The note of a load: the source is the first memory or immediate operand behind the first. -/
def loadNote (ctx : Context σ) (insn : Instruction) (size : Option Nat) : Option String := do
  let dest ← insn.operands.head?
  let source ← insn.operands.tail.find? fun operand => operand.isMemory || operand.isImmediate
  Note.load ctx insn dest source (accessSize size dest)

/-- The note of a store: the value is in the register right before the memory operand. -/
def storeNote (ctx : Context σ) (insn : Instruction) (size : Option Nat) : Option String := do
  let dest ← insn.operands.find? Operand.isMemory
  let source ← (insn.operands.takeWhile fun operand => !operand.isMemory).getLast?
  Note.store ctx source dest (accessSize size source)

/-- The note of an instruction. -/
def note (ctx : Context σ) (insn : Instruction) : Option String :=
  match loadSizes.lookup insn.mnemonic, storeSizes.lookup insn.mnemonic,
      comparisonOperators.lookup insn.mnemonic with
  | some size, _, _ => loadNote ctx insn size
  | none, some size, _ => storeNote ctx insn size
  | none, none, some operator => Note.comparison ctx insn flagsRegister operator
  | none, none, none =>
    if settingMnemonics.contains insn.mnemonic then Note.registerSet ctx insn else none

end CodeWindow.Isa.Aarch64
