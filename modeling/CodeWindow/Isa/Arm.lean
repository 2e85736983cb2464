import CodeWindow.Isa.Arm.ConditionCode
import CodeWindow.Note

/-! The rules of 32-bit ARM and its M class: a program counter that reads ahead, subtracted indices,
conditions in the endings of branches, and notes by mnemonic. -/

namespace CodeWindow.Isa.Arm

variable {σ : Type} [Emulator σ]

/-- The status register. -/
def flagsRegister (ctx : Context σ) : String := ctx.machine.arch.flagsRegister.getD "cpsr"

/-- The program counter as an instruction reads it: two instructions ahead. -/
def readAhead (insn : Instruction) : UInt64 :=
  (insn.address + if insn.mode.isThumb then 4 else 8) &&& Bits.mask 32

/-- The value of a register. -/
def readRegister (ctx : Context σ) (insn : Instruction) (name : String) : Option UInt64 :=
  if name == "pc" then some (readAhead insn) else ctx.readRegister insn name

/-- A value shifted as its operand says, at the width of a register. -/
def shifted (operand : Operand) (value : UInt64) : UInt64 :=
  match operand.shift with
  | some shift => shift.apply value 32
  | none => value

/-- The value of a register operand. -/
def registerValue (ctx : Context σ) (insn : Instruction) (operand : Operand) (name : String) :
    Option UInt64 :=
  (readRegister ctx insn name).map (shifted operand)

/-- The value of a base register; Thumb code loads literals relative to the aligned program
counter. -/
def baseValue (ctx : Context σ) (insn : Instruction) (name : String) : Option UInt64 :=
  (readRegister ctx insn name).map fun value =>
    if name == "pc" && insn.mode.isThumb then value &&& ~~~3 else value

/-- The address of a memory operand: base, index added or subtracted, and displacement. -/
def address (ctx : Context σ) (insn : Instruction) (operand : Operand)
    (reference : MemoryReference) : Option UInt64 := do
  let base ← baseValue ctx insn (← reference.base)
  let indexed ←
    match reference.index with
    | some name =>
      (readRegister ctx insn name).map fun index =>
        if operand.subtracted || reference.scale < 0 then base - shifted operand index
        else base + shifted operand index
    | none => some base
  some ((indexed + reference.disp.toUInt64) &&& Bits.mask 32)

/-- The branches that take a condition code, in the order in which they are tried. -/
def conditionalBranches : List String := ["blx", "bl", "bx", "b"]

/-- The condition code that ends the mnemonic of a branch. -/
def branchCode? (mnemonic : String) : Option ConditionCode :=
  conditionalBranches.findSome? fun branch =>
    (Text.afterStart? branch mnemonic).bind ConditionCode.ofSuffix?

/-- The outcome of a branch with a condition code. -/
def flagsOutcome (ctx : Context σ) (insn : Instruction) : Option Bool :=
  (branchCode? insn.baseMnemonic).bind fun code =>
    (readRegister ctx insn (flagsRegister ctx)).map code.holds

/-- The condition of an instruction. -/
def condition (ctx : Context σ) (insn : Instruction) : Condition :=
  let value : Option UInt64 := insn.operands.head?.bind Operand.beforeValue
  match insn.baseMnemonic with
  | "cbz" => .ofOption (value.map fun v => v == 0)
  | "cbnz" => .ofOption (value.map fun v => v != 0)
  | _ => if insn.isJumpLike then .ofOption (flagsOutcome ctx insn) else .undetermined

/-! ### Notes -/

/-- The loads of a single register with the width of the access in bytes. -/
def loadSizes : List (String × Nat) :=
  [("ldr", 4), ("ldrb", 1), ("ldrsb", 1), ("ldrh", 2), ("ldrsh", 2), ("ldrex", 4), ("ldrexb", 1),
    ("ldrexh", 2)]

/-- The stores of a single register with the width of the access in bytes. -/
def storeSizes : List (String × Nat) := [("str", 4), ("strb", 1), ("strh", 2)]

/-- The operators of comparisons. -/
def comparisonOperators : List (String × String) := [("cmp", "-"), ("cmn", "+"), ("tst", "&")]

/-- The mnemonics of instructions that set their first operand. -/
def settingMnemonics : List String := ["mov", "movw", "movt", "mvn", "adr", "add", "sub"]

/-- The note of a load: the source is the first memory operand. -/
def loadNote (ctx : Context σ) (insn : Instruction) (size : Nat) : Option String := do
  let dest ← insn.operands.head?
  let source ← insn.operands.find? Operand.isMemory
  Note.load ctx insn dest source size

/-- The note of a store of the first operand to the second. -/
def storeNote (ctx : Context σ) (insn : Instruction) (size : Nat) : Option String :=
  match insn.operands with
  | source :: dest :: _ => Note.store ctx source dest size
  | _ => none

/-- The note of an instruction. -/
def note (ctx : Context σ) (insn : Instruction) : Option String :=
  let mnemonic := insn.baseMnemonic
  match loadSizes.lookup mnemonic, storeSizes.lookup mnemonic,
      comparisonOperators.lookup mnemonic with
  | some size, _, _ => loadNote ctx insn size
  | none, some size, _ => storeNote ctx insn size
  | none, none, some operator => Note.comparison ctx insn (flagsRegister ctx) operator
  | none, none, none =>
    if settingMnemonics.contains mnemonic then Note.registerSet ctx insn else none

end CodeWindow.Isa.Arm
