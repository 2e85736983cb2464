import CodeWindow.Isa.Aarch64
import CodeWindow.Isa.Arm
import CodeWindow.Isa.Mips
import CodeWindow.Isa.X86

/-! The rules by which instructions are read, per family of architectures. Architectures without
rules of their own show immediate values only. -/

namespace CodeWindow

/-- The families of architectures that have rules of their own, and the rest. -/
inductive Isa where
  | x86
  | aarch64
  | arm
  | mips
  | generic
  deriving DecidableEq

/-- The family of an architecture. -/
def Architecture.isa : Architecture → Isa
  | .i8086 | .i386 | .x86_64 => .x86
  | .aarch64 => .aarch64
  | .arm | .armCortexM => .arm
  | .mips => .mips
  | _ => .generic

namespace Isa

variable {σ : Type} [Emulator σ]

/-- The value of a register when an instruction runs. -/
def readRegister (isa : Isa) (ctx : Context σ) (insn : Instruction) (name : String) :
    Option UInt64 :=
  match isa with
  | x86 => X86.readRegister ctx insn name
  | aarch64 => Aarch64.readRegister ctx insn name
  | arm => Arm.readRegister ctx insn name
  | mips => Mips.readRegister ctx insn name
  | generic => ctx.readRegister insn name

/-- The value of an immediate operand. -/
def immediateValue (isa : Isa) (operand : Operand) : Option UInt64 :=
  operand.immediate?.map fun value =>
    match isa with
    | aarch64 => Aarch64.immediateValue operand value
    | _ => value.toUInt64

/-- The value of a register operand, shifted and extended as the operand says. -/
def registerValue (isa : Isa) (ctx : Context σ) (insn : Instruction) (operand : Operand) :
    Option UInt64 :=
  operand.register?.bind fun name =>
    match isa with
    | aarch64 => Aarch64.registerValue ctx insn operand name
    | arm => Arm.registerValue ctx insn operand name
    | x86 => X86.readRegister ctx insn name
    | mips => Mips.readRegister ctx insn name
    | generic => none

/-- The address that a memory operand names. -/
def address (isa : Isa) (ctx : Context σ) (insn : Instruction) (operand : Operand) :
    Option UInt64 :=
  operand.memory?.bind fun reference =>
    match isa with
    | x86 => X86.address ctx insn reference
    | aarch64 => Aarch64.address ctx insn operand reference
    | arm => Arm.address ctx insn operand reference
    | mips => Mips.address ctx insn reference
    | generic => none

/-- The value of an operand; that of a memory operand is its address. -/
def operandValue (isa : Isa) (ctx : Context σ) (insn : Instruction) (operand : Operand) :
    Option UInt64 :=
  match operand.kind with
  | .immediate _ => isa.immediateValue operand
  | .register _ => isa.registerValue ctx insn operand
  | .memory _ => isa.address ctx insn operand

/-- The condition of an instruction. -/
def condition (isa : Isa) (ctx : Context σ) (insn : Instruction) : Condition :=
  match isa with
  | x86 => X86.condition ctx insn
  | aarch64 => Aarch64.condition ctx insn
  | arm => Arm.condition ctx insn
  | mips => Mips.condition ctx insn
  | generic => .undetermined

/-- Where an instruction goes when it transfers control; calls have targets when calls count. -/
def branchTarget (isa : Isa) (ctx : Context σ) (insn : Instruction) (call : Bool) :
    Option UInt64 :=
  match isa with
  | x86 => X86.branchTarget ctx insn call
  | aarch64 => Aarch64.branchTarget ctx insn call
  | _ => ctx.branchTarget insn call

/-- The note of an instruction. -/
def note (isa : Isa) (ctx : Context σ) (insn : Instruction) : Option String :=
  match isa with
  | x86 => X86.note ctx insn
  | aarch64 => Aarch64.note ctx insn
  | arm => Arm.note ctx insn
  | mips => Mips.note ctx insn
  | generic => none

end Isa

end CodeWindow
