import CodeWindow.Note

/-! The rules of MIPS: a register that is always zero, branches that compare registers, and notes by
mnemonic. -/

namespace CodeWindow.Isa.Mips

variable {σ : Type} [Emulator σ]

/-- The name of a register without the marks before it. -/
def bareName (name : String) : String := String.ofList (name.toList.dropWhile fun c => c == '$')

/-- The value of a register; the zero register is always known. -/
def readRegister (ctx : Context σ) (insn : Instruction) (name : String) : Option UInt64 :=
  if bareName name == "zero" then some 0 else ctx.readRegister insn name

/-- The address of a memory operand: base and displacement. -/
def address (ctx : Context σ) (insn : Instruction) (reference : MemoryReference) :
    Option UInt64 := do
  let base ← readRegister ctx insn (← reference.base)
  some (base + reference.disp.toUInt64)

/-- The outcome of a branch that compares the values of its operands, as unsigned or as signed
numbers of the width of a pointer. -/
def outcome (machine : Machine) (insn : Instruction) : Option Bool :=
  let value (index : Nat) : Option UInt64 := insn.operands[index]?.bind Operand.beforeValue
  let signed : Option Int64 := (value 0).map fun v => Bits.toSigned v machine.pointerBits
  match insn.mnemonic with
  | "beq" => (value 0).bind fun a => (value 1).map fun b => a == b
  | "bne" => (value 0).bind fun a => (value 1).map fun b => a != b
  | "beqz" => (value 0).map fun a => a == 0
  | "bnez" => (value 0).map fun a => a != 0
  | "bgez" => signed.map fun a => a ≥ 0
  | "bgtz" => signed.map fun a => a > 0
  | "blez" => signed.map fun a => a ≤ 0
  | "bltz" => signed.map fun a => a < 0
  | _ => none

/-- The condition of an instruction. -/
def condition (ctx : Context σ) (insn : Instruction) : Condition :=
  .ofOption (outcome ctx.machine insn)

/-! ### Notes -/

/-- The loads of a single register with the width of the access in bytes. -/
def loadSizes : List (String × Nat) :=
  [("lb", 1), ("lbu", 1), ("lh", 2), ("lhu", 2), ("lw", 4), ("lwu", 4), ("ld", 8)]

/-- The mnemonics of instructions that set their first operand. -/
def settingMnemonics : List String :=
  ["move", "li", "lui", "addiu", "addu", "daddiu", "daddu", "subu"]

/-- The note of a load, which has two operands. -/
def loadNote (ctx : Context σ) (insn : Instruction) (size : Nat) : Option String :=
  match insn.operands with
  | [dest, source] => Note.load ctx insn dest source size
  | _ => none

/-- The note of an instruction. -/
def note (ctx : Context σ) (insn : Instruction) : Option String :=
  match loadSizes.lookup insn.mnemonic with
  | some size => loadNote ctx insn size
  | none => if settingMnemonics.contains insn.mnemonic then Note.registerSet ctx insn else none

end CodeWindow.Isa.Mips
