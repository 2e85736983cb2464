import CodeWindow.Isa.X86.ConditionCode
import CodeWindow.Note

/-! The rules of the x86 family: addresses of memory operands, conditions in the flags, return
addresses on the stack, and notes by mnemonic. -/

namespace CodeWindow.Isa.X86

variable {σ : Type} [Emulator σ]

/-- The status register. -/
def flagsRegister : String := "eflags"

/-- The value of a register. The program counter reads as the address behind the instruction,
wherever the process is stopped. -/
def readRegister (ctx : Context σ) (insn : Instruction) (name : String) : Option UInt64 :=
  if name == "rip" || name == "eip" || name == "ip" then some insn.fallThrough
  else ctx.readRegister insn name

/-- The address of a memory operand: base, displacement and scaled index. Segments have bases that
no register shows. -/
def address (ctx : Context σ) (insn : Instruction) (reference : MemoryReference) :
    Option UInt64 :=
  match reference.segment with
  | some _ => none
  | none => do
    let base ←
      match reference.base with
      | some name => readRegister ctx insn name
      | none => some 0
    let index ←
      match reference.index with
      | some name => readRegister ctx insn name
      | none => some 0
    some (base + reference.disp.toUInt64 + index * reference.scale.toUInt64)

/-- The target of a branch. A return while the process is stopped at it goes to the address on top
of the stack. -/
def branchTarget (ctx : Context σ) (insn : Instruction) (call : Bool) : Option UInt64 :=
  if insn.mnemonic == "ret" && insn.operands.length ≤ 1 && ctx.stoppedAt insn then do
    let sp ← ctx.process.sp
    if ctx.process.peek sp then (ctx.process.readPointer sp).toOption else none
  else ctx.branchTarget insn call

/-- The condition code in the mnemonic of a conditional move or jump. -/
def conditionSuffix? (mnemonic : String) : Option String :=
  match Text.afterStart? "cmov" mnemonic with
  | some suffix => some suffix
  | none => Text.afterStart? "j" mnemonic

/-- The flags that an instruction sees. -/
def flags? (ctx : Context σ) (insn : Instruction) : Option UInt64 :=
  match ctx.emulator with
  | some emulator => Emulator.readRegister emulator flagsRegister
  | none => if ctx.stoppedAt insn then ctx.process.flags flagsRegister else none

/-- The condition of a conditional move or jump. -/
def condition (ctx : Context σ) (insn : Instruction) : Condition :=
  match conditionSuffix? insn.mnemonic with
  | some suffix =>
    match flags? ctx insn, ConditionCode.ofSuffix? suffix with
    | some flags, some code => .ofBool (code.holds flags)
    | _, _ => .undetermined
  | none => .undetermined

/-! ### Notes -/

/-- The kinds of note. -/
inductive NoteRule where
  | move
  | alignedMove
  | loadAddress
  | exchange
  | pop
  | arithmetic (operator : String)
  | comparison (operator : String)
  | exclusiveOr
  | plainResult
  | symbolResult

/-- The kind of note of a mnemonic. -/
def noteRule? : String → Option NoteRule
  | "mov" | "movabs" | "movzx" | "movd" | "movq" | "movsxd" | "movsx" => some .move
  | "movaps" | "vmovaps" => some .alignedMove
  | "lea" => some .loadAddress
  | "xchg" => some .exchange
  | "pop" => some .pop
  | "add" => some (.arithmetic "+")
  | "sub" => some (.arithmetic "-")
  | "cmp" => some (.comparison "-")
  | "test" => some (.comparison "&")
  | "xor" => some .exclusiveOr
  | "and" => some .plainResult
  | "inc" | "dec" => some .symbolResult
  | _ => none

/-- A value with its symbol. -/
def withSymbol (ctx : Context σ) (value : UInt64) : String :=
  Rendering.addressAndSymbol ctx.process.symbolAt value

/-- What a move copies: what is loaded for a register from memory, a chain from the value
otherwise. A place in memory that cannot be looked into is said to be so. -/
def moveNote (ctx : Context σ) (insn : Instruction) (left right : Operand) : Option String := do
  let value ← right.beforeValue
  let copied : String :=
    ctx.renderTelescope insn value (Chain.oneMore ctx.config.telescopeDepth)
      (if right.size > 0 then some right.size else none)
  match left.kind with
  | .register _ =>
    if right.isMemory then Note.load ctx insn left right right.size
    else some (Note.becomes left.label copied)
  | .memory _ => do
    let dest ← left.beforeValue
    if ctx.process.peek dest then some (Note.becomes left.label copied)
    else some (Note.cannotDereference dest)
  | .immediate _ => none

/-- That the memory operand of an aligned move is not aligned to its width. -/
def alignmentNote (insn : Instruction) : Option String := do
  let operand ← insn.operands.find? Operand.isMemory
  let place ← operand.beforeValue
  if operand.size > 0 && place &&& (UInt64.ofNat operand.size - 1) ≠ 0 then
    some ("<[" ++ hexAddress place ++ "] not aligned to " ++ Text.decimal operand.size ++
      " bytes>")
  else none

/-- The chain from a computed address. -/
def addressNote (ctx : Context σ) (insn : Instruction) (left right : Operand) : Option String := do
  let place ← right.beforeValue
  some (Note.becomes left.label
    (ctx.renderTelescope insn place ctx.config.telescopeDepth none))

/-- The two values of an exchange, from before it, so it needs no emulator. -/
def exchangeNote (ctx : Context σ) (left right : Operand) : Option String := do
  let leftBefore ← left.beforeResolved
  let rightBefore ← right.beforeResolved
  let shown (value : UInt64) : String := Rendering.addressOrSymbol ctx.process.symbolAt value
  some (Note.becomes left.label (shown rightBefore) ++ ", " ++
    Note.becomes right.label (shown leftBefore))

/-- The value that is popped into a register: the emulated one, or the one on top of the stack
while the process is stopped at the instruction. -/
def popNote (ctx : Context σ) (insn : Instruction) (dest : Operand) : Option String := do
  let value ←
    match ctx.emulator, dest.afterValue with
    | some _, some value => some value
    | _, _ =>
      if ctx.stoppedAt insn then
        ctx.process.sp.bind fun sp => (ctx.process.readPointer sp).toOption
      else none
  some (Note.becomes dest.label (withSymbol ctx value))

/-- The result of an operation, with the operation where its operands are known. -/
def arithmeticNote (ctx : Context σ) (left right : Operand) (operator : String) : Option String :=
  match left.afterResolved, Note.expression? left right operator with
  | some result, some expression =>
    some (Note.becomes left.label (withSymbol ctx result ++ " (" ++ expression ++ ")"))
  | some result, none => some (Note.becomes left.label (withSymbol ctx result))
  | none, some expression => some (Note.becomes left.label expression)
  | none, none => none

/-- The result of an exclusive or; a register with itself gives zero wherever the instruction
is. -/
def exclusiveOrNote (left right : Operand) : Option String :=
  if left.isRegister && left.register? == right.register? then some (Note.becomes left.label "0")
  else left.afterResolved.map fun result =>
    Note.becomes left.label (Rendering.plainAddress result)

/-- The note of an instruction. -/
def note (ctx : Context σ) (insn : Instruction) : Option String :=
  match noteRule? insn.mnemonic, insn.operands with
  | some .move, [left, right] => moveNote ctx insn left right
  | some .alignedMove, _ => alignmentNote insn
  | some .loadAddress, [left, right] => addressNote ctx insn left right
  | some .exchange, [left, right] => exchangeNote ctx left right
  | some .pop, [dest] => if dest.isRegister then popNote ctx insn dest else none
  | some (.arithmetic operator), [left, right] => arithmeticNote ctx left right operator
  | some (.comparison operator), _ => Note.comparison ctx insn flagsRegister operator
  | some .exclusiveOr, [left, right] => exclusiveOrNote left right
  | some .plainResult, left :: _ =>
    left.afterResolved.map fun result =>
      Note.becomes left.label (Rendering.plainAddress result)
  | some .symbolResult, left :: _ =>
    left.afterResolved.map fun result => Note.becomes left.label (withSymbol ctx result)
  | _, _ => none

end CodeWindow.Isa.X86
