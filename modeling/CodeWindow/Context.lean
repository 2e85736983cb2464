import CodeWindow.Chain
import CodeWindow.Config
import CodeWindow.Emulator
import CodeWindow.Instruction

/-! What may be consulted about one instruction. Values come from the emulator, where it may be
used, or from the process, where it is stopped at the instruction; away from the program counter
only memory that cannot be written is trusted. -/

namespace CodeWindow

namespace Process

/-- The pointer at an address that cannot be written. -/
def constantPointer? (process : Process) (address : UInt64) : Option UInt64 :=
  if process.isReadOnly address then process.pointer? address else none

/-- An address, followed by the number of `size` bytes at it where that can be read. -/
def singleRead (process : Process) (address : UInt64) (size : Nat) : List UInt64 :=
  match process.readUInt address size with
  | .ok value => [address, value]
  | .error _ => [address]

/-- The chain from an address. A size below that of a pointer means that the value there is no
pointer and is read once. -/
def chain (process : Process) (pointer? : UInt64 → Option UInt64) (address : UInt64) (limit : Nat)
    (readSize : Option Nat) : List UInt64 :=
  match readSize with
  | some size =>
    if size < process.machine.pointerSize then process.singleRead address size
    else Chain.follow pointer? address limit
  | none => Chain.follow pointer? address limit

end Process

/-- What may be consulted about an instruction. The emulator is present only when its values may be
used. -/
structure Context (σ : Type) where
  process : Process
  config : Config
  emulator : Option σ

namespace Context

variable {σ : Type} [Emulator σ]

/-- The machine of the process. -/
def machine (ctx : Context σ) : Machine := ctx.process.machine

/-- The process is stopped at an instruction, so its registers and memory describe it. -/
def stoppedAt (ctx : Context σ) (insn : Instruction) : Bool :=
  ctx.process.pc == some insn.address

/-- The value of a register when an instruction runs: the emulator's, or else the process's where it
is stopped at the instruction. -/
def readRegister (ctx : Context σ) (insn : Instruction) (name : String) : Option UInt64 :=
  match ctx.emulator with
  | some emulator => Emulator.readRegister emulator name
  | none => if ctx.stoppedAt insn then ctx.process.register name else none

/-- The chain from an address as far as memory can be trusted, and whether it was trusted at all. -/
def telescope (ctx : Context σ) (insn : Instruction) (address : UInt64) (limit : Nat)
    (readSize : Option Nat) : List UInt64 × Bool :=
  match ctx.emulator with
  | some emulator => (Emulator.telescope emulator address limit readSize, true)
  | none =>
    if ctx.stoppedAt insn then (ctx.process.chain ctx.process.pointer? address limit readSize, true)
    else if ctx.process.isReadOnly address then
      (ctx.process.chain ctx.process.constantPointer? address limit readSize, true)
    else ([address], false)

/-- The number of `size` bytes at an address, where memory can be trusted. -/
def readMemory (ctx : Context σ) (insn : Instruction) (address : UInt64) (size : Nat) :
    Option UInt64 :=
  match ctx.telescope insn address 1 (some size) with
  | (links, true) => links[1]?
  | (_, false) => none

/-- The text of a chain; its last link is looked into only where memory was trusted. -/
def renderChain (ctx : Context σ) (links : List UInt64) (limit : Nat) (canDereference : Bool) :
    String :=
  match ctx.emulator with
  | some emulator => Emulator.renderChain emulator links limit ctx.config.telescopeStringLength
  | none =>
    Chain.render ctx.process links limit canDereference ctx.config.telescopeStringLength

/-- The text of the chain from an address, to the configured depth. -/
def renderTelescope (ctx : Context σ) (insn : Instruction) (address : UInt64) (limit : Nat)
    (readSize : Option Nat) : String :=
  let (links, trusted) := ctx.telescope insn address limit readSize
  ctx.renderChain links ctx.config.telescopeDepth trusted

/-- The value that an instruction consumes of an operand's value: what lies at it for an operand in
memory, at the width of the access or else of a pointer, and the value itself otherwise. -/
def usedValue (ctx : Context σ) (insn : Instruction) (operand : Operand) (value : Option UInt64) :
    Option UInt64 :=
  match value, operand.kind with
  | some address, .memory _ =>
    ctx.readMemory insn address
      (if operand.size = 0 then ctx.machine.pointerSize else operand.size)
  | value, _ => value

/-- A value leads to code when its operand names a symbol, or it lies in an executable page. -/
def leadsToCode (ctx : Context σ) (operand : Operand) (value : UInt64) : Bool :=
  operand.symbol.isSome ||
    match ctx.process.pageAt value with
    | some page => page.executable
    | none => false

/-- The nonzero value that an instruction consumes of an operand before it runs. -/
def usedNonzero (ctx : Context σ) (insn : Instruction) (operand : Operand) : Option UInt64 :=
  (ctx.usedValue insn operand operand.beforeValue).filter fun value => value != 0

/-- The place that an operand of a branch leads to, if it leads to code. -/
def codeOperand? (ctx : Context σ) (insn : Instruction) (operand : Operand) : Option UInt64 :=
  match ctx.usedNonzero insn operand with
  | some value =>
    let place := value &&& ctx.machine.pointerMask
    if ctx.leadsToCode operand place then some place else none
  | none => none

/-- An instruction may be asked for a target: calls when calls count, and otherwise the branches
that the decoder reports. -/
def mayBranch (insn : Instruction) (call : Bool) : Bool :=
  if insn.isCallLike then call
  else insn.hasGroup .jump || insn.hasGroup .call || insn.hasGroup .branchRelative

/-- The target of a branch: the value of its only operand, or the rightmost operand that leads to
code. -/
def branchTarget (ctx : Context σ) (insn : Instruction) (call : Bool) : Option UInt64 :=
  if mayBranch insn call then
    match insn.operands with
    | [operand] => (ctx.usedNonzero insn operand).map (· &&& ctx.machine.pointerMask)
    | operands => operands.reverse.findSome? (ctx.codeOperand? insn)
  else none

end Context

end CodeWindow
