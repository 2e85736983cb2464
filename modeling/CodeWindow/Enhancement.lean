import CodeWindow.Isa

/-! Enhancement of one instruction, in a fixed order: operand values before it runs, one step of the
emulator, operand values after it ran, and then its condition, where it goes, and its note. An
emulation that cannot be trusted for the instructions behind this one ends here. -/

namespace CodeWindow

variable {σ : Type} [Emulator σ]

/-- The emulation that may step an instruction: it stands at the instruction, and the instruction is
not one that emulators never step. -/
def Emulation.readyFor (emulation : Emulation σ) (insn : Instruction) : Emulation σ :=
  match emulation with
  | .active state =>
    if Emulator.pc state = insn.address && !insn.blocksEmulation then .active state else .off
  | .off => .off

/-- The emulation behind an instruction: it ends at one that emulators never step. -/
def Emulation.past {σ : Type} (emulation : Emulation σ) (insn : Instruction) : Emulation σ :=
  if insn.blocksEmulation then .off else emulation

/-- The emulation after a step; a step that fails ends it. -/
def Emulation.step : Emulation σ → Emulation σ
  | .active state =>
    match Emulator.step state with
    | .ok next => .active next
    | .error _ => .off
  | .off => .off

namespace Enhancement

/-- Emulated values may be used for an instruction: the configuration allows them, and it allows
them ahead of the program counter unless the instruction is at it. -/
def mayUseEmulated (process : Process) (config : Config) (insn : Instruction) : Bool :=
  config.valuesFromEmulator &&
    (process.pc == some insn.address || config.emulateFutureAnnotations)

/-- What may be consulted about an instruction in a state of the emulation. -/
def contextFor (process : Process) (config : Config) (insn : Instruction)
    (emulation : Emulation σ) : Context σ where
  process := process
  config := config
  emulator := if mayUseEmulated process config insn then emulation.state? else none

/-- The value of an operand, reduced to the width of a pointer. -/
def maskedValue (isa : Isa) (ctx : Context σ) (insn : Instruction) (operand : Operand) :
    Option UInt64 :=
  (isa.operandValue ctx insn operand).map (· &&& ctx.machine.pointerMask)

/-- An operand with its values before the instruction runs. -/
def withBefore (isa : Isa) (ctx : Context σ) (insn : Instruction) (operand : Operand) : Operand :=
  let value := maskedValue isa ctx insn operand
  { operand with
    beforeValue := value
    symbol := value.bind ctx.process.symbolAt
    beforeResolved := ctx.usedValue insn operand value }

/-- An operand with its values after the instruction ran. -/
def withAfter (isa : Isa) (ctx : Context σ) (insn : Instruction) (operand : Operand) : Operand :=
  let value := maskedValue isa ctx insn operand
  { operand with
    afterValue := value
    afterResolved := ctx.usedValue insn operand value }

/-- The text of an operand: a register in upper case, an address in brackets, an immediate as a
signed number of the width of a pointer. -/
def displayOf (process : Process) (operand : Operand) : Option String :=
  match operand.kind with
  | .register name => some (Text.upper name)
  | .memory _ =>
    operand.beforeValue.map fun value =>
      "[" ++ Rendering.addressOrSymbol process.symbolAt value ++ "]"
  | .immediate _ =>
    operand.beforeValue.map fun value =>
      Rendering.immediate (Bits.toSigned value process.machine.pointerBits)

/-- An instruction with other operands. -/
def mapOperands (insn : Instruction) (change : Operand → Operand) : Instruction :=
  { insn with operands := insn.operands.map change }

/-- Where the program counter is after the instruction, if that is not right behind it. A condition
that is known wins over the emulator, which may land elsewhere where branches take effect late. -/
def successor? (isa : Isa) (ctx : Context σ) (insn : Instruction) (jumpPc : Option UInt64) :
    Option UInt64 :=
  let decided := if insn.condition = .holds then isa.branchTarget ctx insn false else none
  let emulated :=
    if decided.isNone && !insn.isCallLike && insn.condition ≠ .fails then jumpPc else decided
  if emulated.isNone && insn.isUnconditionalJump then isa.branchTarget ctx insn false
  else emulated

/-- An immediate operand leads to the target. -/
def namesTarget (insn : Instruction) (operand : Operand) : Bool :=
  operand.isImmediate && operand.beforeValue == some insn.target

/-- The first operand is an immediate other than zero. -/
def startsWithImmediate (insn : Instruction) : Bool :=
  match insn.operands with
  | first :: _ =>
    first.isImmediate &&
      match first.beforeValue with
      | some value => value != 0
      | none => false
  | [] => false

/-- The instruction with its condition. -/
def withCondition (isa : Isa) (ctx : Context σ) (insn : Instruction) : Instruction :=
  { insn with condition := isa.condition ctx insn }

/-- The instruction with its successor. -/
def withNext (isa : Isa) (ctx : Context σ) (insn : Instruction) (jumpPc : Option UInt64) :
    Instruction :=
  { insn with
    next := (successor? isa ctx insn jumpPc).getD insn.fallThrough &&& ctx.machine.pointerMask }

/-- The instruction with its target, which is its successor where it has no other. -/
def withTarget (isa : Isa) (ctx : Context σ) (insn : Instruction) : Instruction :=
  let target :=
    match isa.branchTarget ctx insn true with
    | some place => place &&& ctx.machine.pointerMask
    | none => insn.next
  { insn with target }

/-- The instruction with the text of its target, and whether the target is a constant of it. -/
def withTargetText (process : Process) (insn : Instruction) : Instruction :=
  { insn with
    targetText :=
      if insn.hasJumpTarget then some (Rendering.addressOrSymbol process.symbolAt insn.target)
      else insn.targetText
    targetIsConstant :=
      startsWithImmediate insn ||
        (insn.hasJumpTarget && insn.operands.any (namesTarget insn)) }

/-- The instruction with its note, where notes are wanted. -/
def withNote (isa : Isa) (ctx : Context σ) (insn : Instruction) : Instruction :=
  if ctx.config.disasmAnnotations then { insn with note := isa.note ctx insn } else insn

/-- The instruction with the values of its operands before it runs. -/
def valuesBefore (isa : Isa) (ctx : Context σ) (insn : Instruction) : Instruction :=
  mapOperands insn (withBefore isa ctx insn)

/-- The instruction with the values of its operands after it ran, where an emulator shows them. -/
def valuesAfter (isa : Isa) (ctx : Context σ) (insn : Instruction) : Instruction :=
  if ctx.emulator.isSome then mapOperands insn (withAfter isa ctx insn) else insn

/-- What follows from the values: texts, condition, successor, target and note. -/
def conclude (isa : Isa) (ctx : Context σ) (insn : Instruction) (jumpPc : Option UInt64) :
    Instruction :=
  let shown := mapOperands insn fun operand =>
    { operand with display := displayOf ctx.process operand }
  let conditioned := withCondition isa ctx shown
  let directed := withTarget isa ctx (withNext isa ctx conditioned jumpPc)
  withNote isa ctx (withTargetText ctx.process directed)

/-- The instruction with all that is known of it, given the emulation that enters it and the one
that leaves it. It counts as emulated when the emulation leaves it. -/
def describe (isa : Isa) (process : Process) (config : Config) (insn : Instruction)
    (entering leaving : Emulation σ) : Instruction :=
  let before := valuesBefore isa (contextFor process config insn entering) insn
  let stepped := if leaving.isActive then { before with emulated := true } else before
  let ctx := contextFor process config insn leaving
  conclude isa ctx (valuesAfter isa ctx stepped) leaving.pc?

/-- Enhances an instruction. The emulation is stepped past it, and is off afterwards when it can no
longer be trusted. -/
def enhance (isa : Isa) (process : Process) (config : Config) (insn : Instruction)
    (emulation : Emulation σ) : Instruction × Emulation σ :=
  let entering := emulation.readyFor insn
  let leaving := entering.step
  (describe isa process config insn entering leaving, leaving)

end Enhancement

end CodeWindow
