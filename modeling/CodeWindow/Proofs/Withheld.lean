import CodeWindow.Emulator.Scripted
import CodeWindow.Enhancement

/-! Enhancement without the values of an emulator: there is none, or its values may not be used.
Then the process alone answers what is asked about the instruction, and an emulator that steps the
instruction reaches it only through the program counter behind it. -/

namespace CodeWindow

variable {σ : Type} [Emulator σ]

/-- Two descriptions of an instruction are the same but for the path: whether an emulator stepped
it, its successor, and what stands for a target that it does not have. `pc?` is where an emulator
stands behind the first. -/
structure Instruction.SameButPath (isa : Isa) (ctx : Context σ) (pc? : Option UInt64)
    (insn other : Instruction) : Prop where
  /-- What was decoded, the operands, the condition and the note are the same. -/
  rest : insn = { other with
    emulated := insn.emulated, next := insn.next, target := insn.target,
    targetText := insn.targetText, targetIsConstant := insn.targetIsConstant }
  next : insn.next = other.next ∨
    ∃ pc, pc? = some pc ∧ insn.next = pc &&& ctx.machine.pointerMask
  target : (isa.branchTarget ctx other true = none ∧
      insn.target = insn.next ∧ other.target = other.next) ∨
    (insn.target = other.target ∧ insn.targetText = other.targetText ∧
      insn.targetIsConstant = other.targetIsConstant)
  sameNext : insn.next = other.next → insn = { other with emulated := insn.emulated }

namespace Enhancement

section

variable {process : Process} {config : Config}

/-- What a process knows about an instruction without an emulator. -/
def contextOff (σ : Type) (process : Process) (config : Config) : Context σ where
  process := process
  config := config
  emulator := none

omit [Emulator σ] in
@[simp] theorem contextOff_process : (contextOff σ process config).process = process := rfl

omit [Emulator σ] in
theorem stoppedAt_contextOff {insn : Instruction} (haway : process.pc ≠ some insn.address) :
    (contextOff σ process config).stoppedAt insn = false := by
  simpa [Context.stoppedAt] using haway

omit [Emulator σ] in
theorem contextFor_of_withheld {insn : Instruction} {emulation : Emulation σ}
    (h : mayUseEmulated process config insn = false ∨ emulation.state? = none) :
    contextFor process config insn emulation = contextOff σ process config := by
  unfold contextFor contextOff
  rcases h with hmay | hstate
  · simp only [hmay, Bool.false_eq_true, if_false]
  · simp only [hstate, ite_self]

omit [Emulator σ] in
theorem contextFor_off (process : Process) (config : Config) (insn : Instruction) :
    contextFor process config insn (.off : Emulation σ) = contextOff σ process config :=
  contextFor_of_withheld (.inr rfl)

end

/-! ### What follows from the successor -/

section

variable (isa : Isa) (ctx : Context σ) (insn : Instruction)

/-- The instruction with what follows from its successor. -/
def settled : Instruction :=
  withNote isa ctx (withTargetText ctx.process (withTarget isa ctx insn))

theorem settled_of_path (emulated : Bool) (next : UInt64) :
    settled isa ctx { insn with emulated, next } =
      { withTargetText ctx.process { insn with
          target := ((isa.branchTarget ctx insn true).map (· &&& ctx.machine.pointerMask)).getD
            next } with
        emulated, next
        note := if ctx.config.disasmAnnotations then isa.note ctx insn else insn.note } := by
  have htarget : isa.branchTarget ctx { insn with emulated, next } true =
      isa.branchTarget ctx insn true := by
    cases isa <;> rfl
  unfold settled withNote withTarget
  rw [htarget]
  cases isa.branchTarget ctx insn true <;> split <;> cases isa <;> rfl

theorem branchTarget_settled (call : Bool) :
    isa.branchTarget ctx (settled isa ctx insn) call = isa.branchTarget ctx insn call := by
  unfold settled withNote
  split <;> cases isa <;> rfl

theorem settled_sameButPath {pc? : Option UInt64} (emulated : Bool) {next other : UInt64}
    (hnext : next = other ∨ ∃ pc, pc? = some pc ∧ next = pc &&& ctx.machine.pointerMask) :
    Instruction.SameButPath isa ctx pc? (settled isa ctx { insn with emulated, next })
      (settled isa ctx { insn with next := other }) := by
  have hled := settled_of_path isa ctx insn emulated next
  have hother := settled_of_path isa ctx insn insn.emulated other
  have htarget : isa.branchTarget ctx (settled isa ctx { insn with next := other }) true =
      isa.branchTarget ctx insn true := by
    rw [branchTarget_settled]
    cases isa <;> rfl
  constructor
  case rest =>
    rw [hled, hother]
    rfl
  case next =>
    rw [hled, hother]
    exact hnext
  case target =>
    rw [htarget, hled, hother]
    cases isa.branchTarget ctx insn true with
    | none => exact .inl ⟨rfl, rfl, rfl⟩
    | some place => exact .inr ⟨rfl, rfl, rfl⟩
  case sameNext =>
    intro hsame
    rw [hled, hother] at hsame ⊢
    obtain rfl : next = other := hsame
    rfl

/-- An emulator either does not count for the successor, or is where the instruction leads. -/
theorem successor?_cases (jumpPc : Option UInt64) :
    successor? isa ctx insn jumpPc = successor? isa ctx insn none ∨
      ∃ pc, jumpPc = some pc ∧ successor? isa ctx insn jumpPc = some pc := by
  unfold successor?
  generalize ite (insn.condition = .holds) (isa.branchTarget ctx insn false) none = decided
  by_cases hcounts : (decided.isNone && !insn.isCallLike && insn.condition ≠ .fails) = true
  · cases jumpPc with
    | none => exact .inl rfl
    | some pc => exact .inr ⟨pc, rfl, by simp only [hcounts, if_true]; rfl⟩
  · exact .inl (by simp only [hcounts, if_false, Bool.false_eq_true])

/-- Whether the instruction was stepped changes nothing else, and where the emulator went only the
successor and what stands for a target. -/
theorem conclude_sameButPath (emulated : Bool) (jumpPc : Option UInt64) :
    Instruction.SameButPath isa ctx jumpPc (conclude isa ctx { insn with emulated } jumpPc)
      (conclude isa ctx insn none) := by
  let shown := mapOperands insn fun operand =>
    { operand with display := displayOf ctx.process operand }
  let conditioned := withCondition isa ctx shown
  have hconditioned :
      withCondition isa ctx { shown with emulated } = { conditioned with emulated } := by
    cases isa <;> rfl
  have hsuccessor : successor? isa ctx { conditioned with emulated } jumpPc =
      successor? isa ctx conditioned jumpPc := by
    cases isa <;> rfl
  have hled : conclude isa ctx { insn with emulated } jumpPc =
      settled isa ctx { conditioned with
        emulated
        next := (successor? isa ctx conditioned jumpPc).getD conditioned.fallThrough &&&
          ctx.machine.pointerMask } := by
    change settled isa ctx
      (withNext isa ctx (withCondition isa ctx { shown with emulated }) jumpPc) = _
    rw [hconditioned, withNext, hsuccessor]
    rfl
  have hother : conclude isa ctx insn none =
      settled isa ctx { conditioned with
        next := (successor? isa ctx conditioned none).getD conditioned.fallThrough &&&
          ctx.machine.pointerMask } := rfl
  rw [hled, hother]
  refine settled_sameButPath isa ctx conditioned emulated ?_
  rcases successor?_cases isa ctx conditioned jumpPc with hsame | ⟨pc, hpc, hsome⟩
  · exact .inl (by rw [hsame])
  · exact .inr ⟨pc, hpc, by rw [hsome, Option.getD_some]⟩

end

/-! ### The emulator -/

section

variable {process : Process} {config : Config} {insn : Instruction} (isa : Isa)

theorem describe_of_withheld {entering leaving : Emulation σ}
    (hentering : contextFor process config insn entering = contextOff σ process config)
    (hleaving : contextFor process config insn leaving = contextOff σ process config) :
    describe isa process config insn entering leaving =
      conclude isa (contextOff σ process config)
        { valuesBefore isa (contextOff σ process config) insn with
          emulated := leaving.isActive || insn.emulated } leaving.pc? := by
  unfold describe
  rw [hentering, hleaving]
  cases leaving <;> rfl

theorem enhance_off (insn : Instruction) :
    (enhance isa process config insn (.off : Emulation σ)).1 =
      conclude isa (contextOff σ process config)
        (valuesBefore isa (contextOff σ process config) insn) none := by
  have hcontext := contextFor_off (σ := σ) process config insn
  exact describe_of_withheld isa hcontext hcontext

/-- An emulator whose values may not be used for an instruction changes nothing of it but the
path. -/
theorem enhance_sameButPath_of_withheld (h : mayUseEmulated process config insn = false)
    (emulation : Emulation σ) :
    Instruction.SameButPath isa (contextOff σ process config)
      (emulation.readyFor insn).step.pc? (enhance isa process config insn emulation).1
      (enhance isa process config insn (.off : Emulation σ)).1 := by
  have hcontext : ∀ emulation : Emulation σ,
      contextFor process config insn emulation = contextOff σ process config :=
    fun _ => contextFor_of_withheld (.inl h)
  rw [enhance_off]
  simp only [enhance, describe_of_withheld isa (hcontext _) (hcontext _)]
  exact conclude_sameButPath isa _ _ _ _

/-- The process is stopped at a jump whose condition it does not know, and the emulator jumps. -/
theorem enhance_jump_sameButPath :
    let snapshot : Snapshot := {
      machine := .ofArch .x86_64
      registers := (NameMap.empty.insert "rip" 0x402000).insert "rax" 7
      regions := .empty }
    let jump : Instruction := {
      arch := .x86_64, address := 0x402000, size := 2, mnemonic := "jne", groups := [.jump]
      operands := [{ kind := .immediate 0x402010, size := 8 }] }
    let state : ScriptedEmulator := {
      snapshot, pc := 0x402000
      steps := [{ fails := false, pc := 0x402010, registers := [("rax", 5)], regions := [] }] }
    let config : Config := { emulate := .jumpsOnly }
    let led := (enhance .x86 snapshot.process config jump (.active state)).1
    let unled := (enhance .x86 snapshot.process config jump (.off : Emulation ScriptedEmulator)).1
    led.emulated = true ∧ led.next = 0x402010 ∧ unled.emulated = false ∧ unled.next = 0x402002 ∧
      Instruction.SameButPath .x86 (contextOff ScriptedEmulator snapshot.process config)
        (((Emulation.active state).readyFor jump).step.pc?) led unled := by
  intro snapshot jump state config led unled
  exact ⟨by decide +kernel, by decide +kernel, by decide +kernel, by decide +kernel,
    enhance_sameButPath_of_withheld .x86 (by decide +kernel) (.active state)⟩

end

end Enhancement

end CodeWindow
