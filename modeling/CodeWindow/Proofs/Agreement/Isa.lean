import CodeWindow.Isa
import CodeWindow.Proofs.Agreement

/-! The rules of the architectures in alike contexts: operands have the same values, conditions the
same outcomes, branches the same targets, and instructions the same notes. -/

namespace CodeWindow.Context.Alike

variable {σ : Type} [Emulator σ] {c d : Context σ} {insn : Instruction}

/-! ### Notes that architectures share -/

theorem registerSet (h : Alike insn.address c d) (hnotes : c.config.disasmAnnotations = true) :
    Note.registerSet c insn = Note.registerSet d insn := by
  have hrender : ∀ value, c.renderTelescope insn value (Chain.oneMore c.config.telescopeDepth)
        (some c.machine.pointerSize) =
      d.renderTelescope insn value (Chain.oneMore c.config.telescopeDepth)
        (some c.machine.pointerSize) := by
    intro value
    refine h.renderTelescope hnotes fun hread => ?_
    rw [Context.machine, Process.chain_pointerSize]
    exact .pointer hread
  simp only [Note.registerSet, ← h.config, ← h.machine, hrender]

theorem comparison (h : Alike insn.address c d) (register operator : String) :
    Note.comparison c insn register operator = Note.comparison d insn register operator := by
  simp only [Note.comparison, Note.emulatedFlags, h.emulator, h.machine]

theorem load (h : Alike insn.address c d) (hnotes : c.config.disasmAnnotations = true)
    (dest source : Operand) (size : Nat) :
    Note.load c insn dest source size = Note.load d insn dest source size := by
  have hloaded : ∀ place,
      Note.loaded? c place
          (c.telescope insn place (Chain.oneMore c.config.telescopeDepth) (some size)) =
        Note.loaded? d place
          (c.telescope insn place (Chain.oneMore c.config.telescopeDepth) (some size)) := by
    intro place
    rcases hlinks : c.telescope insn place (Chain.oneMore c.config.telescopeDepth) (some size)
      with ⟨_ | ⟨first, _ | ⟨second, rest⟩⟩, trusted⟩
    · rfl
    · rfl
    · have hshown : c.emulator = none → trusted = true →
          c.process.NoteLinks c.config (second :: rest) := by
        intro hoff htrusted
        rw [telescope_away hoff h.stoppedAt_left] at hlinks
        split at hlinks
        · rename_i hread
          exact .loaded hread (congrArg Prod.fst hlinks)
        · simp only [Prod.mk.injEq, List.cons.injEq, reduceCtorEq, and_false, false_and] at hlinks
      simp only [Note.loaded?, ← h.config, h.renderChain hnotes hshown]
  simp only [Note.load, hloaded, ← h.telescope, ← h.config]

omit [Emulator σ] in
theorem store (h : Alike insn.address c d) (source dest : Operand) (size : Nat) :
    Note.store c source dest size = Note.store d source dest size := by
  simp only [Note.store, h.process.symbolAt]

/-! ### The x86 family -/

theorem x86ReadRegister (h : Alike insn.address c d) (name : String) :
    Isa.X86.readRegister c insn name = Isa.X86.readRegister d insn name := by
  simp only [Isa.X86.readRegister, h.readRegister]

theorem x86Address (h : Alike insn.address c d) (reference : MemoryReference) :
    Isa.X86.address c insn reference = Isa.X86.address d insn reference := by
  simp only [Isa.X86.address, h.x86ReadRegister]

/-- The top of the stack is not looked at. -/
theorem x86BranchTarget (h : Alike insn.address c d) (call : Bool) :
    Isa.X86.branchTarget c insn call = Isa.X86.branchTarget d insn call := by
  simp only [Isa.X86.branchTarget, h.stoppedAt_left, h.stoppedAt_right, Bool.and_false,
    Bool.false_eq_true, if_false, h.branchTarget]

/-- Flags come from the emulator alone. -/
theorem x86Condition (h : Alike insn.address c d) :
    Isa.X86.condition c insn = Isa.X86.condition d insn := by
  have hflags : Isa.X86.flags? c insn = Isa.X86.flags? d insn := by
    simp only [Isa.X86.flags?, h.emulator, h.stoppedAt_left, h.stoppedAt_right, Bool.false_eq_true,
      if_false]
  simp only [Isa.X86.condition, hflags]

theorem x86MoveNote (h : Alike insn.address c d) (hnotes : c.config.disasmAnnotations = true)
    (left right : Operand) :
    Isa.X86.moveNote c insn left right = Isa.X86.moveNote d insn left right := by
  have hcopied : ∀ value, c.renderTelescope insn value (Chain.oneMore c.config.telescopeDepth)
        (if right.size > 0 then some right.size else none) =
      d.renderTelescope insn value (Chain.oneMore c.config.telescopeDepth)
        (if right.size > 0 then some right.size else none) := by
    intro value
    refine h.renderTelescope hnotes fun hread => ?_
    split
    · exact .number hread ‹_›
    · exact .pointer hread
  simp only [Isa.X86.moveNote, ← h.config, hcopied, h.load hnotes, h.process.peek]

theorem x86AddressNote (h : Alike insn.address c d) (hnotes : c.config.disasmAnnotations = true)
    (left right : Operand) :
    Isa.X86.addressNote c insn left right = Isa.X86.addressNote d insn left right := by
  have hrender : ∀ place, c.renderTelescope insn place c.config.telescopeDepth none =
      d.renderTelescope insn place c.config.telescopeDepth none :=
    fun place => h.renderTelescope hnotes .address
  simp only [Isa.X86.addressNote, ← h.config, hrender]

omit [Emulator σ] in
/-- What is popped comes from the emulator alone. -/
theorem x86PopNote (h : Alike insn.address c d) (dest : Operand) :
    Isa.X86.popNote c insn dest = Isa.X86.popNote d insn dest := by
  simp only [Isa.X86.popNote, Isa.X86.withSymbol, h.emulator, h.stoppedAt_left, h.stoppedAt_right,
    h.process.symbolAt, Bool.false_eq_true, if_false]

theorem x86Note (h : Alike insn.address c d) (hnotes : c.config.disasmAnnotations = true) :
    Isa.X86.note c insn = Isa.X86.note d insn := by
  have hsymbol : Isa.X86.withSymbol c = Isa.X86.withSymbol d := by
    funext value
    simp only [Isa.X86.withSymbol, h.process.symbolAt]
  have hexchange : ∀ left right,
      Isa.X86.exchangeNote c left right = Isa.X86.exchangeNote d left right := by
    intro left right
    simp only [Isa.X86.exchangeNote, h.process.symbolAt]
  have harithmetic : ∀ left right operator,
      Isa.X86.arithmeticNote c left right operator =
        Isa.X86.arithmeticNote d left right operator := by
    intro left right operator
    simp only [Isa.X86.arithmeticNote, hsymbol]
  simp only [Isa.X86.note, h.x86MoveNote hnotes, h.x86AddressNote hnotes, hexchange, h.x86PopNote,
    harithmetic, h.comparison, hsymbol]

/-! ### AArch64 -/

theorem aarch64ReadRegister (h : Alike insn.address c d) (name : String) :
    Isa.Aarch64.readRegister c insn name = Isa.Aarch64.readRegister d insn name := by
  simp only [Isa.Aarch64.readRegister, h.readRegister]

theorem aarch64Address (h : Alike insn.address c d) (operand : Operand)
    (reference : MemoryReference) :
    Isa.Aarch64.address c insn operand reference =
      Isa.Aarch64.address d insn operand reference := by
  simp only [Isa.Aarch64.address, h.aarch64ReadRegister]

theorem aarch64Condition (h : Alike insn.address c d) :
    Isa.Aarch64.condition c insn = Isa.Aarch64.condition d insn := by
  simp only [Isa.Aarch64.condition, Isa.Aarch64.flagsOutcome, h.aarch64ReadRegister]

theorem aarch64BranchTarget (h : Alike insn.address c d) (call : Bool) :
    Isa.Aarch64.branchTarget c insn call = Isa.Aarch64.branchTarget d insn call := by
  simp only [Isa.Aarch64.branchTarget, h.aarch64ReadRegister, h.branchTarget]

theorem aarch64Note (h : Alike insn.address c d) (hnotes : c.config.disasmAnnotations = true) :
    Isa.Aarch64.note c insn = Isa.Aarch64.note d insn := by
  simp only [Isa.Aarch64.note, Isa.Aarch64.loadNote, Isa.Aarch64.storeNote, h.load hnotes, h.store,
    h.comparison, h.registerSet hnotes]

/-! ### ARM -/

theorem armReadRegister (h : Alike insn.address c d) (name : String) :
    Isa.Arm.readRegister c insn name = Isa.Arm.readRegister d insn name := by
  simp only [Isa.Arm.readRegister, h.readRegister]

theorem armAddress (h : Alike insn.address c d) (operand : Operand) (reference : MemoryReference) :
    Isa.Arm.address c insn operand reference = Isa.Arm.address d insn operand reference := by
  simp only [Isa.Arm.address, Isa.Arm.baseValue, h.armReadRegister]

omit [Emulator σ] in
theorem armFlagsRegister (h : Alike insn.address c d) :
    Isa.Arm.flagsRegister c = Isa.Arm.flagsRegister d := by
  simp only [Isa.Arm.flagsRegister, h.machine]

theorem armCondition (h : Alike insn.address c d) :
    Isa.Arm.condition c insn = Isa.Arm.condition d insn := by
  simp only [Isa.Arm.condition, Isa.Arm.flagsOutcome, h.armReadRegister, h.armFlagsRegister]

theorem armNote (h : Alike insn.address c d) (hnotes : c.config.disasmAnnotations = true) :
    Isa.Arm.note c insn = Isa.Arm.note d insn := by
  have hstore : ∀ size, Isa.Arm.storeNote c insn size = Isa.Arm.storeNote d insn size := by
    intro size
    simp only [Isa.Arm.storeNote, h.store]
  simp only [Isa.Arm.note, Isa.Arm.loadNote, hstore, h.load hnotes, h.comparison,
    h.armFlagsRegister, h.registerSet hnotes]

/-! ### MIPS -/

theorem mipsReadRegister (h : Alike insn.address c d) (name : String) :
    Isa.Mips.readRegister c insn name = Isa.Mips.readRegister d insn name := by
  simp only [Isa.Mips.readRegister, h.readRegister]

theorem mipsAddress (h : Alike insn.address c d) (reference : MemoryReference) :
    Isa.Mips.address c insn reference = Isa.Mips.address d insn reference := by
  simp only [Isa.Mips.address, h.mipsReadRegister]

theorem mipsNote (h : Alike insn.address c d) (hnotes : c.config.disasmAnnotations = true) :
    Isa.Mips.note c insn = Isa.Mips.note d insn := by
  simp only [Isa.Mips.note, Isa.Mips.loadNote, h.load hnotes, h.registerSet hnotes]

/-! ### Every architecture -/

variable (isa : Isa)

theorem operandValue (h : Alike insn.address c d) (operand : Operand) :
    isa.operandValue c insn operand = isa.operandValue d insn operand := by
  have hregister : isa.registerValue c insn operand = isa.registerValue d insn operand := by
    cases isa <;>
      simp only [Isa.registerValue, Isa.Aarch64.registerValue, Isa.Arm.registerValue,
        h.x86ReadRegister, h.aarch64ReadRegister, h.armReadRegister, h.mipsReadRegister]
  have haddress : isa.address c insn operand = isa.address d insn operand := by
    cases isa <;>
      simp only [Isa.address, h.x86Address, h.aarch64Address, h.armAddress, h.mipsAddress]
  simp only [Isa.operandValue, hregister, haddress]

theorem condition (h : Alike insn.address c d) :
    isa.condition c insn = isa.condition d insn := by
  cases isa with
  | x86 => exact h.x86Condition
  | aarch64 => exact h.aarch64Condition
  | arm => exact h.armCondition
  | mips => simp only [Isa.condition, Isa.Mips.condition, h.machine]
  | generic => rfl

theorem isaBranchTarget (h : Alike insn.address c d) (call : Bool) :
    isa.branchTarget c insn call = isa.branchTarget d insn call := by
  cases isa with
  | x86 => exact h.x86BranchTarget call
  | aarch64 => exact h.aarch64BranchTarget call
  | arm | mips | generic => exact h.branchTarget call

theorem note (h : Alike insn.address c d) (hnotes : c.config.disasmAnnotations = true) :
    isa.note c insn = isa.note d insn := by
  cases isa with
  | x86 => exact h.x86Note hnotes
  | aarch64 => exact h.aarch64Note hnotes
  | arm => exact h.armNote hnotes
  | mips => exact h.mipsNote hnotes
  | generic => rfl

end CodeWindow.Context.Alike
