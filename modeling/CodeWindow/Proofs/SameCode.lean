import CodeWindow.Enhancement

/-! What enhancement leaves as it is: an instruction keeps its architecture, address, mnemonic and
groups, and with them whether an emulator may step it. -/

namespace CodeWindow

/-- The same code: enhancement finds out other things about an instruction, but not about these. -/
structure Instruction.SameCode (insn other : Instruction) : Prop where
  arch : insn.arch = other.arch
  address : insn.address = other.address
  mnemonic : insn.mnemonic = other.mnemonic
  groups : insn.groups = other.groups
  emulated : insn.emulated = other.emulated

namespace Instruction.SameCode

theorem symm {insn other : Instruction} (h : insn.SameCode other) : other.SameCode insn where
  arch := h.arch.symm
  address := h.address.symm
  mnemonic := h.mnemonic.symm
  groups := h.groups.symm
  emulated := h.emulated.symm

theorem trans {first second third : Instruction} (h : first.SameCode second)
    (h' : second.SameCode third) : first.SameCode third where
  arch := h.arch.trans h'.arch
  address := h.address.trans h'.address
  mnemonic := h.mnemonic.trans h'.mnemonic
  groups := h.groups.trans h'.groups
  emulated := h.emulated.trans h'.emulated

theorem isCallLike {insn other : Instruction} (h : insn.SameCode other) :
    insn.isCallLike = other.isCallLike := by
  simp only [Instruction.isCallLike, hasGroup, h.arch, h.mnemonic, h.groups]

theorem blocksEmulation {insn other : Instruction} (h : insn.SameCode other) :
    insn.blocksEmulation = other.blocksEmulation := by
  simp only [Instruction.blocksEmulation, h.isCallLike, h.groups]

end Instruction.SameCode

variable {σ : Type} [Emulator σ]

namespace Enhancement

theorem valuesBefore_sameCode (isa : Isa) (ctx : Context σ) (insn : Instruction) :
    (valuesBefore isa ctx insn).SameCode insn := ⟨rfl, rfl, rfl, rfl, rfl⟩

theorem valuesAfter_sameCode (isa : Isa) (ctx : Context σ) (insn : Instruction) :
    (valuesAfter isa ctx insn).SameCode insn := by
  unfold valuesAfter
  split <;> exact ⟨rfl, rfl, rfl, rfl, rfl⟩

theorem withNote_sameCode (isa : Isa) (ctx : Context σ) (insn : Instruction) :
    (withNote isa ctx insn).SameCode insn := by
  unfold withNote
  split <;> exact ⟨rfl, rfl, rfl, rfl, rfl⟩

theorem withTargetText_sameCode (process : Process) (insn : Instruction) :
    (withTargetText process insn).SameCode insn := ⟨rfl, rfl, rfl, rfl, rfl⟩

theorem withTarget_sameCode (isa : Isa) (ctx : Context σ) (insn : Instruction) :
    (withTarget isa ctx insn).SameCode insn := ⟨rfl, rfl, rfl, rfl, rfl⟩

theorem withNext_sameCode (isa : Isa) (ctx : Context σ) (insn : Instruction)
    (jumpPc : Option UInt64) : (withNext isa ctx insn jumpPc).SameCode insn :=
  ⟨rfl, rfl, rfl, rfl, rfl⟩

theorem conclude_sameCode (isa : Isa) (ctx : Context σ) (insn : Instruction)
    (jumpPc : Option UInt64) : (conclude isa ctx insn jumpPc).SameCode insn := by
  unfold conclude
  refine (withNote_sameCode isa ctx _).trans ?_
  refine (withTargetText_sameCode ctx.process _).trans ?_
  refine (withTarget_sameCode isa ctx _).trans ?_
  refine (withNext_sameCode isa ctx _ jumpPc).trans ?_
  exact ⟨rfl, rfl, rfl, rfl, rfl⟩

theorem operands_conclude (isa : Isa) (ctx : Context σ) (insn : Instruction)
    (jumpPc : Option UInt64) :
    (conclude isa ctx insn jumpPc).operands =
      insn.operands.map fun operand =>
        { operand with display := displayOf ctx.process operand } := by
  unfold conclude withNote
  split <;> rfl

/-- An instruction is emulated when the emulation leaves it. -/
theorem describe_sameCode (isa : Isa) (process : Process) (config : Config) (insn : Instruction)
    (entering leaving : Emulation σ) :
    (describe isa process config insn entering leaving).SameCode
      { insn with emulated := leaving.isActive || insn.emulated } := by
  refine (conclude_sameCode _ _ _ _).trans ((valuesAfter_sameCode _ _ _).trans ?_)
  cases leaving with
  | off => exact ⟨rfl, rfl, rfl, rfl, rfl⟩
  | active state => exact ⟨rfl, rfl, rfl, rfl, rfl⟩

end Enhancement

end CodeWindow
