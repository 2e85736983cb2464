import CodeWindow.Emulator.Scripted
import CodeWindow.Proofs.Direction
import CodeWindow.Proofs.OperandValues

/-! Instructions whose condition fails. The path goes on right behind them, wherever the emulator
went, with one exception: a return always transfers control, whatever its condition. The taken trait
compares the place at the width of a pointer with the place at full width, so an instruction that
ends at the top of a narrower address space shows a branch that does not happen. -/

namespace CodeWindow

theorem Text.eq_append_of_beforeEnd? {tail text start : String}
    (h : Text.beforeEnd? tail text = some start) : text = start ++ tail := by
  obtain ⟨rest, hrest, rfl⟩ := Option.map_eq_some_iff.mp h
  have hreversed := List.isPrefixOf?_eq_some_iff_append_eq.mp hrest
  rw [← String.toList_inj, String.toList_append, String.toList_ofList,
    ← List.reverse_reverse text.toList, ← hreversed, List.reverse_append, List.reverse_reverse]

/-- A mnemonic is what is left of it without the mark of an encoding's width, and the mark. -/
theorem Instruction.exists_mark (insn : Instruction) :
    ∃ mark ∈ ["", ".w", ".n"], insn.mnemonic = insn.baseMnemonic ++ mark := by
  unfold baseMnemonic
  cases hwide : Text.beforeEnd? ".w" insn.mnemonic with
  | some base => exact ⟨".w", by simp, Text.eq_append_of_beforeEnd? hwide⟩
  | none =>
    cases hnarrow : Text.beforeEnd? ".n" insn.mnemonic with
    | some base => exact ⟨".n", by simp, Text.eq_append_of_beforeEnd? hnarrow⟩
    | none => exact ⟨"", by simp, by simp⟩

namespace Isa

/-- An instruction with this mnemonic may have a condition that fails. The base is the mnemonic
without the mark of an encoding's width. -/
def mayFail (isa : Isa) (base mnemonic : String) : Bool :=
  match isa with
  | x86 => ((X86.conditionSuffix? mnemonic).bind X86.ConditionCode.ofSuffix?).isSome
  | aarch64 =>
    ((Text.afterStart? "b." mnemonic).bind Arm.ConditionCode.ofSuffix?).isSome ||
      ["cbz", "cbnz", "tbz", "tbnz"].contains mnemonic
  | arm =>
    ["cbz", "cbnz"].contains base ||
      match Arm.branchCode? base with
      | some code => code != .always
      | none => false
  | mips =>
    ["beq", "bne", "beqz", "bnez", "bgez", "bgtz", "blez", "bltz"].contains mnemonic
  | generic => false

theorem mayFail_of_unconditional (isa : Isa) (arch : Architecture) :
    ∀ base ∈ arch.unconditionalBranches, ∀ mark ∈ ["", ".w", ".n"],
      isa.mayFail base (base ++ mark) = false := by
  cases isa <;> cases arch <;> decide +kernel

variable {σ : Type} [Emulator σ] {ctx : Context σ} {insn : Instruction}

/-- In every state of the flags, the code that always holds does not fail. -/
theorem Arm.exists_code_of_fails (h : .ofOption (Arm.flagsOutcome ctx insn) = Condition.fails) :
    ∃ code, Arm.branchCode? insn.baseMnemonic = some code ∧ code ≠ .always := by
  unfold flagsOutcome at h
  cases hcode : branchCode? insn.baseMnemonic with
  | none => simp [hcode, Condition.ofOption] at h
  | some code =>
    refine ⟨code, rfl, ?_⟩
    rintro rfl
    cases hflags : readRegister ctx insn (flagsRegister ctx) <;>
      simp [hcode, hflags, Condition.ofOption, Condition.ofBool, ConditionCode.holds] at h

theorem mayFail_of_fails {isa : Isa} (h : isa.condition ctx insn = .fails) :
    isa.mayFail insn.baseMnemonic insn.mnemonic = true := by
  cases isa with
  | x86 =>
    simp only [condition, X86.condition] at h
    simp only [mayFail]
    cases hsuffix : X86.conditionSuffix? insn.mnemonic with
    | none => simp [hsuffix] at h
    | some suffix =>
      cases hcode : X86.ConditionCode.ofSuffix? suffix with
      | none => simp [hsuffix, hcode] at h
      | some code => simp [hcode]
  | aarch64 =>
    simp only [condition, Aarch64.condition] at h
    simp only [mayFail]
    cases hsuffix : Text.afterStart? "b." insn.mnemonic with
    | none =>
      simp only [hsuffix, Aarch64.operandOutcome] at h
      split at h <;> simp_all [Condition.ofOption]
    | some suffix =>
      cases hcode : Arm.ConditionCode.ofSuffix? suffix with
      | none => simp [hsuffix, Aarch64.flagsOutcome, hcode, Condition.ofOption] at h
      | some code => simp [hcode]
  | arm =>
    simp only [condition, Arm.condition] at h
    simp only [mayFail]
    split at h
    · simp_all
    · simp_all
    · split at h
      · obtain ⟨code, hcode, hnever⟩ := Arm.exists_code_of_fails h
        simp [hcode, hnever]
      · contradiction
  | mips =>
    simp only [condition, Mips.condition, Mips.outcome] at h
    simp only [mayFail]
    split at h <;> simp_all [Condition.ofOption]
  | generic => contradiction

end Isa

namespace Enhancement

variable {σ : Type} [Emulator σ]

section

variable (isa : Isa) (ctx : Context σ) {insn : Instruction}

/-- Only calls and returns transfer control where their condition fails. -/
theorem call_or_ret_of_fails (hfails : isa.condition ctx insn = .fails)
    (hjump : insn.isUnconditionalJump = true) :
    insn.hasGroup .call = true ∨ insn.hasGroup .ret = true := by
  by_contra hgroups
  simp only [not_or, Bool.not_eq_true] at hgroups
  simp only [Instruction.isUnconditionalJump, hgroups, Bool.false_or,
    List.contains_iff_mem] at hjump
  obtain ⟨mark, hmark, hmnemonic⟩ := insn.exists_mark
  have hmay := Isa.mayFail_of_fails hfails
  rw [hmnemonic, Isa.mayFail_of_unconditional isa insn.arch _ hjump mark hmark] at hmay
  exact Bool.false_ne_true hmay

/-- Where the condition fails, only a return has a successor of its own. -/
theorem successor?_of_fails (hcondition : insn.condition = .fails)
    (hfails : isa.condition ctx insn = .fails) (jumpPc : Option UInt64) :
    successor? isa ctx insn jumpPc =
      if insn.hasGroup .ret then isa.branchTarget ctx insn false else none := by
  have hreturn : ¬ (isa = .x86 ∧ insn.mnemonic = "ret") := by
    rintro ⟨rfl, hmnemonic⟩
    have hmay := Isa.mayFail_of_fails hfails
    have hnever : Isa.x86.mayFail "ret" "ret" = false := by decide +kernel
    rw [hmnemonic] at hmay
    exact Bool.false_ne_true (hnever.symm.trans hmay)
  have hsuccessor : successor? isa ctx insn jumpPc =
      if insn.isUnconditionalJump then isa.branchTarget ctx insn false else none := by
    simp [successor?, hcondition]
  rw [hsuccessor]
  cases hret : insn.hasGroup .ret with
  | true => simp [Instruction.isUnconditionalJump, hret]
  | false =>
    split
    case isFalse => rfl
    case isTrue hjump =>
      have hcall : insn.hasGroup .call = true := by
        simpa [hret] using call_or_ret_of_fails isa ctx hfails hjump
      have hcallLike : insn.isCallLike = true := by simp [Instruction.isCallLike, hcall]
      exact branchTarget_of_call isa ctx hcallLike hreturn

theorem condition_settled (insn : Instruction) :
    isa.condition ctx (settled isa ctx insn) = isa.condition ctx insn := by
  have htarget : isa.condition ctx (withTarget isa ctx insn) = isa.condition ctx insn := by
    cases isa <;> rfl
  have htargetText : ∀ insn : Instruction,
      isa.condition ctx (withTargetText ctx.process insn) = isa.condition ctx insn := by
    intro insn
    cases isa <;> rfl
  have hnote : ∀ insn : Instruction,
      isa.condition ctx (withNote isa ctx insn) = isa.condition ctx insn := by
    intro insn
    unfold withNote
    split
    · cases isa <;> rfl
    · rfl
  rw [settled, hnote, htargetText, htarget]

theorem settled_condition (insn : Instruction) :
    (settled isa ctx insn).condition = insn.condition := by
  unfold settled withNote
  split <;> rfl

/-- The condition follows from what the instruction shows. -/
theorem conclude_condition_eq (insn : Instruction) (jumpPc : Option UInt64) :
    (conclude isa ctx insn jumpPc).condition =
      isa.condition ctx (conclude isa ctx insn jumpPc) := by
  let shown := mapOperands insn fun operand =>
    { operand with display := displayOf ctx.process operand }
  let directed := withNext isa ctx (withCondition isa ctx shown) jumpPc
  have hconclude : conclude isa ctx insn jumpPc = settled isa ctx directed := rfl
  have hdirected : isa.condition ctx directed = isa.condition ctx shown := by
    cases isa <;> rfl
  rw [hconclude, settled_condition, condition_settled, hdirected]
  rfl

end

/-- Where the condition fails, the emulator does not count, and only a return may lead to another
place than right behind itself. -/
theorem describe_next_of_fails (isa : Isa) (process : Process) (config : Config)
    (insn : Instruction) (entering leaving : Emulation σ) :
    let ctx := contextFor process config insn leaving
    let shown := describe isa process config insn entering leaving
    shown.condition = .fails →
      shown.next = (if insn.hasGroup .ret then isa.branchTarget ctx shown false else none).getD
        insn.fallThrough &&& ctx.machine.pointerMask := by
  intro ctx shown hfails
  have hret : shown.hasGroup .ret = insn.hasGroup .ret :=
    (congrArg (·.hasGroup .ret) (describe_decoded isa process config insn entering leaving) :)
  have hcondition : isa.condition ctx shown = .fails := by
    rw [← hfails]
    exact (conclude_condition_eq isa ctx _ _).symm
  rw [← hret, ← successor?_of_fails isa ctx hfails hcondition leaving.pc?]
  exact describe_next_eq isa process config insn entering leaving

/-- An instruction whose condition fails leads right behind itself unless it is a return that has a
place to go to, and it is shown as taken exactly if the place behind it is beyond the width of a
pointer. -/
theorem enhance_next_eq_iff_of_fails (isa : Isa) (process : Process) (config : Config)
    (insn : Instruction) (emulation : Emulation σ)
    (hfails : (enhance isa process config insn emulation).1.condition = .fails) :
    let enhanced := enhance isa process config insn emulation
    let ctx := contextFor process config insn enhanced.2
    let behind := insn.fallThrough &&& process.machine.pointerMask
    (enhanced.1.next = behind ↔
        (insn.hasGroup .ret = true → ∀ place,
          isa.branchTarget ctx enhanced.1 false = some place →
            place &&& process.machine.pointerMask = behind)) ∧
      (enhanced.1.isConditionalJumpTaken = false ↔
        (insn.isConditionalJump = true → behind = insn.fallThrough)) := by
  intro enhanced ctx behind
  have hshown : enhanced.1.condition = .fails := hfails
  have hnext : enhanced.1.next =
      (if insn.hasGroup .ret then isa.branchTarget ctx enhanced.1 false else none).getD
        insn.fallThrough &&& process.machine.pointerMask :=
    describe_next_of_fails isa process config insn _ _ hfails
  have hdecoded : enhanced.1.decoded = insn.decoded :=
    describe_decoded isa process config insn _ _
  have hjump : enhanced.1.isConditionalJump = insn.isConditionalJump :=
    (congrArg Instruction.isConditionalJump hdecoded :)
  have hfallThrough : enhanced.1.fallThrough = insn.fallThrough :=
    (congrArg Instruction.fallThrough hdecoded :)
  refine ⟨?_, ?_⟩
  · rw [hnext]
    cases insn.hasGroup .ret with
    | false => simp [behind]
    | true => cases isa.branchTarget ctx enhanced.1 false <;> simp [behind]
  · unfold Instruction.isConditionalJumpTaken
    rw [hjump, hfallThrough, hshown]
    cases hconditional : insn.isConditionalJump with
    | false => simp
    | true =>
      have hret : insn.hasGroup .ret = false := by
        simp_all [Instruction.isConditionalJump, Instruction.isUnconditionalJump]
      have hstays : enhanced.1.next = behind := by
        simp only [hnext, hret, Bool.false_eq_true, if_false, Option.getD_none, behind]
      simp [hstays]

/-- The emulator goes elsewhere at a jump whose condition fails, and the jump leads right behind
itself. -/
theorem enhance_jne_next_eq :
    let snapshot : Snapshot := {
      machine := .ofArch .x86_64
      registers := (NameMap.empty.insert "rip" 0x402000).insert "eflags" 0x40
      regions := .empty }
    let jump : Instruction := {
      arch := .x86_64, address := 0x402000, size := 2, mnemonic := "jne", groups := [.jump]
      operands := [{ kind := .immediate 0x402010, size := 8 }] }
    let state : ScriptedEmulator := {
      snapshot, pc := 0x402000
      steps := [{ fails := false, pc := 0x402010, registers := [], regions := [] }] }
    let enhanced := enhance .x86 snapshot.process {} jump (.active state)
    enhanced.2.pc? = some 0x402010 ∧ enhanced.1.condition = .fails ∧
      enhanced.1.next = 0x402002 ∧ enhanced.1.isConditionalJumpTaken = false := by
  intro snapshot jump state enhanced
  have hfails : enhanced.1.condition = .fails := by decide +kernel
  obtain ⟨hnext, htaken⟩ :=
    enhance_next_eq_iff_of_fails .x86 snapshot.process {} jump (.active state) hfails
  have hbehind : jump.fallThrough &&& snapshot.process.machine.pointerMask = 0x402002 := by
    decide +kernel
  have hret : jump.hasGroup .ret = false := by decide +kernel
  refine ⟨by decide +kernel, hfails, (hnext.mpr ?_).trans hbehind, htaken.mpr ?_⟩
  · intro hreturns
    rw [hret] at hreturns
    exact (Bool.false_ne_true hreturns).elim
  · exact fun _ => hbehind

/-- A jump whose condition fails ends at the top of 32-bit addresses and is shown as taken, and a
return whose condition fails leads to where it would return. -/
theorem enhance_failed_shown_as_taken :
    let snapshot32 : Snapshot := {
      machine := .ofArch .i386
      registers := (NameMap.empty.insert "eip" 0xfffffffe).insert "eflags" 0x40
      regions := .empty }
    let jump : Instruction := {
      arch := .i386, address := 0xfffffffe, size := 2, mnemonic := "jne", groups := [.jump]
      operands := [{ kind := .immediate 0x1000, size := 4 }] }
    let shown := (enhance .x86 snapshot32.process {} jump
      (.off : Emulation ScriptedEmulator)).1
    let snapshotArm : Snapshot := {
      machine := .ofArch .arm
      registers := ((NameMap.empty.insert "pc" 0x10000).insert "lr" 0x20000).insert "cpsr" 0
      regions := .empty }
    let ret : Instruction := {
      arch := .arm, mode := .arm, address := 0x10000, size := 4, mnemonic := "bxeq"
      groups := [.jump, .ret], operands := [{ kind := .register "lr" }] }
    let returned := (enhance .arm snapshotArm.process {} ret
      (.off : Emulation ScriptedEmulator)).1
    shown.condition = .fails ∧ shown.next = 0 ∧ shown.isConditionalJumpTaken = true ∧
      returned.condition = .fails ∧ returned.next = 0x20000 ∧
      ret.fallThrough &&& snapshotArm.machine.pointerMask = 0x10004 := by
  intro snapshot32 jump shown snapshotArm ret returned
  exact ⟨by decide +kernel, by decide +kernel, by decide +kernel, by decide +kernel,
    by decide +kernel, by decide +kernel⟩

end Enhancement

end CodeWindow
