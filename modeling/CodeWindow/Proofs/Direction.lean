import CodeWindow.Emulator.Scripted
import CodeWindow.Proofs.ShownPath

/-! Where an enhanced instruction leads. Its successor is its target where its condition holds, or
the place of the emulator that stepped it, or the target that it always transfers control to, or the
place right behind it, whichever of these is known first. A call has no successor but the last. -/

namespace CodeWindow

variable {σ : Type} [Emulator σ]

/-- Where a visited instruction leads, for the instruction that was decoded and the emulation behind
the visit. -/
structure Visit.Directed (isa : Isa) (ctx : Context σ) (insn : Instruction) (after : Emulation σ)
    (visit : Visit σ) : Prop where
  next_le : visit.insn.next ≤ ctx.machine.pointerMask
  target_le : visit.insn.target ≤ ctx.machine.pointerMask
  /-- Calls have targets of their own, too. -/
  target : visit.insn.target =
    ((isa.branchTarget ctx visit.insn true).map (· &&& ctx.machine.pointerMask)).getD
      visit.insn.next
  /-- A call is never stepped, and the path goes on behind it. A return that is reported as a call
  may still go to the address on top of the stack. -/
  call : insn.isCallLike = true → visit.steps = [] ∧ visit.insn.emulated = false ∧
    (¬ (isa = .x86 ∧ insn.mnemonic = "ret") →
      visit.insn.next = insn.fallThrough &&& ctx.machine.pointerMask)
  /-- Where the condition is not known, the path follows the emulator. -/
  emulated : visit.insn.emulated = true → ∃ state next, visit.steps = [state] ∧
    Emulator.step state = .ok next ∧ after = .active next ∧
    (visit.insn.condition = .undetermined →
      visit.insn.next = Emulator.pc next &&& ctx.machine.pointerMask)
  /-- Without the emulator, the path leaves the code behind the instruction only by a transfer of
  control that is known to happen. -/
  static : visit.insn.emulated = false →
    visit.insn.next ≠ insn.fallThrough &&& ctx.machine.pointerMask →
      visit.insn.condition = .holds ∨ visit.insn.isUnconditionalJump = true

theorem and_pointerMask_le (machine : Machine) (place : UInt64) :
    place &&& machine.pointerMask ≤ machine.pointerMask := by
  rw [UInt64.le_iff_toNat_le, UInt64.toNat_and]
  exact Nat.and_le_right

namespace Emulation.Takes

variable {emulation after : Emulation σ} {visit : Visit σ}

theorem of_call (h : emulation.Takes visit after) (hcall : visit.insn.isCallLike = true) :
    visit.steps = [] ∧ visit.insn.emulated = false := by
  cases h with
  | idle hinsn hsteps | refused _ hinsn hsteps => exact ⟨hsteps, hinsn⟩
  | failed _ hblocks | stepped _ hblocks =>
    rw [Instruction.blocksEmulation, hcall, Bool.true_or] at hblocks
    contradiction

theorem of_emulated (h : emulation.Takes visit after) (hemulated : visit.insn.emulated = true) :
    ∃ state next,
      visit.steps = [state] ∧ Emulator.step state = .ok next ∧ after = .active next := by
  cases h with
  | idle hinsn | refused _ hinsn | failed _ _ _ hinsn =>
    rw [hinsn] at hemulated
    contradiction
  | stepped _ _ hstep _ hsteps => exact ⟨_, _, hsteps, hstep, rfl⟩

theorem after_of_not_emulated (h : emulation.Takes visit after)
    (hemulated : visit.insn.emulated = false) : after = .off := by
  cases h with
  | idle | refused | failed => rfl
  | stepped _ _ _ hinsn =>
    rw [hinsn] at hemulated
    contradiction

end Emulation.Takes

namespace Enhancement

section

variable (isa : Isa) (ctx : Context σ) {insn : Instruction}

/-! ### Sources of the successor -/

/-- Where calls do not count, none of the families of architectures has a target for a call. -/
theorem branchTarget_of_call (hcall : insn.isCallLike = true)
    (hreturn : ¬ (isa = .x86 ∧ insn.mnemonic = "ret")) :
    isa.branchTarget ctx insn false = none := by
  have hgeneric : ctx.branchTarget insn false = none := by
    simp only [Context.branchTarget, Context.mayBranch, hcall, Bool.false_eq_true, if_true,
      if_false]
  cases isa with
  | x86 =>
    have hmnemonic : insn.mnemonic ≠ "ret" := fun h => hreturn ⟨rfl, h⟩
    simp [Isa.branchTarget, Isa.X86.branchTarget, hmnemonic, hgeneric]
  | aarch64 => simp [Isa.branchTarget, Isa.Aarch64.branchTarget, Isa.Aarch64.mayBranch, hcall]
  | arm | mips | generic => exact hgeneric

theorem successor?_of_call (hcall : insn.isCallLike = true)
    (hreturn : ¬ (isa = .x86 ∧ insn.mnemonic = "ret")) (jumpPc : Option UInt64) :
    successor? isa ctx insn jumpPc = none := by
  simp [successor?, branchTarget_of_call isa ctx hcall hreturn, hcall]

theorem successor?_of_unknown (hcondition : insn.condition ≠ .holds)
    (hjump : insn.isUnconditionalJump = false) : successor? isa ctx insn none = none := by
  simp [successor?, hcondition, hjump]

end

section

variable (isa : Isa) (process : Process) (config : Config) (insn : Instruction)
  (entering leaving : Emulation σ)

theorem describe_next_eq :
    let ctx := contextFor process config insn leaving
    let shown := describe isa process config insn entering leaving
    shown.next = (successor? isa ctx shown leaving.pc?).getD insn.fallThrough &&&
      ctx.machine.pointerMask := by
  intro ctx shown
  have hfallThrough : ∀ before : Instruction,
      (valuesAfter isa ctx before).fallThrough = before.fallThrough := by
    intro before
    unfold valuesAfter
    split <;> rfl
  have hnext := conclude_next_eq isa ctx (valuesAfter isa ctx
    (if leaving.isActive then
      { valuesBefore isa (contextFor process config insn entering) insn with emulated := true }
    else valuesBefore isa (contextFor process config insn entering) insn)) leaving.pc?
  rw [hfallThrough] at hnext
  cases leaving <;> exact hnext

theorem describe_target_eq :
    let ctx := contextFor process config insn leaving
    let shown := describe isa process config insn entering leaving
    shown.target =
      ((isa.branchTarget ctx shown true).map (· &&& ctx.machine.pointerMask)).getD shown.next :=
  conclude_target_eq isa (contextFor process config insn leaving) _ leaving.pc?

end

/-! ### Visits -/

/-- A visit is directed by the source of its successor, however the emulation took it. -/
theorem directed_of_takes {isa : Isa} {ctx : Context σ} {insn : Instruction} {visit : Visit σ}
    {emulation after : Emulation σ} (htakes : emulation.Takes visit after)
    (hcode : ∃ emulated, visit.insn.SameCode { insn with emulated })
    (hnext : visit.insn.next = (successor? isa ctx visit.insn after.pc?).getD insn.fallThrough &&&
      ctx.machine.pointerMask)
    (htarget : visit.insn.target =
      ((isa.branchTarget ctx visit.insn true).map (· &&& ctx.machine.pointerMask)).getD
        visit.insn.next) :
    visit.Directed isa ctx insn after := by
  obtain ⟨emulated, hcode⟩ := hcode
  have hle : visit.insn.next ≤ ctx.machine.pointerMask := hnext ▸ and_pointerMask_le _ _
  constructor
  case next_le => exact hle
  case target_le =>
    rw [htarget]
    cases isa.branchTarget ctx visit.insn true with
    | none => exact hle
    | some place => exact and_pointerMask_le _ _
  case target => exact htarget
  case call =>
    intro hcall
    have hcalls : visit.insn.isCallLike = true := hcode.isCallLike.trans hcall
    obtain ⟨hsteps, hemulated⟩ := htakes.of_call hcalls
    refine ⟨hsteps, hemulated, fun hreturn => ?_⟩
    rw [← show visit.insn.mnemonic = insn.mnemonic from hcode.mnemonic] at hreturn
    rw [hnext, successor?_of_call isa ctx hcalls hreturn, Option.getD_none]
  case emulated =>
    intro hemulated
    obtain ⟨state, next, hsteps, hstep, rfl⟩ := htakes.of_emulated hemulated
    refine ⟨state, next, hsteps, hstep, rfl, fun hcondition => ?_⟩
    have hcall : visit.insn.isCallLike = false := by
      by_contra hcall
      rw [Bool.not_eq_false] at hcall
      rw [(htakes.of_call hcall).1] at hsteps
      contradiction
    have hpc? : (Emulation.active next).pc? = some (Emulator.pc next) := rfl
    rw [hnext, hpc?, successor?_of_not_call isa ctx hcall, hcondition, Option.getD_some]
  case static =>
    intro hemulated hleaves
    by_contra hknown
    rw [not_or, Bool.not_eq_true] at hknown
    obtain rfl := htakes.after_of_not_emulated hemulated
    have hpc? : (Emulation.off : Emulation σ).pc? = none := rfl
    rw [hnext, hpc?, successor?_of_unknown isa ctx hknown.1 hknown.2] at hleaves
    exact hleaves rfl

/-- An instruction that was just decoded is directed by its condition, by the emulator and by its
own target, in this order, and a call by none of them. -/
theorem enhance_directed (isa : Isa) (process : Process) (config : Config) {insn : Instruction}
    (hfresh : insn.emulated = false) (emulation : Emulation σ) :
    let recorded := enhanceRecorded isa process config insn emulation
    enhance isa process config insn emulation = (recorded.1.insn, recorded.2) ∧
      recorded.1.Directed isa (contextFor process config insn recorded.2) insn recorded.2 := by
  intro recorded
  have htakes := enhanceRecorded_takes isa process config hfresh emulation
  refine ⟨enhance_eq_recorded isa process config insn emulation, ?_⟩
  refine directed_of_takes htakes ⟨_, describe_sameCode isa process config insn _ _⟩ ?_ ?_
  · exact describe_next_eq isa process config insn _ _
  · exact describe_target_eq isa process config insn _ _

/-- The process is stopped at a jump whose condition it does not know, and the emulator jumps. It
stands at a call behind the jump, which is passed over. -/
theorem enhance_jump_call_directed :
    let snapshot : Snapshot := {
      machine := .ofArch .x86_64
      registers := NameMap.empty.insert "rip" 0x402000
      regions := .empty }
    let jump : Instruction := {
      arch := .x86_64, address := 0x402000, size := 2, mnemonic := "jne", groups := [.jump]
      operands := [{ kind := .immediate 0x402010, size := 8 }] }
    let call : Instruction := {
      arch := .x86_64, address := 0x402010, size := 5, mnemonic := "call", groups := [.call]
      operands := [{ kind := .immediate 0x403000, size := 8 }] }
    let state : ScriptedEmulator := {
      snapshot, pc := 0x402000
      steps := [{ fails := false, pc := 0x402010, registers := [], regions := [] }] }
    let jumped := enhanceRecorded .x86 snapshot.process {} jump (.active state)
    let called := enhanceRecorded .x86 snapshot.process {} call jumped.2
    jump.emulated = false ∧ call.emulated = false ∧
      jumped.1.insn.emulated = true ∧ jumped.1.insn.condition = .undetermined ∧
      jumped.1.insn.next = 0x402010 ∧ called.1.insn.next = 0x402015 ∧
      called.1.insn.target = 0x403000 ∧
      jumped.1.Directed .x86 (contextFor snapshot.process {} jump jumped.2) jump jumped.2 ∧
      called.1.Directed .x86 (contextFor snapshot.process {} call called.2) call called.2 := by
  intro snapshot jump call state jumped called
  exact ⟨rfl, rfl, by decide +kernel, by decide +kernel, by decide +kernel, by decide +kernel,
    by decide +kernel, (enhance_directed .x86 snapshot.process {} rfl (.active state)).2,
    (enhance_directed .x86 snapshot.process {} rfl jumped.2).2⟩

end Enhancement

end CodeWindow
