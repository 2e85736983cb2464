import CodeWindow.Proofs.EmulatedWalk
import CodeWindow.Proofs.Withheld

/-! The path that a window shows, and the successor that each of its instructions shows. A window
goes on where the emulator stands. An instruction that the emulator stepped shows the emulator's
place only while its condition is not known, and only at the width of a pointer. -/

namespace CodeWindow

/-- The successor of an instruction that an emulator steps to a place. -/
def Instruction.nextBehind (machine : Machine) (insn : Instruction) (place : UInt64) : UInt64 :=
  match insn.condition with
  | .undetermined => place &&& machine.pointerMask
  | .holds => insn.target
  | .fails =>
    if insn.isUnconditionalJump then insn.target else insn.fallThrough &&& machine.pointerMask

variable {σ : Type} [Emulator σ]

namespace Enhancement

section

variable (isa : Isa) (ctx : Context σ) {insn : Instruction}

theorem branchTarget_of_not_call (hcall : insn.isCallLike = false) :
    isa.branchTarget ctx insn true = isa.branchTarget ctx insn false := by
  have hgeneric : ctx.branchTarget insn true = ctx.branchTarget insn false := by
    simp only [Context.branchTarget, Context.mayBranch, hcall, Bool.false_eq_true, if_false]
  cases isa with
  | x86 => simp only [Isa.branchTarget, Isa.X86.branchTarget, hgeneric]
  | aarch64 =>
    simp only [Isa.branchTarget, Isa.Aarch64.branchTarget, Isa.Aarch64.mayBranch, hcall, hgeneric,
      Bool.not_false, Bool.true_or]
  | arm | mips | generic => exact hgeneric

theorem successor?_of_not_call (hcall : insn.isCallLike = false) (pc : UInt64) :
    successor? isa ctx insn (some pc) =
      match insn.condition with
      | .undetermined => some pc
      | .holds => some ((isa.branchTarget ctx insn true).getD pc)
      | .fails => if insn.isUnconditionalJump then isa.branchTarget ctx insn true else none := by
  rw [branchTarget_of_not_call isa ctx hcall]
  unfold successor?
  cases insn.condition with
  | undetermined => simp [hcall]
  | holds => cases isa.branchTarget ctx insn false <;> simp [hcall]
  | fails => simp

/-! ### What the instruction shows -/

theorem settled_next (insn : Instruction) : (settled isa ctx insn).next = insn.next := by
  rw [settled, withNote]
  split <;> rfl

theorem settled_fallThrough (insn : Instruction) :
    (settled isa ctx insn).fallThrough = insn.fallThrough := by
  rw [settled, withNote]
  split <;> rfl

theorem branchTarget_withNext (insn : Instruction) (jumpPc : Option UInt64) (call : Bool) :
    isa.branchTarget ctx (withNext isa ctx insn jumpPc) call = isa.branchTarget ctx insn call := by
  cases isa <;> rfl

theorem successor?_withNext (insn : Instruction) (jumpPc : Option UInt64) :
    successor? isa ctx (withNext isa ctx insn jumpPc) jumpPc = successor? isa ctx insn jumpPc := by
  have hkept : (withNext isa ctx insn jumpPc).condition = insn.condition ∧
      (withNext isa ctx insn jumpPc).isCallLike = insn.isCallLike ∧
      (withNext isa ctx insn jumpPc).isUnconditionalJump = insn.isUnconditionalJump :=
    ⟨rfl, rfl, rfl⟩
  simp only [successor?, branchTarget_withNext, hkept]

theorem successor?_settled (insn : Instruction) (jumpPc : Option UInt64) :
    successor? isa ctx (settled isa ctx insn) jumpPc = successor? isa ctx insn jumpPc := by
  have hkept : (settled isa ctx insn).condition = insn.condition ∧
      (settled isa ctx insn).isCallLike = insn.isCallLike ∧
      (settled isa ctx insn).isUnconditionalJump = insn.isUnconditionalJump := by
    rw [settled, withNote]
    split <;> exact ⟨rfl, rfl, rfl⟩
  simp only [successor?, branchTarget_settled, hkept]

variable (insn) (jumpPc : Option UInt64)

theorem conclude_fallThrough : (conclude isa ctx insn jumpPc).fallThrough = insn.fallThrough :=
  settled_fallThrough isa ctx (withNext isa ctx (withCondition isa ctx
    (mapOperands insn fun operand =>
      { operand with display := displayOf ctx.process operand })) jumpPc)

/-- The successor follows from what the instruction shows. -/
theorem conclude_next_eq :
    (conclude isa ctx insn jumpPc).next =
      (successor? isa ctx (conclude isa ctx insn jumpPc) jumpPc).getD insn.fallThrough &&&
        ctx.machine.pointerMask := by
  let conditioned := withCondition isa ctx (mapOperands insn fun operand =>
    { operand with display := displayOf ctx.process operand })
  have hconclude : conclude isa ctx insn jumpPc =
      settled isa ctx (withNext isa ctx conditioned jumpPc) := rfl
  rw [hconclude, successor?_settled, successor?_withNext, settled_next]
  rfl

/-- So does the target. -/
theorem conclude_target_eq :
    (conclude isa ctx insn jumpPc).target =
      ((isa.branchTarget ctx (conclude isa ctx insn jumpPc) true).map
        (· &&& ctx.machine.pointerMask)).getD (conclude isa ctx insn jumpPc).next := by
  let directed := withNext isa ctx (withCondition isa ctx (mapOperands insn fun operand =>
    { operand with display := displayOf ctx.process operand })) jumpPc
  have htarget := congrArg Instruction.target
    (settled_of_path isa ctx directed directed.emulated directed.next)
  have hconclude : conclude isa ctx insn jumpPc = settled isa ctx directed := rfl
  rw [hconclude, branchTarget_settled, settled_next]
  exact htarget

/-- A condition that is known leads to the target or right behind the instruction, wherever the
emulator went. -/
theorem conclude_next (insn : Instruction) (pc : UInt64)
    (hcall : (conclude isa ctx insn (some pc)).isCallLike = false) :
    (conclude isa ctx insn (some pc)).next =
      (conclude isa ctx insn (some pc)).nextBehind ctx.machine pc := by
  have hnext := conclude_next_eq isa ctx insn (some pc)
  have htarget := conclude_target_eq isa ctx insn (some pc)
  rw [← conclude_fallThrough isa ctx insn (some pc), successor?_of_not_call isa ctx hcall] at hnext
  generalize conclude isa ctx insn (some pc) = shown at hnext htarget hcall
  unfold Instruction.nextBehind
  cases hcondition : shown.condition with
  | undetermined => simpa only [hcondition, Option.getD_some] using hnext
  | holds =>
    simp only [hcondition] at hnext
    rw [htarget]
    cases hplace : isa.branchTarget ctx shown true with
    -- Without a target of its own, the instruction has its successor as its target.
    | none => simp only [Option.map_none, Option.getD_none]
    | some place => simpa only [hplace, Option.map_some, Option.getD_some] using hnext
  | fails =>
    simp only [hcondition] at hnext
    cases hjump : shown.isUnconditionalJump with
    | false => simpa [hjump] using hnext
    | true =>
      rw [htarget]
      cases hplace : isa.branchTarget ctx shown true with
      | none => simp
      | some place => simpa [hjump, hplace] using hnext

end

theorem enhanceRecorded_nextBehind {isa : Isa} {process : Process} {config : Config}
    {insn : Instruction} {emulation : Emulation σ} {visit : Visit σ} {next : σ}
    (h : enhanceRecorded isa process config insn emulation = (visit, .active next))
    (hcall : visit.insn.isCallLike = false) :
    visit.insn.next = visit.insn.nextBehind process.machine (Emulator.pc next) := by
  have hleaving : (emulation.readyFor insn).stepRecorded.1 = .active next := congrArg Prod.snd h
  obtain rfl : _ = visit := congrArg Prod.fst h
  simp only [enhanceRecorded, hleaving] at hcall ⊢
  exact conclude_next isa (contextFor process config insn (.active next)) _ _ hcall

end Enhancement

/-- How a window goes on behind a visit. -/
inductive Visit.Follows (machine : Machine) : Visit σ → Visit σ → Prop
  /-- No emulator stepped the instruction, and the window follows its successor. -/
  | static {visit after : Visit σ} (hinsn : visit.insn.emulated = false)
      (haddress : after.insn.address = visit.insn.next) : Follows machine visit after
  /-- The window follows the emulator that stepped the instruction. -/
  | emulated {visit after : Visit σ} {state next : σ} (hinsn : visit.insn.emulated = true)
      (hsteps : visit.steps = [state]) (hstep : Emulator.step state = .ok next)
      (haddress : after.insn.address = Emulator.pc next)
      (hnext : visit.insn.next = visit.insn.nextBehind machine (Emulator.pc next)) :
      Follows machine visit after

namespace Session

variable {session behind : Session} {disassembler : Disassembler} {process : Process}
  {address : UInt64}

theorem visitRecorded_follows {emulation remaining : Emulation σ} {visit : Visit σ}
    (h : session.visitRecorded disassembler process address emulation =
      (some visit, remaining, behind)) :
    ∀ after : Visit σ,
      after.insn.address = (remaining.past visit.insn).pc?.getD visit.insn.next →
        visit.Follows process.machine after := by
  intro after haddress
  obtain ⟨htakes, -⟩ := visitRecorded_takes h
  rw [htakes.past_eq] at haddress
  cases htakes with
  | idle hinsn | refused _ hinsn | failed _ _ _ hinsn => exact .static hinsn haddress
  | @stepped state next _ hpc hblocks hstep hinsn hsteps =>
    refine .emulated hinsn hsteps hstep haddress ?_
    have hcall : visit.insn.isCallLike = false := by
      simp only [Instruction.blocksEmulation, Bool.or_eq_false_iff] at hblocks
      exact hblocks.1
    obtain ⟨decoded, -, hvisit⟩ := found_of_visitRecorded h
    exact Enhancement.enhanceRecorded_nextBehind hvisit hcall

/-- A walk goes on behind each of its visits as it did behind the first. -/
theorem walkRecorded_follows (disassembler : Disassembler) (process : Process) (count : Nat)
    {last : Visit σ} {emulation : Emulation σ}
    (hlast : ∀ after : Visit σ,
      after.insn.address = (emulation.past last.insn).pc?.getD last.insn.next →
        last.Follows process.machine after) (session : Session) :
    (last :: (walkRecorded disassembler process count last.insn emulation session).1).IsChain
      (Visit.Follows process.machine) := by
  induction count generalizing last emulation session with
  | zero => exact .singleton last
  | succ count ih =>
    simp only [walkRecorded]
    rcases hvisit : session.visitRecorded disassembler process
      ((emulation.past last.insn).pc?.getD last.insn.next) (emulation.past last.insn)
      with ⟨_ | visit, remaining, behind⟩
    · exact .singleton last
    · obtain ⟨-, haddress⟩ := visitRecorded_takes hvisit
      exact .cons_cons (hlast visit haddress) (ih (visitRecorded_follows hvisit) behind)

theorem assemble_follows (session : Session) (host : Host σ) (process : Process)
    (request : WindowRequest) :
    (session.assemble host process request).1.visits.IsChain (Visit.Follows process.machine) := by
  unfold assemble
  generalize session.startEmulation host process request = start
  obtain ⟨emulation, session⟩ := start
  simp only
  rcases hvisit : session.visitRecorded host.disassembler process request.address emulation with
    ⟨_ | current, remaining, behind⟩
  · exact .nil
  · exact walkRecorded_follows host.disassembler process _ (visitRecorded_follows hvisit) _

/-- A window goes on where the emulator stands that stepped an instruction. That is the successor
that the instruction shows exactly if neither its condition nor the width of a pointer overrides
the emulator there. -/
theorem near_next_eq_iff (session : Session) (host : Host σ) (process : Process)
    (request : WindowRequest) :
    let assembly := (session.assemble host process request).1
    let window := (session.near host process request).1
    let shown := window.drop assembly.earlier.length
    window = (collapse assembly.insns.reverse).reverse ∧
      assembly.visits.IsChain (Visit.Follows process.machine) ∧
      shown <+: assembly.visits.map Visit.insn ∧
      shown.IsChain fun insn after => insn.emulated = true →
        (after.address = insn.next ↔
          insn.nextBehind process.machine after.address = after.address) := by
  intro assembly window shown
  have hfollows := session.assemble_follows host process request
  obtain ⟨hnear, hled⟩ := session.near_ledWindow host process request
  refine ⟨congrArg Prod.fst hnear, hfollows, hled.shown, List.IsChain.prefix ?_ hled.shown⟩
  rw [List.isChain_map]
  refine hfollows.imp ?_
  intro visit after hafter hemulated
  cases hafter with
  | static hinsn => simp only [hinsn, Bool.false_eq_true] at hemulated
  | emulated _ _ _ haddress hnext =>
    rw [hnext, haddress]
    exact eq_comm

/-- The condition of a branch fails, and the emulator steps over the branch and its delay slot at
once. The branch shows the delay slot as its successor, and the window goes on behind it. -/
theorem near_skips_delay_slot :
    let snapshot : Snapshot := {
      machine := .ofArch .mips
      registers := ((NameMap.empty.insert "pc" 0x10000).insert "a0" 5).insert "a1" 6
      regions := AddressMap.empty.insert 0x10000 {
        start := 0x10000, data := List.replicate 32 0, readable := true, writable := false
        executable := true, objfile := "" } }
    let host : Host ScriptedEmulator := {
      disassembler := fun _ _ address =>
        if address = 0x10000 then some {
          size := 4, mnemonic := "beq", operandText := "", groups := [7, 1]
          operands := [{ kind := .register "a0" }, { kind := .register "a1" },
            { kind := .immediate 0x10010 }] }
        else some { size := 4, mnemonic := "nop", operandText := "", groups := [], operands := [] }
      factory := some {
        supports := fun _ => true
        create := fun _ => .ok {
          snapshot, pc := 0x10000
          steps := [
            { fails := false, pc := 0x10008, registers := [], regions := [] },
            { fails := false, pc := 0x1000c, registers := [], regions := [] }] } } }
    let request : WindowRequest := {
      address := 0x10000, count := 1, emulate := true, history := false }
    let window := ((start {}).near host snapshot.process request).1
    window.map Instruction.address = [0x10000, 0x10008, 0x1000c] ∧
      window.map Instruction.emulated = [true, true, false] ∧
      window.map Instruction.condition = [.fails, .undetermined, .undetermined] ∧
      window.map Instruction.next = [0x10004, 0x1000c, 0x10010] ∧
      ¬ window.IsChain fun insn after => insn.emulated = true → after.address = insn.next := by
  intro snapshot host request window
  exact ⟨by decide +kernel, by decide +kernel, by decide +kernel, by decide +kernel,
    by decide +kernel⟩

end Session

end CodeWindow
