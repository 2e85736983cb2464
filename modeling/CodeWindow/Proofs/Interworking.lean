import CodeWindow.Proofs.BranchOperand
import CodeWindow.Proofs.Direction
import CodeWindow.Proofs.OperandValues
import CodeWindow.Proofs.WordBits

/-! Successors that a program counter can hold. ARM code lies at even addresses; the lowest bit of
the operand of an interworking branch selects Thumb code and is no part of the address. Here the
operand of a branch is its target as it is, so a successor is even as far as operands are. -/

namespace CodeWindow

/-- A scan from the right ends at the last entry that gives something. -/
theorem findSome?_reverse_eq_some_iff {α β : Type} {f : α → Option β} {items : List α} {b : β} :
    items.reverse.findSome? f = some b ↔
      ∃ earlier a later, items = earlier ++ a :: later ∧ f a = some b ∧
        ∀ other ∈ later, f other = none := by
  rw [List.findSome?_eq_some_iff]
  constructor
  · rintro ⟨later, a, earlier, hreverse, hfound, hlater⟩
    refine ⟨earlier.reverse, a, later.reverse, ?_, hfound, ?_⟩
    · simpa using congrArg List.reverse hreverse
    · simpa using hlater
  · rintro ⟨earlier, a, later, rfl, hfound, hlater⟩
    refine ⟨later.reverse, a, earlier.reverse, ?_, hfound, ?_⟩
    · simp
    · simpa using hlater

variable {σ : Type} [Emulator σ]

namespace Context

section

variable (ctx : Context σ) (insn : Instruction)

/-- A branch takes its target from an operand: the only one, or the rightmost that leads to code. -/
inductive TakesFrom (operand : Operand) : Prop where
  | only (hoperands : insn.operands = [operand])
  | rightmost {earlier later : List Operand} (hcount : insn.operands.length ≠ 1)
      (hoperands : insn.operands = earlier ++ operand :: later)
      (hcode : (ctx.codeOperand? insn operand).isSome = true)
      (hlater : ∀ other ∈ later, ctx.codeOperand? insn other = none)

/-- An instruction is known to go to what an operand holds. -/
structure GoesBy (operand : Operand) : Prop where
  happens : insn.condition = .holds ∨ insn.isUnconditionalJump = true
  branches : mayBranch insn false = true
  takes : ctx.TakesFrom insn operand

end

variable {ctx : Context σ} {insn : Instruction} {operand : Operand} {place : UInt64}

/-- Of the instruction, only its address counts for the value that it uses of an operand. -/
theorem usedValue_congr {other : Instruction} (haddress : other.address = insn.address)
    (operand : Operand) (value : Option UInt64) :
    ctx.usedValue other operand value = ctx.usedValue insn operand value := by
  have hread : ctx.readMemory other = ctx.readMemory insn := by
    funext place size
    unfold readMemory telescope stoppedAt
    rw [haddress]
  unfold usedValue
  rw [hread]

theorem TakesFrom.mem (h : ctx.TakesFrom insn operand) : operand ∈ insn.operands := by
  cases h with
  | only hoperands => simp [hoperands]
  | rightmost _ hoperands => simp [hoperands]

theorem codeOperand?_eq_some (h : ctx.codeOperand? insn operand = some place) :
    (ctx.usedNonzero insn operand).map (· &&& ctx.machine.pointerMask) = some place := by
  rw [codeOperand?_eq] at h
  exact (Option.filter_eq_some_iff.mp h).1

theorem branchTarget_eq_some_iff {call : Bool} :
    ctx.branchTarget insn call = some place ↔
      mayBranch insn call = true ∧ ∃ operand, ctx.TakesFrom insn operand ∧
        (ctx.usedNonzero insn operand).map (· &&& ctx.machine.pointerMask) = some place := by
  by_cases hmay : mayBranch insn call = true
  swap
  · simp [branchTarget, hmay]
  rw [and_iff_right hmay]
  -- The only operand counts whether it leads to code or not.
  by_cases hcount : insn.operands.length = 1
  · obtain ⟨operand, hoperands⟩ := List.length_eq_one_iff.mp hcount
    have htarget : ctx.branchTarget insn call =
        (ctx.usedNonzero insn operand).map (· &&& ctx.machine.pointerMask) := by
      rw [branchTarget, if_pos hmay, hoperands]
    rw [htarget]
    constructor
    · intro hplace
      exact ⟨operand, .only hoperands, hplace⟩
    · rintro ⟨other, ⟨hother⟩ | ⟨hnot, -, -, -⟩, hplace⟩
      · rw [hoperands] at hother
        rwa [← List.singleton_inj.mp hother] at hplace
      · exact absurd hcount hnot
  · rw [branchTarget_eq_findSome? hmay hcount, findSome?_reverse_eq_some_iff]
    constructor
    · rintro ⟨earlier, operand, later, hoperands, hcode, hlater⟩
      exact ⟨operand, .rightmost hcount hoperands (by rw [hcode]; rfl) hlater,
        codeOperand?_eq_some hcode⟩
    · rintro ⟨operand, ⟨hoperands⟩ | ⟨-, hoperands, hcode, hlater⟩, hplace⟩
      · exact absurd (congrArg List.length hoperands) hcount
      · obtain ⟨code, hcode⟩ := Option.isSome_iff_exists.mp hcode
        obtain rfl : code = place :=
          Option.some.inj ((codeOperand?_eq_some hcode).symm.trans hplace)
        exact ⟨_, operand, _, hoperands, hcode, hlater⟩

end Context

namespace Enhancement

section

variable (isa : Isa) (ctx : Context σ)

theorem successor?_none (insn : Instruction) :
    successor? isa ctx insn none =
      if insn.condition = .holds ∨ insn.isUnconditionalJump = true then
        isa.branchTarget ctx insn false
      else none := by
  unfold successor?
  cases insn.condition <;> cases insn.isUnconditionalJump <;>
    cases isa.branchTarget ctx insn false <;> simp

end

section

variable (isa : Isa) (process : Process) (config : Config) (insn : Instruction)

theorem enhance_off_next_eq :
    let ctx := contextOff σ process config
    let shown := (enhance isa process config insn (.off : Emulation σ)).1
    shown.next =
      (successor? isa ctx shown none).getD insn.fallThrough &&& ctx.machine.pointerMask := by
  have hnext := describe_next_eq isa process config insn (.off : Emulation σ) .off
  rw [contextFor_off] at hnext
  exact hnext

/-- Without an emulator, the value that an instruction uses of an operand is shown with it. -/
theorem usedValue_enhance_off {operand : Operand}
    (h : operand ∈ (enhance isa process config insn (.off : Emulation σ)).1.operands) :
    (contextOff σ process config).usedValue (enhance isa process config insn (.off : Emulation σ)).1
      operand operand.beforeValue = operand.beforeResolved := by
  have hoperands := describe_operands isa process config insn (.off : Emulation σ) .off
  have hcode := describe_sameCode isa process config insn (.off : Emulation σ) .off
  rw [contextFor_off] at hoperands
  obtain ⟨decoded, -, rfl⟩ := List.mem_map.mp (hoperands ▸ h)
  exact Context.usedValue_congr hcode.address decoded _

end

variable {process : Process} {config : Config} {insn : Instruction}

/-- Where an instruction goes by an operand, it leads to what the operand holds. -/
theorem successor?_enhance_off_eq_some_iff {place : UInt64} :
    let ctx := contextOff σ process config
    let shown := (enhance .arm process config insn (.off : Emulation σ)).1
    successor? .arm ctx shown none = some place ↔
      ∃ operand value, ctx.GoesBy shown operand ∧ operand.beforeResolved = some value ∧
        value ≠ 0 ∧ value &&& ctx.machine.pointerMask = place := by
  intro ctx shown
  have hused : ∀ operand, ctx.TakesFrom shown operand →
      ((ctx.usedNonzero shown operand).map (· &&& ctx.machine.pointerMask) = some place ↔
        ∃ value, operand.beforeResolved = some value ∧ value ≠ 0 ∧
          value &&& ctx.machine.pointerMask = place) := by
    intro operand htakes
    rw [Context.usedNonzero, usedValue_enhance_off .arm process config insn htakes.mem]
    simp [Option.filter_eq_some_iff, and_assoc]
  have htarget : Isa.arm.branchTarget ctx shown false = ctx.branchTarget shown false := rfl
  rw [successor?_none, htarget]
  constructor
  · intro hplace
    split at hplace
    case isTrue happens =>
      obtain ⟨hmay, operand, htakes, hplace⟩ := Context.branchTarget_eq_some_iff.mp hplace
      obtain ⟨value, hvalue⟩ := (hused operand htakes).mp hplace
      exact ⟨operand, value, ⟨happens, hmay, htakes⟩, hvalue⟩
    case isFalse => contradiction
  · rintro ⟨operand, value, ⟨happens, hmay, htakes⟩, hvalue⟩
    rw [if_pos happens]
    exact Context.branchTarget_eq_some_iff.mpr
      ⟨hmay, operand, htakes, (hused operand htakes).mpr ⟨value, hvalue⟩⟩

/-- Without an emulator, the successor of an instruction of even length at an even address is even
exactly if the operand that the instruction goes by, if any, holds an even value. -/
theorem enhance_next_even_iff (process : Process) (config : Config) {insn : Instruction}
    (haddress : 2 ∣ insn.address.toNat) (hsize : 2 ∣ insn.size.toNat) :
    let shown := (enhance .arm process config insn (.off : Emulation σ)).1
    2 ∣ shown.next.toNat ↔
      ∀ operand value, (contextOff σ process config).GoesBy shown operand →
        operand.beforeResolved = some value →
          2 ∣ (value &&& process.machine.pointerMask).toNat := by
  intro shown
  have hnext : shown.next =
      (successor? .arm (contextOff σ process config) shown none).getD insn.fallThrough &&&
        process.machine.pointerMask :=
    enhance_off_next_eq .arm process config insn
  have hmasked : ∀ value : UInt64, value &&& process.machine.pointerMask &&&
      process.machine.pointerMask = value &&& process.machine.pointerMask := by
    intro value
    rw [UInt64.and_assoc, UInt64.and_self]
  rw [hnext]
  constructor
  · intro heven operand value hgoes hvalue
    by_cases hzero : value = 0
    · simp [hzero]
    · have hsuccessor : successor? .arm (contextOff σ process config) shown none =
          some (value &&& process.machine.pointerMask) :=
        successor?_enhance_off_eq_some_iff.mpr ⟨operand, value, hgoes, hvalue, hzero, rfl⟩
      rwa [hsuccessor, Option.getD_some, hmasked] at heven
  · intro hoperands
    cases hsuccessor : successor? .arm (contextOff σ process config) shown none with
    | none =>
      refine Bits.two_dvd_toNat_and_mask _ ?_
      rw [Option.getD_none, Instruction.fallThrough, UInt64.toNat_add]
      omega
    | some place =>
      obtain ⟨operand, value, hgoes, hvalue, -, rfl⟩ :=
        successor?_enhance_off_eq_some_iff.mp hsuccessor
      rw [Option.getD_some]
      exact Bits.two_dvd_toNat_and_mask _ (hoperands operand value hgoes hvalue)

/-- A return to ARM code goes to the even address in the link register. -/
theorem enhance_return_even :
    let snapshot : Snapshot := {
      machine := .ofArch .arm
      registers := (NameMap.empty.insert "pc" 0x10000).insert "lr" 0x20000 }
    let branch : Instruction := {
      arch := .arm, mode := .arm, address := 0x10000, size := 4, mnemonic := "bx"
      groups := [.jump], operands := [{ kind := .register "lr" }] }
    let shown := (enhance .arm snapshot.process {} branch (.off : Emulation Empty)).1
    2 ∣ branch.address.toNat ∧ 2 ∣ branch.size.toNat ∧ shown.next = 0x20000 ∧
      (2 ∣ shown.next.toNat ↔
        ∀ operand value, (contextOff Empty snapshot.process {}).GoesBy shown operand →
          operand.beforeResolved = some value →
            2 ∣ (value &&& snapshot.process.machine.pointerMask).toNat) := by
  intro snapshot branch shown
  exact ⟨by decide, by decide, by decide +kernel,
    enhance_next_even_iff snapshot.process {} (by decide) (by decide)⟩

/-- The link register of the M class selects Thumb code by its lowest bit, and the return is shown
to lead to an odd address. -/
theorem enhance_return_odd :
    let snapshot : Snapshot := {
      machine := .ofArch .armCortexM
      registers := ((NameMap.empty.insert "pc" 0x10000).insert "xpsr" 0x1000000).insert "lr"
        0x10021 }
    let branch : Instruction := {
      arch := .armCortexM, mode := .mClassThumb, address := 0x10000, size := 2, mnemonic := "bx"
      groups := [.jump], operands := [{ kind := .register "lr" }] }
    let shown := (enhance .arm snapshot.process {} branch (.off : Emulation Empty)).1
    2 ∣ branch.address.toNat ∧ 2 ∣ branch.size.toNat ∧ shown.next = 0x10021 ∧
      ¬ 2 ∣ shown.next.toNat := by
  decide +kernel

end Enhancement

end CodeWindow
