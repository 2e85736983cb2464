import CodeWindow.Isa
import CodeWindow.Proofs.WordBits
import CodeWindow.Snapshot

/-! Values of extended and shifted register operands of AArch64. The architecture takes the low bits
of the register that the shift leaves room for, puts the zeros of the shift behind them and extends
the whole to the width of the operation. To extend to 64 bits, cut that to the width of the
operation and shift it there is the same. -/

namespace CodeWindow

namespace Extend

variable (extend : Extend) {amount length width i : Nat}

theorem length_sub_one_lt : extend.length - 1 < extend.length := by
  cases extend <;> decide

/-- Above the bits that are extended stands their sign, or zero. -/
theorem getLsbD_onBits (bits : BitVec length) (hi : i < width) :
    (extend.onBits bits width).getLsbD i =
      if i < length then bits.getLsbD i else extend.isSigned && bits.getLsbD (length - 1) := by
  unfold onBits
  cases extend.isSigned with
  | true =>
    simp only [if_true, Bool.true_and]
    rw [BitVec.getLsbD_signExtend, BitVec.msb_eq_getLsbD_last, decide_eq_true hi, Bool.true_and]
  | false =>
    simp only [Bool.false_eq_true, if_false, Bool.false_and]
    rw [BitVec.getLsbD_setWidth, decide_eq_true hi, Bool.true_and]
    split
    · rfl
    · exact BitVec.getLsbD_of_ge bits i (by omega)

/-- The architecture's extended register: the low bits of a register, as many as the extension takes
and the shift leaves room for, with the zeros of the shift behind them, at a width. -/
def register (amount width : Nat) (bits : BitVec 64) : BitVec width :=
  extend.onBits (bits.setWidth (min extend.length (width - amount)) ++ BitVec.ofNat amount 0) width

theorem getLsbD_register (bits : BitVec 64) (hamount : amount < width) (hi : i < width) :
    (extend.register amount width bits).getLsbD i =
      (!decide (i < amount) && if i - amount < extend.length then bits.getLsbD (i - amount)
        else extend.isSigned && bits.getLsbD (extend.length - 1)) := by
  have hlast := extend.length_sub_one_lt
  rw [register, extend.getLsbD_onBits _ hi]
  simp only [BitVec.getLsbD_append, BitVec.getLsbD_setWidth, BitVec.getLsbD_zero]
  by_cases hzeros : i < amount
  · simp [hzeros, show i < min extend.length (width - amount) + amount by omega]
  by_cases hlow : i - amount < extend.length
  · have hfield : i - amount < min extend.length (width - amount) := by omega
    simp [hzeros, hlow, hfield, show i < min extend.length (width - amount) + amount by omega]
  · -- Bits above the field are there only if the shift leaves room for all of it.
    have hfield : min extend.length (width - amount) = extend.length := by omega
    simp [hzeros, hlow, hfield, hlast, show ¬ i < extend.length + amount by omega,
      show ¬ extend.length + amount - 1 < amount by omega,
      show extend.length + amount - 1 - amount = extend.length - 1 by omega]

/-- To shift behind the extension is to extend what the shift leaves of the register. -/
theorem setWidth_shiftLeft_eq_register (bits : BitVec 64) (hamount : amount < width)
    (hwidth : width ≤ 64) :
    (extend.onBits (bits.setWidth extend.length) 64).setWidth width <<< amount =
      extend.register amount width bits := by
  have hlast := extend.length_sub_one_lt
  apply BitVec.eq_of_getLsbD_eq
  intro i hi
  rw [extend.getLsbD_register bits hamount hi, BitVec.getLsbD_shiftLeft, BitVec.getLsbD_setWidth,
    extend.getLsbD_onBits _ (show i - amount < 64 by omega), BitVec.getLsbD_setWidth,
    BitVec.getLsbD_setWidth]
  by_cases hlow : i - amount < extend.length
  · simp [hi, hlow, show i - amount < width by omega]
  · simp [hi, hlow, hlast, show i - amount < width by omega]

end Extend

variable {σ : Type} [Emulator σ]

namespace Isa.Aarch64

/-- The first operand of an instruction is a register of 32 bits. -/
def beginsWithWord (insn : Instruction) : Bool :=
  (insn.operands.head?.bind Operand.register?).any fun name => name.startsWith "w"

theorem operationWidth_eq (insn : Instruction) :
    operationWidth insn = if beginsWithWord insn then 32 else 64 := by
  unfold operationWidth beginsWithWord
  cases insn.operands with
  | nil => rfl
  | cons first rest =>
    rcases Option.eq_none_or_eq_some first.register? with hnone | ⟨name, hname⟩
    · simp [Operand.isRegister, hnone]
    · simp [Operand.isRegister, registerWidth, hname]

variable (operand : Operand) (value : UInt64) {amount width : Nat}

theorem toBitVec_shifted_extended {extend : Extend} (hextend : operand.extend = some extend)
    (hshift : operand.shift = none ∧ amount = 0 ∨ operand.shift = some ⟨.lsl, amount⟩)
    (hamount : amount < width) (hwidth : width ≤ 64) :
    (shifted operand (extended operand value width) width).toBitVec =
      (extend.register amount width value.toBitVec).setWidth 64 := by
  have hextended : (extended operand value width).toBitVec =
      ((extend.onBits (value.toBitVec.setWidth extend.length) 64).setWidth width).setWidth 64 := by
    simp only [extended, hextend]
    rw [Bits.toBitVec_and_mask, extend.toBitVec_apply]
  rw [← extend.setWidth_shiftLeft_eq_register _ hamount hwidth]
  rcases hshift with ⟨hnone, rfl⟩ | hsome
  · simp only [shifted, hnone]
    rw [hextended, BitVec.shiftLeft_zero]
  · simp only [shifted, hsome]
    rw [Bits.toBitVec_and_mask, Shift.toBitVec_apply _ _ hwidth, hextended]
    simp only [BitVec.setWidth_setWidth_of_le _ hwidth, BitVec.setWidth_eq, Shift.onBits]

theorem toBitVec_shifted {shift : Shift} (hextend : operand.extend = none)
    (hshift : operand.shift = some shift) (hwidth : width ≤ 64) :
    (shifted operand (extended operand value width) width).toBitVec =
      (shift.onBits (value.toBitVec.setWidth width)).setWidth 64 := by
  simp only [shifted, hshift, extended, hextend]
  rw [Bits.toBitVec_and_mask, Shift.toBitVec_apply _ _ hwidth,
    BitVec.setWidth_setWidth_of_le _ hwidth, BitVec.setWidth_eq]

/-- A register operand has the value that the architecture gives it, for every value of its
register; the zero registers are zero. -/
theorem registerValue_architectural {ctx : Context σ} {insn : Instruction} {operand : Operand}
    {name : String} {value : UInt64} (hname : operand.register? = some name)
    (hvalue : (if name = "xzr" ∨ name = "wzr" then some 0 else ctx.readRegister insn name) =
      some value) :
    let width := if beginsWithWord insn then 32 else 64
    (∀ extend amount, operand.extend = some extend → amount ≤ 4 →
      operand.shift = none ∧ amount = 0 ∨ operand.shift = some ⟨.lsl, amount⟩ →
        ∃ result, Isa.aarch64.registerValue ctx insn operand = some result ∧
          result.toNat = (extend.register amount width value.toBitVec).toNat) ∧
      ∀ shift, operand.extend = none → operand.shift = some shift → shift.amount < width →
        ∃ result, Isa.aarch64.registerValue ctx insn operand = some result ∧
          result.toNat = (shift.onBits (value.toBitVec.setWidth width)).toNat := by
  intro width
  have hwidth : width ≤ 64 ∧ 4 < width := by
    simp only [width]
    split <;> omega
  have hread : readRegister ctx insn name = some value := by
    rw [← hvalue]
    simp [readRegister]
  have hresult : Isa.aarch64.registerValue ctx insn operand =
      some (shifted operand (extended operand value width) width) := by
    simp only [Isa.registerValue, hname, Option.bind_some, registerValue, hread, Option.map_some,
      operationWidth_eq]
    rfl
  -- A bit vector of the width of the operation keeps its number at 64 bits.
  have hnumber : ∀ {result : UInt64} {bits : BitVec width}, result.toBitVec = bits.setWidth 64 →
      result.toNat = bits.toNat := by
    intro result bits hbits
    rw [← UInt64.toNat_toBitVec, hbits, BitVec.toNat_setWidth_of_le hwidth.1]
  constructor
  · intro extend amount hextend hamount hshift
    exact ⟨_, hresult, hnumber (toBitVec_shifted_extended operand value hextend hshift
      (Nat.lt_of_le_of_lt hamount hwidth.2) hwidth.1)⟩
  · intro shift hextend hshift _
    exact ⟨_, hresult, hnumber (toBitVec_shifted operand value hextend hshift hwidth.1)⟩

/-- The last operand of `add w0, w1, w2, sxtb #3` is negative when the low byte of `w2` is. -/
theorem registerValue_signed_byte :
    let snapshot : Snapshot := {
      machine := .ofArch .aarch64
      registers := (NameMap.empty.insert "pc" 0x1000).insert "x2" 0xFFFFFFFF000000F0 }
    let operand : Operand := {
      kind := .register "w2", extend := some .sxtb, shift := some ⟨.lsl, 3⟩ }
    let add : Instruction := {
      arch := .aarch64, mode := .arm, address := 0x1000, size := 4, mnemonic := "add"
      operands := [{ kind := .register "w0" }, { kind := .register "w1" }, operand] }
    let ctx : Context Empty := { process := snapshot.process, config := {}, emulator := none }
    operand.register? = some "w2" ∧ ctx.readRegister add "w2" = some 0xF0 ∧
      Isa.aarch64.registerValue ctx add operand = some 0xFFFFFF80 ∧
      ∃ result, Isa.aarch64.registerValue ctx add operand = some result ∧
        result.toNat = (Extend.sxtb.register 3 32 0xF0#64).toNat := by
  intro snapshot operand add ctx
  have hread : ctx.readRegister add "w2" = some 0xF0 := by decide +kernel
  have hwidth : beginsWithWord add = true := by decide +kernel
  have hname : operand.register? = some "w2" := rfl
  have hvalue : (if "w2" = "xzr" ∨ "w2" = "wzr" then some 0 else ctx.readRegister add "w2") =
      some 0xF0 := hread
  have hextended := (registerValue_architectural hname hvalue).1 .sxtb 3 rfl (by decide) (.inr rfl)
  rw [hwidth] at hextended
  exact ⟨hname, hread, by decide +kernel, hextended⟩

end Isa.Aarch64

end CodeWindow
