import CodeWindow.Proofs.OperandValues
import CodeWindow.Proofs.ShownNumber
import CodeWindow.Proofs.WordArithmetic

/-! The texts of immediate operands. A literal is shown as the signed number of the width of a
pointer that it is congruent to: a sign, and then a numeral in decimal or in hexadecimal. Such a
text gives its number back, so literals share a text only where they are congruent. -/

namespace CodeWindow

/-! ### Signed numerals -/

namespace Text

/-- The integer that a numeral stands for, after a minus sign where it is negative. -/
def intNumeral? : List Char → Option Int
  | '-' :: numeral => (natNumeral? numeral).map fun n : Nat => -(n : Int)
  | numeral => (natNumeral? numeral).map Int.ofNat

theorem intNumeral?_minus {numeral : List Char} {n : Nat} (h : natNumeral? numeral = some n) :
    intNumeral? ('-' :: numeral) = some (-(n : Int)) := by
  rw [intNumeral?, h, Option.map_some]

theorem intNumeral?_of_natNumeral? {numeral : List Char} {n : Nat}
    (h : natNumeral? numeral = some n) : intNumeral? numeral = some (n : Int) := by
  unfold intNumeral?
  split
  · -- A minus sign is no digit.
    simp [natNumeral?, digitNumber?, numberFrom?, digit?] at h
  · rw [h, Option.map_some]
    rfl

end Text

namespace Rendering

/-- The text of an immediate value gives the value back. -/
theorem intNumeral?_immediate (value : Int64) :
    Text.intNumeral? (immediate value).toList = some value.toInt := by
  have hsign : value < 0 ↔ value.toInt < 0 := Int64.lt_iff_toInt_lt
  have hminus : ∀ text : String, ("-" ++ text).toList = '-' :: text.toList := by simp
  unfold immediate Text.signedDecimal
  simp only [hsign]
  by_cases hnegative : value.toInt < 0
  · have hvalue : -(value.toInt.natAbs : Int) = value.toInt := by omega
    simp only [hnegative, if_true]
    split
    · rw [hminus, Text.intNumeral?_minus (Text.natNumeral?_decimal _), hvalue]
    · rw [hminus, Text.intNumeral?_minus (Text.natNumeral?_hex _), hvalue]
  · have hvalue : (value.toInt.natAbs : Int) = value.toInt := by omega
    simp only [hnegative, if_false]
    split
    · rw [Text.intNumeral?_of_natNumeral? (Text.natNumeral?_decimal _), hvalue]
    · rw [Text.intNumeral?_of_natNumeral? (Text.natNumeral?_hex _), hvalue]

end Rendering

/-! ### Literals of instructions -/

/-- The text of a literal where pointers have a width. -/
def literalText (width : Nat) (literal : Int64) : String :=
  Rendering.immediate (Bits.toSigned (literal.toUInt64 &&& Bits.mask width) width)

theorem intNumeral?_literalText {width : Nat} (h : width ≤ 64) (literal : Int64) :
    Text.intNumeral? (literalText width literal).toList =
      some (literal.toInt.bmod (2 ^ width)) := by
  rw [literalText, Rendering.intNumeral?_immediate, ← Bits.ofInt_toInt,
    Bits.toInt_toSigned_ofInt _ h]

/-- Literals have the same text if and only if they are congruent. -/
theorem literalText_eq_iff {width : Nat} (h : width ≤ 64) {literal other : Int64} :
    literalText width literal = literalText width other ↔
      literal.toInt ≡ other.toInt [ZMOD 2 ^ width] := by
  have hmodulus : ((2 ^ width : Nat) : Int) = 2 ^ width := by push_cast; rfl
  constructor
  · intro htext
    have hnumber := intNumeral?_literalText h literal
    rw [htext, intNumeral?_literalText h, Option.some_inj] at hnumber
    rw [Int.ModEq, ← hmodulus, ← Int.bmod_emod, ← hnumber, Int.bmod_emod]
  · intro hcongruent
    have hnumber : literal.toInt.bmod (2 ^ width) = other.toInt.bmod (2 ^ width) := by
      rw [← Int.emod_bmod, hmodulus, hcongruent, ← hmodulus, Int.emod_bmod]
    unfold literalText
    congr 1
    apply Int64.toInt_inj.mp
    rw [← Bits.ofInt_toInt, ← Bits.ofInt_toInt, Bits.toInt_toSigned_ofInt _ h,
      Bits.toInt_toSigned_ofInt _ h, hnumber]

/-- An operand of an instruction is a literal that is taken as it is. AArch64 may shift others. -/
def HasLiteral (isa : Isa) (insn : Instruction) (index : Nat) (literal : Int64) : Prop :=
  ∃ operand, insn.operands[index]? = some operand ∧ operand.kind = .immediate literal ∧
    (isa = .aarch64 → operand.shift = none)

/-- The text of an operand of an instruction. -/
def operandText? (insn : Instruction) (index : Nat) : Option String :=
  insn.operands[index]?.bind Operand.display

/-- A text shows a literal where pointers have a width: it gives back the one signed number of the
width that is congruent to the literal, which is the literal itself if it fits. -/
structure ShowsLiteral (width : Nat) (literal : Int64) (text : String) : Prop where
  number : ∃ number, Text.intNumeral? text.toList = some number ∧
    ∀ residue, SignedResidue width literal.toInt residue ↔ residue = number
  fits : -2 ^ (width - 1) ≤ literal.toInt → literal.toInt < 2 ^ (width - 1) →
    Text.intNumeral? text.toList = some literal.toInt

theorem showsLiteral_literalText {width : Nat} (hpos : 0 < width) (h : width ≤ 64)
    (literal : Int64) : ShowsLiteral width literal (literalText width literal) := by
  have hnumber := intNumeral?_literalText h literal
  constructor
  case number =>
    exact ⟨_, hnumber, fun residue => (signedResidue_iff hpos).trans eq_comm⟩
  case fits =>
    intro hle hlt
    rw [hnumber, (signedResidue_iff hpos).mp ⟨hle, hlt, Int.ModEq.refl _⟩]

variable {σ : Type} [Emulator σ]

namespace Enhancement

theorem maskedValue_literal {isa : Isa} {operand : Operand} {literal : Int64}
    (hkind : operand.kind = .immediate literal) (hshift : isa = .aarch64 → operand.shift = none)
    (ctx : Context σ) (insn : Instruction) :
    maskedValue isa ctx insn operand = some (literal.toUInt64 &&& ctx.machine.pointerMask) := by
  have himmediate : operand.immediate? = some literal := by
    rw [Operand.immediate?, hkind]
  have hvalue : isa.operandValue ctx insn operand = some literal.toUInt64 := by
    rw [Isa.operandValue, hkind]
    simp only [Isa.immediateValue, himmediate, Option.map_some]
    cases isa with
    | aarch64 => simp only [Isa.Aarch64.immediateValue, hshift rfl]
    | x86 | arm | mips | generic => rfl
  rw [maskedValue, hvalue, Option.map_some]

theorem operandText?_enhance {isa : Isa} {insn : Instruction} {index : Nat} {literal : Int64}
    (h : HasLiteral isa insn index literal) (process : Process) (config : Config)
    (emulation : Emulation σ) :
    operandText? (enhance isa process config insn emulation).1 index =
      some (literalText process.machine.pointerBits literal) := by
  obtain ⟨operand, hoperand, hkind, hshift⟩ := h
  have hoperands : (enhance isa process config insn emulation).1.operands = _ :=
    describe_operands isa process config insn _ _
  rw [operandText?, hoperands, List.getElem?_map, hoperand]
  let before := contextFor process config insn (emulation.readyFor insn)
  have hdisplay : ∀ valued : Operand, valued.kind = operand.kind →
      valued.beforeValue = maskedValue isa before insn operand →
        displayOf process valued = some (literalText process.machine.pointerBits literal) := by
    intro valued hvalued hbefore
    rw [displayOf, hvalued, hkind, hbefore, maskedValue_literal hkind hshift]
    rfl
  -- The emulator behind the step does not count for the text.
  simp only [Option.map_some, Option.bind_some, operandAround]
  split <;> exact hdisplay _ rfl rfl

/-- A literal is shown as a text by some instruction, where pointers have a width. -/
def MayShow (σ : Type) [Emulator σ] (width : Nat) (literal : Int64) (text : String) : Prop :=
  ∃ (isa : Isa) (process : Process) (config : Config) (insn : Instruction)
    (emulation : Emulation σ) (index : Nat),
    HasLiteral isa insn index literal ∧ process.machine.pointerBits = width ∧
      operandText? (enhance isa process config insn emulation).1 index = some text

/-- An immediate operand is shown as the signed number of the width of a pointer that its literal is
congruent to. No literal that is not congruent to it has the same text anywhere. -/
theorem enhance_showsLiteral {isa : Isa} {insn : Instruction} {index : Nat} {literal : Int64}
    (h : HasLiteral isa insn index literal) {process : Process}
    (hwide : 8 ≤ process.machine.pointerBits) (hnarrow : process.machine.pointerBits ≤ 64)
    (config : Config) (emulation : Emulation σ) :
    let width := process.machine.pointerBits
    ∃ text, operandText? (enhance isa process config insn emulation).1 index = some text ∧
      ShowsLiteral width literal text ∧
      ∀ other otherText, MayShow σ width other otherText →
        (otherText = text ↔ other.toInt ≡ literal.toInt [ZMOD 2 ^ width]) := by
  intro width
  refine ⟨literalText width literal, operandText?_enhance h process config emulation,
    showsLiteral_literalText (by omega) hnarrow literal, ?_⟩
  rintro other otherText ⟨isa, process, config, insn, emulation, index, hother, hwidth, htext⟩
  rw [operandText?_enhance hother, hwidth, Option.some_inj] at htext
  rw [← htext, literalText_eq_iff hnarrow]

/-- The least number of 32 bits is shown with its sign, as a literal without a sign and in two's
complement alike. -/
theorem enhance_least_literal :
    let snapshot : Snapshot := { machine := .ofArch .i386 }
    let move (literal : Int64) : Instruction := {
      arch := .i386, address := 0x401000, size := 5, mnemonic := "mov"
      operands := [{ kind := .register "eax", size := 4 },
        { kind := .immediate literal, size := 4 }] }
    let shown (literal : Int64) :=
      operandText?
        (enhance .x86 snapshot.process {} (move literal) (.off : Emulation Empty)).1 1
    HasLiteral .x86 (move 0x80000000) 1 0x80000000 ∧
      shown 0x80000000 = some "-0x80000000" ∧ shown (-0x80000000) = some "-0x80000000" ∧
      ∃ text, shown 0x80000000 = some text ∧ ShowsLiteral 32 0x80000000 text ∧
        ∀ other otherText, MayShow Empty 32 other otherText →
          (otherText = text ↔ other.toInt ≡ Int64.toInt 0x80000000 [ZMOD 2 ^ 32]) := by
  intro snapshot move shown
  have hliteral : HasLiteral .x86 (move 0x80000000) 1 0x80000000 :=
    ⟨_, rfl, rfl, nofun⟩
  exact ⟨hliteral, by decide +kernel, by decide +kernel,
    enhance_showsLiteral hliteral (by decide) (by decide) {} .off⟩

end Enhancement

end CodeWindow
