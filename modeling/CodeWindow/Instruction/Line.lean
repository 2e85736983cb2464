import CodeWindow.Instruction
import CodeWindow.Rendering

/-! The line that shows an instruction: a mark at the program counter, the address, a mark for a
branch that is taken, the assembly, and then either the target of the branch or the note. -/

namespace CodeWindow.Instruction

/-- The column, counted in the assembly, at which targets start. -/
def targetColumn : Nat := 36

/-- The spaces before a note. -/
def notePadding : Nat := 8

/-- The mark of the instruction at the program counter, or the space for it. -/
def counterMark (isCurrent : Bool) : String := if isCurrent then " ► " else "   "

/-- The mark of an instruction that is known to take effect, or the space for it. -/
def takenMark (insn : Instruction) : String :=
  if insn.condition = .holds || insn.isConditionalJumpTaken then "✔ " else "  "

/-- The assembly text with the mark before it. -/
def assembly (insn : Instruction) : String :=
  insn.takenMark ++ Text.padEnd 6 insn.mnemonic ++ " " ++ insn.operandText

/-- What follows the assembly: the target between angle brackets, from the target column on but
after one space at least, or the note. -/
def remark (insn : Instruction) : String :=
  if insn.hasJumpTarget then
    let length := insn.assembly.length
    Text.spaces (max targetColumn (length + 1) - length) ++
      "<" ++ insn.targetText.getD (hexAddress insn.target) ++ ">"
  else
    match insn.note with
    | some note => Text.spaces notePadding ++ note
    | none => ""

/-- The line that shows an instruction. -/
def line (insn : Instruction) (isCurrent : Bool) : String :=
  counterMark isCurrent ++ hexAddress insn.address ++ "    " ++ insn.assembly ++ insn.remark

end CodeWindow.Instruction
