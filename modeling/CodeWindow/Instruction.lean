import CodeWindow.Decoder.Mode
import CodeWindow.Operand
import CodeWindow.Text.Affix

/-! Instructions and their traits. The traits say how an instruction may move the program counter:
they follow from the groups that the decoder reports and from the mnemonics that an architecture
has for branches. -/

namespace CodeWindow

/-- The kinds of instruction that a decoder tells apart. -/
inductive InstructionGroup where
  | invalid
  | jump
  | call
  | ret
  | int
  | iret
  | privilege
  | branchRelative
  deriving DecidableEq

namespace InstructionGroup

/-- The groups in the order of their numbers, from zero. -/
def all : List InstructionGroup :=
  [invalid, jump, call, ret, int, iret, privilege, branchRelative]

/-- The name of a group. -/
def name : InstructionGroup → String
  | invalid => "invalid"
  | jump => "jump"
  | call => "call"
  | ret => "ret"
  | int => "int"
  | iret => "iret"
  | privilege => "privilege"
  | branchRelative => "branch_relative"

/-- The group with a name. -/
def ofName? (text : String) : Option InstructionGroup := all.find? fun group => group.name == text

/-- The group with a number; the other numbers belong to single architectures. -/
def ofNumber? (number : Nat) : Option InstructionGroup := all[number]?

/-- Instructions of these groups are never stepped by an emulator. -/
def blocksEmulation : InstructionGroup → Bool
  | int | invalid | iret | call => true
  | _ => false

end InstructionGroup

/-- Whether a conditional instruction takes effect, as far as that is known. -/
inductive Condition where
  | undetermined
  | holds
  | fails
  deriving DecidableEq

namespace Condition

/-- The condition of a known outcome. -/
def ofBool (outcome : Bool) : Condition := if outcome then holds else fails

/-- The condition of an outcome that may be unknown. -/
def ofOption : Option Bool → Condition
  | some outcome => ofBool outcome
  | none => undetermined

/-- The name of a condition. -/
def name : Condition → String
  | undetermined => "Undetermined"
  | holds => "True"
  | fails => "False"

/-- The condition with a name. -/
def ofName? (text : String) : Option Condition :=
  [undetermined, holds, fails].find? fun condition => condition.name == text

end Condition

/-- A decoded instruction with what enhancement found out about it. -/
structure Instruction where
  arch : Architecture
  mode : DecoderMode := .standard
  address : UInt64
  size : UInt64
  mnemonic : String
  operandText : String := ""
  bytes : List UInt8 := []
  groups : List InstructionGroup := []
  operands : List Operand := []
  condition : Condition := .undetermined
  /-- Where the program counter is after the instruction is stepped over. -/
  next : UInt64 := address + size
  /-- Where the program counter may go when the instruction transfers control. -/
  target : UInt64 := address + size
  targetText : Option String := none
  targetIsConstant : Bool := false
  /-- What the instruction does, in values. -/
  note : Option String := none
  emulated : Bool := false
  deriving DecidableEq

/-- The mnemonics of an architecture's branches that always transfer control. -/
def Architecture.unconditionalBranches : Architecture → List String
  | .i8086 | .i386 | .x86_64 => ["jmp", "ljmp"]
  | .mips => ["j", "jr", "jal", "jalr", "b", "bal"]
  | .sparc => ["jmp", "jmpl"]
  | .arm | .armCortexM => ["b", "bl", "blx", "bx", "bxj", "tbb", "tbh"]
  | .aarch64 => ["b", "bl", "blr", "br", "ret"]
  | .rv32 | .rv64 => ["jal", "jalr", "j", "jr", "c.j", "c.jal", "c.jr", "c.jalr"]
  | .powerPc => ["b", "ba", "bl", "bla"]

/-- The mnemonics of an architecture's calls that a decoder may not put into the group of calls. -/
def Architecture.linkingBranches : Architecture → List String
  | .aarch64 => ["bl", "blr"]
  | .arm | .armCortexM => ["bl", "blx"]
  | _ => []

namespace Instruction

/-- The address right behind an instruction. -/
def fallThrough (insn : Instruction) : UInt64 := insn.address + insn.size

/-- The decoder reports a group. -/
def hasGroup (insn : Instruction) (group : InstructionGroup) : Bool := insn.groups.contains group

/-- The mnemonic without the mark of an encoding's width. -/
def baseMnemonic (insn : Instruction) : String :=
  match Text.beforeEnd? ".w" insn.mnemonic with
  | some mnemonic => mnemonic
  | none => (Text.beforeEnd? ".n" insn.mnemonic).getD insn.mnemonic

/-- The instruction calls. -/
def isCallLike (insn : Instruction) : Bool :=
  insn.hasGroup .call || insn.arch.linkingBranches.contains insn.mnemonic

/-- The instruction always transfers control. -/
def isUnconditionalJump (insn : Instruction) : Bool :=
  insn.hasGroup .call || insn.hasGroup .ret ||
    insn.arch.unconditionalBranches.contains insn.baseMnemonic

/-- The instruction may transfer control. -/
def isJumpLike (insn : Instruction) : Bool :=
  insn.hasGroup .jump || insn.hasGroup .ret || insn.isCallLike

/-- The instruction may or may not transfer control. -/
def isConditionalJump (insn : Instruction) : Bool :=
  insn.isJumpLike && !insn.isUnconditionalJump

/-- The instruction is a conditional transfer of control that is known to happen. -/
def isConditionalJumpTaken (insn : Instruction) : Bool :=
  insn.isConditionalJump && (insn.next != insn.fallThrough || insn.condition = .holds)

/-- The target is not the address right behind the instruction. -/
def canChangeInstructionPointer (insn : Instruction) : Bool := insn.target != insn.fallThrough

/-- The instruction may transfer control to a place of its own. -/
def hasJumpTarget (insn : Instruction) : Bool :=
  insn.isJumpLike && insn.canChangeInstructionPointer

/-- An emulator never steps the instruction. -/
def blocksEmulation (insn : Instruction) : Bool :=
  insn.isCallLike || insn.groups.any InstructionGroup.blocksEmulation

/-- The traits of an instruction, by name, in the order in which they are listed. -/
def traits (insn : Instruction) : List String :=
  [("call_like", insn.isCallLike), ("unconditional_jump", insn.isUnconditionalJump),
    ("jump_like", insn.isJumpLike), ("conditional_jump", insn.isConditionalJump),
    ("conditional_jump_taken", insn.isConditionalJumpTaken),
    ("can_change_ip", insn.canChangeInstructionPointer), ("jump_target", insn.hasJumpTarget),
    ("blocks_emulation", insn.blocksEmulation)].filterMap fun (name, holds) =>
      if holds then some name else none

end Instruction

end CodeWindow
