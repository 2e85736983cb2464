import CodeWindow.Process

/-! The mode of a decoder: which of an architecture's encodings the bytes are read in. It follows
from the machine and from the processor's state register. -/

namespace CodeWindow

/-- The modes of decoders. -/
inductive DecoderMode where
  | standard
  | arm
  | thumb
  | mClass
  | mClassThumb
  | real16
  | mips32R6
  | sparcV9
  | riscvCompressed
  deriving DecidableEq

namespace DecoderMode

/-- All modes. -/
def all : List DecoderMode :=
  [standard, arm, thumb, mClass, mClassThumb, real16, mips32R6, sparcV9, riscvCompressed]

/-- The name of a mode. -/
def name : DecoderMode → String
  | standard => "Default"
  | arm => "Arm"
  | thumb => "Thumb"
  | mClass => "MClass"
  | mClassThumb => "MClassThumb"
  | real16 => "Real16"
  | mips32R6 => "Mips32R6"
  | sparcV9 => "SparcV9"
  | riscvCompressed => "RiscvCompressed"

/-- The mode with a name. -/
def ofName? (text : String) : Option DecoderMode := all.find? fun mode => mode.name == text

/-- A bit of a register is set; it is not when the register is unknown. -/
def bitSet (register : String → Option UInt64) (name : String) (bit : Nat) : Bool :=
  match register name with
  | some value => value &&& (1 <<< UInt64.ofNat bit) ≠ 0
  | none => false

/-- The mode in which a machine runs: ARM and its M class tell Thumb by the T bit of their status
registers, and the other architectures by their variants. -/
def select (machine : Machine) (register : String → Option UInt64) : DecoderMode :=
  match machine.arch with
  | .armCortexM => if bitSet register "xpsr" 24 then mClassThumb else mClass
  | .arm => if bitSet register "cpsr" 5 then thumb else arm
  | .i8086 => real16
  | .mips => if machine.variant = .mips32R6 then mips32R6 else standard
  | .sparc => if machine.variant = .sparcV9 then sparcV9 else standard
  | .rv32 | .rv64 => riscvCompressed
  | _ => standard

/-- The modes of Thumb code. -/
def isThumb : DecoderMode → Bool
  | thumb | mClassThumb => true
  | _ => false

/-- The modes of the M class. -/
def isMClass : DecoderMode → Bool
  | mClass | mClassThumb => true
  | _ => false

end DecoderMode

end CodeWindow
