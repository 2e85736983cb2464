import CodeWindow.Machine
import CodeWindow.Operand

/-! What a disassembler is asked and what it answers. A request names an encoding; the answer lists
one instruction with its operands as the disassembler knows them, which is more than an instruction
keeps. -/

namespace CodeWindow

/-- The encodings that a disassembler reads. Those of an architecture with two byte orders say which
one is meant. -/
inductive Encoding where
  /-- Code of the x86 family with 16, 32 or 64 bits. -/
  | x86 (bits : Nat)
  | arm (thumb mClass : Bool) (byteOrder : ByteOrder)
  | aarch64 (byteOrder : ByteOrder)
  | mips32 (byteOrder : ByteOrder)
  | mips64 (byteOrder : ByteOrder)
  | mips32R6 (byteOrder : ByteOrder)
  | sparc (v9 : Bool)
  /-- PowerPC code with 32 or 64 bits. -/
  | powerPc (bits : Nat) (byteOrder : ByteOrder)
  /-- RISC-V code with 32 or 64 bits, with compressed instructions. -/
  | riscv (bits : Nat)
  deriving DecidableEq

namespace Listing

/-- A shift as a disassembler lists it: one by a constant that an instruction keeps, or another. -/
inductive ListedShift where
  | constant (shift : Shift)
  | other

/-- What a listed operand names; a register may have no name. -/
inductive ListedKind where
  | register (name : Option String)
  | immediate (value : Int64)
  | memory (reference : MemoryReference)
  | other

/-- A listed operand. -/
structure ListedOperand where
  kind : ListedKind
  size : Nat := 0
  shift : Option ListedShift := none
  extend : Option Extend := none
  subtracted : Bool := false

end Listing

/-- One instruction as a disassembler lists it. -/
structure Listing where
  size : Nat
  mnemonic : String
  operandText : String
  groups : List Nat
  operands : List Listing.ListedOperand

/-- A disassembler lists the instruction that code at an address starts with, if it starts with
one. -/
abbrev Disassembler := Encoding → List UInt8 → UInt64 → Option Listing

end CodeWindow
