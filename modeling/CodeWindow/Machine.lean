import CodeWindow.Bits

/-! Architectures and machines. A machine is an architecture with a pointer size, a byte order and
an instruction set variant; it fixes how bytes make a word, which registers hold the program
counter, the stack pointer and the flags, and how many bytes an instruction can take. -/

namespace CodeWindow

/-- The supported instruction set architectures. -/
inductive Architecture where
  | i8086
  | i386
  | x86_64
  | arm
  | armCortexM
  | aarch64
  | mips
  | sparc
  | powerPc
  | rv32
  | rv64
  deriving DecidableEq

namespace Architecture

/-- All architectures, in order of declaration. -/
def all : List Architecture :=
  [i8086, i386, x86_64, arm, armCortexM, aarch64, mips, sparc, powerPc, rv32, rv64]

/-- The name under which debuggers know an architecture. -/
def name : Architecture → String
  | i8086 => "i8086"
  | i386 => "i386"
  | x86_64 => "x86-64"
  | arm => "arm"
  | armCortexM => "armcm"
  | aarch64 => "aarch64"
  | mips => "mips"
  | sparc => "sparc"
  | powerPc => "powerpc"
  | rv32 => "rv32"
  | rv64 => "rv64"

/-- The name of an architecture in error messages. -/
def title : Architecture → String
  | i8086 => "I8086"
  | i386 => "I386"
  | x86_64 => "X86_64"
  | arm => "Arm"
  | armCortexM => "ArmCortexM"
  | aarch64 => "Aarch64"
  | mips => "Mips"
  | sparc => "Sparc"
  | powerPc => "PowerPc"
  | rv32 => "Rv32"
  | rv64 => "Rv64"

/-- The architecture that debuggers know under a name. -/
def ofName? (text : String) : Option Architecture :=
  all.find? fun arch => arch.name == text

/-- The members of the x86 family. -/
def isX86 : Architecture → Bool
  | i8086 | i386 | x86_64 => true
  | _ => false

/-- The 32-bit ARM architectures. -/
def isArm : Architecture → Bool
  | arm | armCortexM => true
  | _ => false

/-- The size of a pointer in bytes, unless a machine says otherwise. -/
def defaultPointerSize : Architecture → Nat
  | i8086 => 2
  | x86_64 | aarch64 | rv64 => 8
  | _ => 4

/-- The bytes fetched before decoding: the widest encoding of the architecture. -/
def maxInstructionSize : Architecture → Nat
  | i8086 | i386 | x86_64 => 16
  | mips => 8
  | rv32 | rv64 => 22
  | _ => 4

/-- The register that holds the program counter. -/
def pcRegister : Architecture → String
  | i8086 => "ip"
  | i386 => "eip"
  | x86_64 => "rip"
  | _ => "pc"

/-- The register that holds the stack pointer. -/
def spRegister : Architecture → String
  | i8086 => "sp"
  | i386 => "esp"
  | x86_64 => "rsp"
  | powerPc => "r1"
  | _ => "sp"

/-- The status register that holds the condition flags. -/
def flagsRegister : Architecture → Option String
  | i8086 | i386 | x86_64 => some "eflags"
  | arm | aarch64 => some "cpsr"
  | armCortexM => some "xpsr"
  | _ => none

/-- The single-bit flags of a status register with their bit numbers, in the order shown. -/
def flagBits (arch : Architecture) (register : String) : List (String × Nat) :=
  if arch.isX86 && register == "eflags" then
    [("CF", 0), ("PF", 2), ("AF", 4), ("ZF", 6), ("SF", 7), ("IF", 9), ("DF", 10), ("OF", 11)]
  else if arch = aarch64 && register == "cpsr" then
    [("N", 31), ("Z", 30), ("C", 29), ("V", 28), ("Q", 27), ("PAN", 22), ("IL", 20), ("D", 9),
      ("A", 8), ("I", 7), ("F", 6), ("SP", 0)]
  else if arch = arm && register == "cpsr" then
    [("N", 31), ("Z", 30), ("C", 29), ("V", 28), ("Q", 27), ("J", 24), ("E", 9), ("A", 8),
      ("I", 7), ("F", 6), ("T", 5)]
  else if arch = armCortexM && register == "xpsr" then
    [("N", 31), ("Z", 30), ("C", 29), ("V", 28), ("Q", 27), ("T", 24)]
  else []

end Architecture

/-- The order in which the bytes of a word lie in memory. -/
inductive ByteOrder where
  | little
  | big
  deriving DecidableEq

/-- Revisions of an instruction set that are decoded unlike the base architecture. -/
inductive Variant where
  | base
  | mips32R6
  | sparcV9
  deriving DecidableEq

/-- An architecture as a process uses it. -/
structure Machine where
  arch : Architecture
  pointerSize : Nat
  byteOrder : ByteOrder := .little
  variant : Variant := .base
  deriving DecidableEq

namespace Machine

/-- The machine of an architecture with its default pointer size. -/
def ofArch (arch : Architecture) : Machine :=
  { arch, pointerSize := arch.defaultPointerSize }

/-- The width of a pointer in bits, as a 32-bit count. -/
def pointerBits (machine : Machine) : Nat := machine.pointerSize * 8 % UInt32.size

/-- The word with the bits of a pointer set. -/
def pointerMask (machine : Machine) : UInt64 := Bits.mask machine.pointerBits

/-- The number whose digits in base 256 are the given bytes, most significant first, modulo the
width of a word. -/
def packBytes (bytes : List UInt8) : UInt64 :=
  bytes.foldl (fun word byte => word <<< 8 ||| byte.toUInt64) 0

/-- The number that the first eight of the given bytes make in the machine's byte order. -/
def unpack (machine : Machine) (bytes : List UInt8) : UInt64 :=
  match machine.byteOrder with
  | .little => packBytes (bytes.take 8).reverse
  | .big => packBytes (bytes.take 8)

end Machine

end CodeWindow
