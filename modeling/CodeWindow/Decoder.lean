import CodeWindow.Decoder.Listing
import CodeWindow.Instruction

/-! Decoders. A decoder belongs to a key and asks the disassembler for the encoding that the key
stands for; what is listed becomes an instruction by the rules of its architecture. A cache keeps
the decoders that were opened. -/

namespace CodeWindow

/-- What decides how bytes are decoded. -/
structure DecoderKey where
  arch : Architecture
  pointerSize : Nat
  byteOrder : ByteOrder
  mode : DecoderMode
  deriving DecidableEq

namespace DecoderKey

/-- The key of a machine in a mode. -/
def ofMachine (machine : Machine) (mode : DecoderMode) : DecoderKey :=
  { arch := machine.arch, pointerSize := machine.pointerSize, byteOrder := machine.byteOrder, mode }

/-- The encoding that a key stands for. The M class knows Thumb code only. -/
def encoding (key : DecoderKey) : Encoding :=
  match key.arch with
  | .i8086 => .x86 16
  | .i386 => .x86 32
  | .x86_64 => .x86 64
  | .arm | .armCortexM =>
    .arm (key.mode.isThumb || key.mode.isMClass) key.mode.isMClass key.byteOrder
  | .aarch64 => .aarch64 key.byteOrder
  | .mips =>
    if key.mode = .mips32R6 then .mips32R6 key.byteOrder
    else if key.pointerSize = 8 then .mips64 key.byteOrder
    else .mips32 key.byteOrder
  | .sparc => .sparc (key.mode = .sparcV9)
  | .powerPc => .powerPc (if key.pointerSize = 8 then 64 else 32) key.byteOrder
  | .rv32 => .riscv 32
  | .rv64 => .riscv 64

end DecoderKey

namespace Listing

/-- The shift that an instruction keeps. -/
def keptShift : Option ListedShift → Option Shift
  | some (.constant shift) => some shift
  | _ => none

/-- The address form that an architecture has: an index and a scale on the x86 family and on ARM,
an index of scale one on AArch64, a base alone elsewhere; a segment on the x86 family. -/
def keptReference (arch : Architecture) (reference : MemoryReference) : MemoryReference :=
  if arch.isX86 then reference
  else if arch = .aarch64 then { reference with segment := none, scale := 1 }
  else if arch.isArm then { reference with segment := none }
  else { base := reference.base, disp := reference.disp }

/-- What an operand names; registers without a name and other kinds of operand are dropped. -/
def keptKind (arch : Architecture) : ListedKind → Option OperandKind
  | .register (some name) => some (.register name)
  | .register none => none
  | .immediate value => some (.immediate value)
  | .memory reference => some (.memory (keptReference arch reference))
  | .other => none

/-- The operand that an instruction of an architecture keeps of a listed one. -/
def keptOperand (arch : Architecture) (operand : ListedOperand) : Option Operand :=
  (keptKind arch operand.kind).map fun kind =>
    if arch.isX86 then { kind, size := operand.size }
    else if arch = .aarch64 then
      { kind, shift := keptShift operand.shift, extend := operand.extend }
    else if arch.isArm then
      { kind, shift := keptShift operand.shift, subtracted := operand.subtracted }
    else { kind }

/-- The instruction that was listed from code at an address. -/
def instruction (listing : Listing) (arch : Architecture) (mode : DecoderMode)
    (code : List UInt8) (address : UInt64) : Instruction where
  arch := arch
  mode := mode
  address := address
  size := UInt64.ofNat listing.size
  mnemonic := listing.mnemonic
  operandText := listing.operandText
  bytes := code.take listing.size
  groups := listing.groups.filterMap InstructionGroup.ofNumber?
  operands := listing.operands.filterMap (keptOperand arch)

end Listing

/-- An opened decoder. -/
structure Decoder where
  key : DecoderKey
  encoding : Encoding
  deriving DecidableEq

namespace Decoder

/-- The decoder of a key. -/
def ofKey (key : DecoderKey) : Decoder := { key, encoding := key.encoding }

/-- The instruction that code at an address starts with. -/
def decode (decoder : Decoder) (disassembler : Disassembler) (code : List UInt8)
    (address : UInt64) : Except DecodeError Instruction :=
  match disassembler decoder.encoding code address with
  | some listing => .ok (listing.instruction decoder.key.arch decoder.key.mode code address)
  | none => .error (.invalid address)

end Decoder

/-- The decoders opened so far, each under its key. -/
structure DecoderCache where
  opened : List (DecoderKey × Decoder) := []

namespace DecoderCache

/-- The cache without decoders. -/
def empty : DecoderCache := {}

/-- The decoder of a key, opened when it is first asked for, and the cache that then holds it. -/
def get (cache : DecoderCache) (key : DecoderKey) : Decoder × DecoderCache :=
  match cache.opened.lookup key with
  | some decoder => (decoder, cache)
  | none => (Decoder.ofKey key, ⟨(key, Decoder.ofKey key) :: cache.opened⟩)

/-- The number of decoders. -/
def size (cache : DecoderCache) : Nat := cache.opened.length

/-- A cache is empty when it holds no decoder. -/
def isEmpty (cache : DecoderCache) : Bool := cache.opened.isEmpty

end DecoderCache

end CodeWindow
