import CodeWindow.Error

/-! A stopped process as enhancement sees it: its machine, registers, memory, symbols and the map
of its memory, each a function of what is asked. -/

namespace CodeWindow

/-- A mapped range of memory. -/
structure Page where
  start : UInt64
  stop : UInt64
  readable : Bool
  writable : Bool
  executable : Bool
  objfile : String := ""
  deriving DecidableEq

/-- A page contains the addresses from its start up to its stop. -/
def Page.contains (page : Page) (address : UInt64) : Bool :=
  page.start ≤ address && address < page.stop

/-- How a read ends at memory that cannot be read: it fails, or it gives the bytes before. -/
inductive ReadMode where
  | exact
  | upTo
  deriving DecidableEq

/-- A stopped process. -/
structure Process where
  machine : Machine
  register : String → Option UInt64
  pc : Option UInt64
  sp : Option UInt64
  read : ReadMode → UInt64 → Nat → Except MemoryError (List UInt8)
  /-- The symbol that an address belongs to, with the offset where there is one. -/
  symbolAt : UInt64 → Option String
  pageAt : UInt64 → Option Page

namespace Process

/-- The byte at an address can be read. -/
def peek (process : Process) (address : UInt64) : Bool :=
  match process.read .exact address 1 with
  | .ok _ => true
  | .error _ => false

/-- The unsigned integer of `size` bytes at an address, in the machine's byte order. -/
def readUInt (process : Process) (address : UInt64) (size : Nat) : Except MemoryError UInt64 :=
  (process.read .exact address size).map process.machine.unpack

/-- The pointer at an address. -/
def readPointer (process : Process) (address : UInt64) : Except MemoryError UInt64 :=
  process.readUInt address process.machine.pointerSize

/-- The pointer at an address, reduced to the width of a pointer. -/
def pointer? (process : Process) (address : UInt64) : Option UInt64 :=
  match process.readPointer address with
  | .ok value => some (value &&& process.machine.pointerMask)
  | .error _ => none

/-- An address lies in a page that cannot be written. -/
def isReadOnly (process : Process) (address : UInt64) : Bool :=
  match process.pageAt address with
  | some page => !page.writable
  | none => false

/-- The value of a status register. -/
def flags (process : Process) (name : String) : Option UInt64 := process.register name

end Process

end CodeWindow
