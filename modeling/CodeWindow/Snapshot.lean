import CodeWindow.AddressMap
import CodeWindow.NameMap
import CodeWindow.Process
import CodeWindow.Symbol
import CodeWindow.Snapshot.Slice
import CodeWindow.Text.LetterCase

/-! Snapshots: a process frozen as registers, regions of memory and symbols. Register names are
held in lower case. A read gathers bytes region by region; inside a region it goes on to the
region's end, and then continues in whatever region holds the next address. -/

namespace CodeWindow

/-- A range of memory with its contents. -/
structure Region where
  start : UInt64
  data : List UInt8
  readable : Bool
  writable : Bool
  executable : Bool
  objfile : String
  deriving DecidableEq

namespace Region

/-- The first address past a region, counted modulo the size of the address space. -/
def stop (region : Region) : UInt64 := region.start + UInt64.ofNat region.data.length

/-- A region contains the addresses from its start up to its stop. -/
def contains (region : Region) (address : UInt64) : Bool :=
  region.start ≤ address && address < region.stop

/-- The bytes of a region from an address on. -/
def dataFrom (region : Region) (address : UInt64) : List UInt8 :=
  region.data.drop (address - region.start).toNat

end Region

/-- A frozen process. -/
structure Snapshot where
  machine : Machine
  registers : NameMap UInt64 := .empty
  regions : AddressMap Region := .empty
  symbols : SymbolTable := .empty

namespace Snapshot

/-- Sets a register, whatever the case of its name. -/
def setRegister (snapshot : Snapshot) (name : String) (value : UInt64) : Snapshot :=
  { snapshot with registers := snapshot.registers.insert (Text.lower name) value }

/-- Maps a region, in place of the one with the same start. -/
def mapRegion (snapshot : Snapshot) (region : Region) : Snapshot :=
  { snapshot with regions := snapshot.regions.insert region.start region }

/-- Adds a symbol. -/
def addSymbol (snapshot : Snapshot) (symbol : Symbol) : Snapshot :=
  { snapshot with symbols := snapshot.symbols.insert symbol }

/-- The region at the greatest start not above an address, if it contains the address. -/
def regionAt (snapshot : Snapshot) (address : UInt64) : Option Region :=
  match snapshot.regions.floor? address with
  | some (_, region) => if region.contains address then some region else none
  | none => none

/-- The readable bytes from an address to the end of the region there. -/
def readableFrom (snapshot : Snapshot) (address : UInt64) : List UInt8 :=
  match snapshot.regionAt address with
  | some region => if region.readable then region.dataFrom address else []
  | none => []

/-- Up to `wanted` bytes from an address, as far as memory can be read. -/
def gather (snapshot : Snapshot) (address : UInt64) (wanted : Nat) : List UInt8 :=
  match _h : (snapshot.readableFrom address).take wanted with
  | [] => []
  | byte :: bytes =>
    byte :: bytes ++
      snapshot.gather (address + UInt64.ofNat (bytes.length + 1)) (wanted - (bytes.length + 1))
termination_by wanted
decreasing_by
  have hlength := congrArg List.length _h
  simp only [List.length_take, List.length_cons] at hlength
  omega

/-- Reads `length` bytes from an address. -/
def read (snapshot : Snapshot) (mode : ReadMode) (address : UInt64) (length : Nat) :
    Except MemoryError (List UInt8) :=
  let bytes := snapshot.gather address length
  if bytes.length = length then .ok bytes
  else if mode = .upTo && !bytes.isEmpty then .ok bytes
  else .error (.unmapped address length)

/-- The value of a register: as it is held, or as the first slice of a held register that shows
it. -/
def register (snapshot : Snapshot) (name : String) : Option UInt64 :=
  let key := Text.lower name
  match snapshot.registers.find? key with
  | some value => some value
  | none =>
    (RegisterSlice.candidates snapshot.machine.arch key).findSome? fun slice =>
      (snapshot.registers.find? slice.register).map slice.extract

/-- The program counter. -/
def pc (snapshot : Snapshot) : Option UInt64 :=
  snapshot.register snapshot.machine.arch.pcRegister

/-- The stack pointer. -/
def sp (snapshot : Snapshot) : Option UInt64 :=
  snapshot.register snapshot.machine.arch.spRegister

/-- The page of the region at an address. -/
def pageAt (snapshot : Snapshot) (address : UInt64) : Option Page :=
  (snapshot.regionAt address).map fun region => {
    start := region.start, stop := region.stop, readable := region.readable,
    writable := region.writable, executable := region.executable, objfile := region.objfile }

/-- A snapshot as a process. -/
def process (snapshot : Snapshot) : Process where
  machine := snapshot.machine
  register := snapshot.register
  pc := snapshot.pc
  sp := snapshot.sp
  read := snapshot.read
  symbolAt := snapshot.symbols.resolve
  pageAt := snapshot.pageAt

end Snapshot

end CodeWindow
