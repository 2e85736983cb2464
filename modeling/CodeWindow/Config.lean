/-! The configuration of enhancement. -/

namespace CodeWindow

/-- How much of an instruction may come from an emulator: everything, the path of control only, or
nothing. -/
inductive EmulateMode where
  | on
  | jumpsOnly
  | off
  deriving DecidableEq

namespace EmulateMode

/-- All modes. -/
def all : List EmulateMode := [on, jumpsOnly, off]

/-- The name of a mode. -/
def name : EmulateMode → String
  | on => "on"
  | jumpsOnly => "jumps-only"
  | off => "off"

/-- The mode with a name. -/
def ofName? (text : String) : Option EmulateMode := all.find? fun mode => mode.name == text

end EmulateMode

/-- The options of enhancement. -/
structure Config where
  /-- Emulation of code from the program counter. -/
  emulate : EmulateMode := .on
  /-- Instructions carry notes on operand values and results. -/
  disasmAnnotations : Bool := true
  /-- Values of registers and memory may come from the emulator. -/
  emulateAnnotations : Bool := true
  /-- Emulated values are also used for instructions that lie ahead of the program counter. -/
  emulateFutureAnnotations : Bool := true
  /-- The number of links shown of a pointer chain. -/
  telescopeDepth : Nat := 3
  /-- The number of characters shown of a string at the end of a pointer chain. -/
  telescopeStringLength : Nat := 50
  deriving DecidableEq

/-- Operand values may come from the emulator. -/
def Config.valuesFromEmulator (config : Config) : Bool :=
  config.emulate = .on && config.emulateAnnotations

end CodeWindow
