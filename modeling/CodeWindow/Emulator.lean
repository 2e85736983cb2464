import CodeWindow.Error
import CodeWindow.Process

/-! Emulators: processors in a sandbox that start from the state of a process at its program
counter. An emulator is a type of states; a step gives the next state or says why there is none. -/

namespace CodeWindow

/-- The states of an emulator. -/
class Emulator (σ : Type) where
  pc : σ → UInt64
  /-- Runs the instruction at the program counter. -/
  step : σ → Except EmulationError σ
  readRegister : σ → String → Option UInt64
  /-- The chain of at most so many pointers from an address through emulated memory; a size below
  that of a pointer asks for one read of that size. -/
  telescope : σ → UInt64 → Nat → Option Nat → List UInt64
  /-- The text of a chain: so many links, and so many characters of a string at its end. -/
  renderChain : σ → List UInt64 → Nat → Nat → String

/-- The emulator without states: nothing is ever emulated. -/
instance : Emulator Empty where
  pc := nofun
  step := nofun
  readRegister := nofun
  telescope := nofun
  renderChain := nofun

/-- How a host makes emulators: for which architectures, and from which process. -/
structure EmulatorFactory (σ : Type) where
  supports : Architecture → Bool
  create : Process → Except EmulationError σ

/-- The emulator of one walk over instructions, while it is trusted. -/
inductive Emulation (σ : Type) where
  | off
  | active (state : σ)

namespace Emulation

variable {σ : Type}

/-- The emulator's state, while it is trusted. -/
def state? : Emulation σ → Option σ
  | off => none
  | active state => some state

/-- The emulator is trusted. -/
def isActive (emulation : Emulation σ) : Bool := emulation.state?.isSome

/-- The emulator's program counter, while it is trusted. -/
def pc? [Emulator σ] (emulation : Emulation σ) : Option UInt64 :=
  emulation.state?.map Emulator.pc

/-- A short description of an emulation. -/
def description [Emulator σ] : Emulation σ → String
  | off => "Off"
  | active state => "Active(pc=" ++ hexAddress (Emulator.pc state) ++ ")"

end Emulation

end CodeWindow
