import CodeWindow.Chain
import CodeWindow.Emulator
import CodeWindow.Snapshot
import CodeWindow.Snapshot.Values

/-! An emulator that plays a script over a snapshot. Each step of the script says which registers
and which memory it changes and where the program counter is afterwards, or that it fails. -/

namespace CodeWindow

/-- Memory that a script puts in place, with permissions as they are written. -/
structure ScriptedRegion where
  start : UInt64
  data : List UInt8
  permissions : String

/-- One step of a script. -/
structure ScriptedStep where
  fails : Bool
  pc : UInt64
  registers : List (String × UInt64)
  regions : List ScriptedRegion

/-- A state of the emulator: its snapshot, its program counter, and the steps to come. -/
structure ScriptedEmulator where
  snapshot : Snapshot
  pc : UInt64
  steps : List ScriptedStep

namespace ScriptedEmulator

/-- A snapshot with scripted memory in place; permissions that cannot be read are the usual ones. -/
def place (snapshot : Snapshot) (region : ScriptedRegion) : Snapshot :=
  let permissions :=
    match Snapshot.readPermissions region.permissions with
    | .ok permissions => permissions
    | .error _ => Snapshot.Permissions.usual
  snapshot.mapRegion {
    start := region.start, data := region.data, readable := permissions.readable,
    writable := permissions.writable, executable := permissions.executable, objfile := "" }

/-- A snapshot with registers set and memory put in place. -/
def apply (snapshot : Snapshot) (registers : List (String × UInt64))
    (regions : List ScriptedRegion) : Snapshot :=
  regions.foldl place
    (registers.foldl (fun snapshot binding => snapshot.setRegister binding.1 binding.2) snapshot)

/-- The state after the next step of the script. -/
def step (emulator : ScriptedEmulator) : Except EmulationError ScriptedEmulator :=
  match emulator.steps with
  | [] => .error (.stepFailed emulator.pc)
  | next :: rest =>
    if next.fails then .error (.stepFailed emulator.pc)
    else .ok {
      snapshot := apply emulator.snapshot next.registers next.regions, pc := next.pc,
      steps := rest }

/-- The chain from an address through the emulator's memory. -/
def telescope (emulator : ScriptedEmulator) (address : UInt64) (limit : Nat)
    (readSize : Option Nat) : List UInt64 :=
  let process := emulator.snapshot.process
  match readSize with
  | some size =>
    if size < process.machine.pointerSize then
      match process.readUInt address size with
      | .ok value => [address, value]
      | .error _ => [address]
    else Chain.ofProcess process address limit
  | none => Chain.ofProcess process address limit

/-- The text of a chain, marked as the emulator's. -/
def renderChain (emulator : ScriptedEmulator) (links : List UInt64) (limit maxLength : Nat) :
    String :=
  "emu:" ++ Chain.render emulator.snapshot.process links limit true maxLength

instance : Emulator ScriptedEmulator where
  pc := pc
  step := step
  readRegister emulator := emulator.snapshot.register
  telescope := telescope
  renderChain := renderChain

end ScriptedEmulator

end CodeWindow
