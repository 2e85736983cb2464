import CodeWindow.AddressMap
import CodeWindow.Decoder
import CodeWindow.Enhancement

/-! Sessions: windows of instructions around an address, and what is remembered between them. A
window holds the instructions that led to the address, as far as they are remembered, the
instruction there, and those that follow it, along the emulator's path while it is trusted. -/

namespace CodeWindow

/-- What a session works with: a disassembler, a maker of emulators, and the answer to the question
whether the host has the resources that emulators need. -/
structure Host (σ : Type) where
  disassembler : Disassembler
  factory : Option (EmulatorFactory σ) := none
  probe : Except ResourceError Unit := .ok ()

/-- What a session remembers. -/
structure Session where
  config : Config
  decoders : DecoderCache := .empty
  /-- Under the successor of an instruction, the address of the instruction that led there last. -/
  predecessors : AddressMap UInt64 := .empty
  /-- The instructions enhanced by walks, each under its address. -/
  computed : AddressMap Instruction := .empty
  /-- Resources have not been asked for yet. -/
  firstEmulation : Bool := true
  /-- Messages for the user, in order. -/
  warnings : List String := []
  /-- How often resources were asked for. -/
  probes : Nat := 0
  /-- How often an emulator was asked for. -/
  creations : Nat := 0

/-- What a window is asked for. -/
structure WindowRequest where
  address : UInt64
  count : Nat
  emulate : Bool
  history : Bool

namespace Session

variable {σ : Type} [Emulator σ]

/-- A session without memories. -/
def start (config : Config) : Session := { config }

/-- The instruction that a walk enhanced last at an address. -/
def cached (session : Session) (address : UInt64) : Option Instruction :=
  session.computed.find? address

/-- Forgets what belongs to a process. Resources are not asked for again. -/
def reset (session : Session) : Session :=
  { session with
    decoders := .empty, predecessors := .empty, computed := .empty, warnings := [] }

/-- Notes which instruction led to its successor. -/
def remember (session : Session) (insn : Instruction) : Session :=
  { session with predecessors := session.predecessors.insert insn.next insn.address }

/-- The instruction at an address, decoded in the mode in which the process runs. -/
def decode (session : Session) (disassembler : Disassembler) (process : Process)
    (address : UInt64) : Option Instruction × Session :=
  let mode := DecoderMode.select process.machine process.register
  let (decoder, decoders) := session.decoders.get (.ofMachine process.machine mode)
  let insn :=
    match process.read .upTo address process.machine.arch.maxInstructionSize with
    | .ok code => (decoder.decode disassembler code address).toOption
    | .error _ => none
  (insn, { session with decoders })

/-- The instruction at an address, decoded and enhanced; a walk keeps it. -/
def compute (session : Session) (disassembler : Disassembler) (process : Process)
    (address : UInt64) (emulation : Emulation σ) (keep : Bool) :
    Option Instruction × Emulation σ × Session :=
  match session.decode disassembler process address with
  | (none, session) => (none, emulation, session)
  | (some decoded, session) =>
    let (insn, emulation) :=
      Enhancement.enhance decoded.arch.isa process session.config decoded emulation
    let kept :=
      if keep then { session with computed := session.computed.insert address insn } else session
    (some insn, emulation, kept.remember insn)

/-- The instruction at an address as a walk sees it: enhanced anew, and kept. -/
def visit (session : Session) (disassembler : Disassembler) (process : Process)
    (address : UInt64) (emulation : Emulation σ) : Option Instruction × Emulation σ × Session :=
  if process.peek address then session.compute disassembler process address emulation true
  else (none, emulation, session)

/-- The instruction at an address as history sees it: as it was kept, or else enhanced without an
emulator. -/
def recollect (session : Session) (disassembler : Disassembler) (process : Process)
    (address : UInt64) : Option Instruction × Session :=
  if process.peek address then
    match session.computed.find? address with
    | some insn => (some insn, session.remember insn)
    | none =>
      let (insn, _, session) :=
        session.compute disassembler process address (Emulation.off : Emulation Empty) false
      (insn, session)
  else (none, session)

/-- The instruction at an address, enhanced without an emulator and not kept. -/
def one (session : Session) (disassembler : Disassembler) (process : Process)
    (address : UInt64) : Option Instruction × Session :=
  if process.peek address then
    let (insn, _, session) :=
      session.compute disassembler process address (Emulation.off : Emulation Empty) false
    (insn, session)
  else (none, session)

/-- At most so many remembered instructions that led to an address, the nearest first. -/
def history (disassembler : Disassembler) (process : Process) :
    Nat → UInt64 → Session → List Instruction × Session
  | 0, _, session => ([], session)
  | count + 1, address, session =>
    match session.predecessors.find? address with
    | none => ([], session)
    | some previous =>
      match session.recollect disassembler process previous with
      | (none, session) => ([], session)
      | (some insn, session) =>
        let (earlier, session) := history disassembler process count insn.address session
        (insn :: earlier, session)

/-- At most so many instructions that follow one, along the emulator's program counter while it is
trusted, and along the successors of the instructions from there on. -/
def walk (disassembler : Disassembler) (process : Process) :
    Nat → Instruction → Emulation σ → Session → List Instruction × Session
  | 0, _, _, session => ([], session)
  | count + 1, last, emulation, session =>
    let emulation := emulation.past last
    match session.visit disassembler process (emulation.pc?.getD last.next) emulation with
    | (none, _, session) => ([], session)
    | (some insn, emulation, session) =>
      let (later, session) := walk disassembler process count insn emulation session
      (insn :: later, session)

/-- Instructions, latest first, with only the last two kept of a run of one address at the end. -/
def collapse : List Instruction → List Instruction
  | last :: second :: third :: rest =>
    if third.address = second.address && second.address = last.address then
      collapse (second :: third :: rest)
    else last :: second :: third :: rest
  | insns => insns

/-- The warning that emulation is switched off. -/
def resourceWarning (cause : ResourceError) : String :=
  "Disabling emulation used to compute branches: " ++ cause.message ++
    ". Free some memory or set emulation off explicitly"

/-- Whether emulators may be made. The host is asked once; when it lacks the resources, emulation is
off for the rest of the session. -/
def canEmulate (session : Session) (probe : Except ResourceError Unit) : Bool × Session :=
  if session.firstEmulation then
    let asked := { session with firstEmulation := false, probes := session.probes + 1 }
    match probe with
    | .ok () => (true, asked)
    | .error cause =>
      (false, { asked with
        warnings := asked.warnings ++ [resourceWarning cause]
        config := { asked.config with emulate := .off } })
  else (true, session)

/-- A window may be led by an emulator: it is asked for at the program counter, the configuration
does not rule it out, and there are emulators for the architecture. -/
def wantsEmulator (session : Session) (host : Host σ) (process : Process)
    (request : WindowRequest) : Bool :=
  let supported :=
    match host.factory with
    | some factory => factory.supports process.machine.arch
    | none => false
  process.pc == some request.address && request.emulate && session.config.emulate ≠ .off &&
    supported

/-- The emulation that leads a window, if one is wanted and can be made. -/
def startEmulation (session : Session) (host : Host σ) (process : Process)
    (request : WindowRequest) : Emulation σ × Session :=
  if session.wantsEmulator host process request then
    match session.canEmulate host.probe, host.factory with
    | (true, session), some factory =>
      let emulation :=
        match factory.create process with
        | .ok state => .active state
        | .error _ => .off
      (emulation, { session with creations := session.creations + 1 })
    | (_, session), _ => (.off, session)
  else (.off, session)

/-- The size that a window is filled up to. Sizes have 64 bits and start over behind the greatest of
them. -/
def windowSize (count : Nat) : Nat := (1 + 2 * count) % UInt64.size

theorem windowSize_le (count : Nat) : windowSize count ≤ 1 + 2 * count := Nat.mod_le _ _

/-- The window around an address: up to `count` remembered instructions that led there, the
instruction there, and as many of the instructions that follow as the size of the window allows. -/
def near (session : Session) (host : Host σ) (process : Process) (request : WindowRequest) :
    List Instruction × Session :=
  let (emulation, session) := session.startEmulation host process request
  match session.visit host.disassembler process request.address emulation with
  | (none, _, session) => ([], session)
  | (some current, emulation, session) =>
    let (earlier, session) :=
      if request.history then
        history host.disassembler process request.count current.address session
      else ([], session)
    let (later, session) :=
      walk host.disassembler process (windowSize request.count - (1 + earlier.length)) current
        emulation session
    ((collapse (earlier.reverse ++ current :: later).reverse).reverse, session)

/-- The window around the program counter. -/
def window (session : Session) (host : Host σ) (process : Process) (count : Nat)
    (emulate history : Bool) : List Instruction × Session :=
  match process.pc with
  | some address => session.near host process { address, count, emulate, history }
  | none => ([], session)

end Session

end CodeWindow
