import CodeWindow.Session

/-! Windows with a record of the emulator's steps. Each visit of a walk holds the instruction and
the states that the emulator was asked to step from on its account. Without the states, the record
is the window. -/

namespace CodeWindow

/-- An instruction that a walk saw, and the states that the emulator was asked to step from when the
instruction was enhanced. -/
structure Visit (σ : Type) where
  insn : Instruction
  steps : List σ

variable {σ : Type} [Emulator σ]

/-- The emulation after a step, and the states that the emulator was asked to step from. -/
def Emulation.stepRecorded : Emulation σ → Emulation σ × List σ
  | .active state =>
    match Emulator.step state with
    | .ok next => (.active next, [state])
    | .error _ => (.off, [state])
  | .off => (.off, [])

theorem Emulation.stepRecorded_fst (emulation : Emulation σ) :
    emulation.stepRecorded.1 = emulation.step := by
  cases emulation with
  | off => rfl
  | active state =>
    simp only [stepRecorded, step]
    cases Emulator.step state <;> rfl

namespace Enhancement

/-- The visit of an instruction, and the emulation behind it. -/
def enhanceRecorded (isa : Isa) (process : Process) (config : Config) (insn : Instruction)
    (emulation : Emulation σ) : Visit σ × Emulation σ :=
  let entering := emulation.readyFor insn
  let (leaving, steps) := entering.stepRecorded
  ({ insn := describe isa process config insn entering leaving, steps }, leaving)

theorem enhance_eq_recorded (isa : Isa) (process : Process) (config : Config) (insn : Instruction)
    (emulation : Emulation σ) :
    enhance isa process config insn emulation =
      ((enhanceRecorded isa process config insn emulation).1.insn,
        (enhanceRecorded isa process config insn emulation).2) := by
  simp only [enhance, enhanceRecorded, Emulation.stepRecorded_fst]

end Enhancement

namespace Session

/-- The visit at an address, as a walk makes it. -/
def visitRecorded (session : Session) (disassembler : Disassembler) (process : Process)
    (address : UInt64) (emulation : Emulation σ) : Option (Visit σ) × Emulation σ × Session :=
  if process.peek address then
    match session.decode disassembler process address with
    | (none, session) => (none, emulation, session)
    | (some decoded, session) =>
      let (visit, emulation) :=
        Enhancement.enhanceRecorded decoded.arch.isa process session.config decoded emulation
      let kept := { session with computed := session.computed.insert address visit.insn }
      (some visit, emulation, kept.remember visit.insn)
  else (none, emulation, session)

theorem visit_eq_recorded (session : Session) (disassembler : Disassembler) (process : Process)
    (address : UInt64) (emulation : Emulation σ) :
    session.visit disassembler process address emulation =
      ((session.visitRecorded disassembler process address emulation).1.map Visit.insn,
        (session.visitRecorded disassembler process address emulation).2) := by
  simp only [visit, visitRecorded, compute, Enhancement.enhance_eq_recorded, if_true]
  split
  · rcases session.decode disassembler process address with ⟨_ | decoded, session⟩ <;> rfl
  · rfl

/-- The visits behind an instruction. -/
def walkRecorded (disassembler : Disassembler) (process : Process) :
    Nat → Instruction → Emulation σ → Session → List (Visit σ) × Session
  | 0, _, _, session => ([], session)
  | count + 1, last, emulation, session =>
    let emulation := emulation.past last
    match session.visitRecorded disassembler process (emulation.pc?.getD last.next) emulation with
    | (none, _, session) => ([], session)
    | (some visit, emulation, session) =>
      let (later, session) := walkRecorded disassembler process count visit.insn emulation session
      (visit :: later, session)

theorem walk_eq_recorded (disassembler : Disassembler) (process : Process) (count : Nat)
    (last : Instruction) (emulation : Emulation σ) (session : Session) :
    walk disassembler process count last emulation session =
      ((walkRecorded disassembler process count last emulation session).1.map Visit.insn,
        (walkRecorded disassembler process count last emulation session).2) := by
  induction count generalizing last emulation session with
  | zero => rfl
  | succ count ih =>
    simp only [walk, walkRecorded, visit_eq_recorded]
    rcases session.visitRecorded disassembler process
      (((emulation.past last).pc?).getD last.next) (emulation.past last)
      with ⟨_ | visit, after, next⟩
    · rfl
    · simp only [Option.map_some, ih, List.map_cons]

/-- A window before it is cut: the remembered instructions that led to the current one, the nearest
first, and the visits from the current one on. -/
structure Assembly (σ : Type) where
  earlier : List Instruction := []
  visits : List (Visit σ) := []

/-- The instructions of a window before it is cut. -/
def Assembly.insns {σ : Type} (assembly : Assembly σ) : List Instruction :=
  assembly.earlier.reverse ++ assembly.visits.map Visit.insn

/-- The window around an address before it is cut. -/
def assemble (session : Session) (host : Host σ) (process : Process) (request : WindowRequest) :
    Assembly σ × Session :=
  let (emulation, session) := session.startEmulation host process request
  match session.visitRecorded host.disassembler process request.address emulation with
  | (none, _, session) => ({}, session)
  | (some current, emulation, session) =>
    let (earlier, session) :=
      if request.history then
        history host.disassembler process request.count current.insn.address session
      else ([], session)
    let (later, session) :=
      walkRecorded host.disassembler process (windowSize request.count - (1 + earlier.length))
        current.insn emulation session
    ({ earlier, visits := current :: later }, session)

theorem near_eq_recorded (session : Session) (host : Host σ) (process : Process)
    (request : WindowRequest) :
    session.near host process request =
      ((collapse (session.assemble host process request).1.insns.reverse).reverse,
        (session.assemble host process request).2) := by
  simp only [near, assemble, visit_eq_recorded, walk_eq_recorded]
  generalize session.startEmulation host process request = start
  obtain ⟨emulation, session⟩ := start
  rcases session.visitRecorded host.disassembler process request.address emulation with
    ⟨_ | current, emulation, session⟩
  · simp [Assembly.insns, collapse]
  · simp only [Option.map_some, Assembly.insns, List.map_cons]

end Session

end CodeWindow
