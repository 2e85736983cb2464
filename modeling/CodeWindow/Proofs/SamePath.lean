import CodeWindow.Emulator.Scripted
import CodeWindow.Proofs.EmulatedWalk
import CodeWindow.Proofs.Reachable
import CodeWindow.Proofs.Withheld
import Mathlib.Data.List.Forall2

/-! The path of a window does not depend on where values come from. Two walks with different
configurations run in lockstep: while the emulator leads, both are where it is, and where it is
off, both follow successors that were found without it. A step that fails is the exception, for
then the values before it may be the emulator's and the successor is not. -/

namespace CodeWindow

variable {σ : Type} [Emulator σ]

namespace Enhancement

/-! ### What the configuration does not decide -/

section

variable (isa : Isa) (ctx : Context σ) (config : Config) (insn : Instruction)

theorem valuesBefore_withConfig :
    valuesBefore isa { ctx with config } insn = valuesBefore isa ctx insn := by
  cases isa <;> rfl

/-- The configuration decides of notes, and of no successor. -/
theorem conclude_withConfig_next (jumpPc : Option UInt64) :
    (conclude isa { ctx with config } insn jumpPc).next = (conclude isa ctx insn jumpPc).next := by
  unfold conclude withNote
  split <;> split <;> cases isa <;> rfl

end

theorem describe_off_next (isa : Isa) (process : Process) (config other : Config)
    (insn : Instruction) :
    (describe isa process config insn (.off : Emulation σ) .off).next =
      (describe isa process other insn (.off : Emulation σ) .off).next := by
  have hsuccessor : ∀ before, (conclude isa (contextOff σ process other) before none).next =
      (conclude isa (contextOff σ process config) before none).next := fun before =>
    conclude_withConfig_next isa (contextOff σ process config) other before none
  have hvalues : valuesBefore isa (contextOff σ process other) insn =
      valuesBefore isa (contextOff σ process config) insn :=
    valuesBefore_withConfig isa (contextOff σ process config) other insn
  rw [describe_of_withheld isa (contextFor_off _ _ _) (contextFor_off _ _ _),
    describe_of_withheld isa (contextFor_off _ _ _) (contextFor_off _ _ _), hvalues]
  exact (hsuccessor _).symm

end Enhancement

/-! ### Visits in lockstep -/

omit [Emulator σ] in
/-- Two visits of the same code, with the same steps of the emulator. -/
structure Visit.SamePath (visit other : Visit σ) : Prop where
  code : visit.insn.SameCode other.insn
  steps : visit.steps = other.steps

/-- No step fails that the emulator is asked for. -/
def Visit.Succeeds (visit : Visit σ) : Prop :=
  ∀ state ∈ visit.steps, (Emulator.step state).isOk = true

namespace Enhancement

variable (isa : Isa) (process : Process) (config other : Config) (insn : Instruction)
  (emulation : Emulation σ)

theorem enhanceRecorded_samePath :
    Visit.SamePath (enhanceRecorded isa process config insn emulation).1
      (enhanceRecorded isa process other insn emulation).1 where
  code := (describe_sameCode isa process config insn _ _).trans
    (describe_sameCode isa process other insn _ _).symm
  steps := rfl

/-- Where no step fails, an instruction without an emulator behind it had none before it. -/
theorem enhanceRecorded_next
    (hsucceeds : (enhanceRecorded isa process config insn emulation).1.Succeeds)
    (hoff : (enhanceRecorded isa process config insn emulation).2 = .off) :
    (enhanceRecorded isa process config insn emulation).1.insn.next =
      (enhanceRecorded isa process other insn emulation).1.insn.next := by
  simp only [enhanceRecorded] at hsucceeds hoff ⊢
  cases hready : emulation.readyFor insn with
  | off => exact describe_off_next isa process config other insn
  | active state =>
    rw [hready] at hsucceeds hoff
    cases hstep : Emulator.step state with
    | error cause =>
      have hok := hsucceeds state (by simp [Emulation.stepRecorded, hstep])
      simp [hstep, Except.isOk, Except.toBool] at hok
    | ok next => simp [Emulation.stepRecorded, hstep] at hoff

end Enhancement

namespace Session

omit [Emulator σ] in
/-- Two walks in step: both continue with the same emulation, behind the same code, and to the same
place where the emulation is off. -/
structure InStep (process : Process) (emulation : Emulation σ) (last lastOther : Instruction)
    (session other : Session) : Prop where
  code : last.SameCode lastOther
  past : emulation.past last = emulation
  next : emulation = .off → last.next = lastOther.next
  decoder : session.decoderFor process = other.decoderFor process

variable {session other : Session} {disassembler : Disassembler} {process : Process}

omit [Emulator σ] in
theorem InStep.pastOther {emulation : Emulation σ} {last lastOther : Instruction}
    (h : InStep process emulation last lastOther session other) :
    emulation.past lastOther = emulation := by
  have hpast := h.past
  unfold Emulation.past at hpast ⊢
  rwa [← h.code.blocksEmulation]

theorem InStep.place {emulation : Emulation σ} {last lastOther : Instruction}
    (h : InStep process emulation last lastOther session other) :
    emulation.pc?.getD lastOther.next = emulation.pc?.getD last.next := by
  cases emulation with
  | off => exact (h.next rfl).symm
  | active state => rfl

/-- Sessions that decode alike see the same code, and stay in step behind it if no step fails. -/
theorem visitRecorded_samePath (hdecoder : session.decoderFor process = other.decoderFor process)
    (disassembler : Disassembler) (address : UInt64) (emulation : Emulation σ) :
    (session.visitRecorded disassembler process address emulation =
        (none, emulation, session.lookedAt process address) ∧
      other.visitRecorded disassembler process address emulation =
        (none, emulation, other.lookedAt process address)) ∨
    ∃ visit visitOther remaining after afterOther,
      session.visitRecorded disassembler process address emulation =
        (some visit, remaining, after) ∧
      other.visitRecorded disassembler process address emulation =
        (some visitOther, remaining, afterOther) ∧
      visit.SamePath visitOther ∧
      (visit.Succeeds → InStep process remaining visit.insn visitOther.insn after afterOther) := by
  have hsame : other.found disassembler process address =
      session.found disassembler process address := found_congr hdecoder.symm
  cases hfound : session.found disassembler process address with
  | none =>
    exact .inl ⟨visitRecorded_of_not_found hfound emulation,
      visitRecorded_of_not_found (hsame.trans hfound) emulation⟩
  | some decoded =>
    have hpath := Enhancement.enhanceRecorded_samePath decoded.arch.isa process session.config
      other.config decoded emulation
    refine .inr ⟨_, _, _, _, _, visitRecorded_of_found hfound emulation,
      visitRecorded_of_found (hsame.trans hfound) emulation, hpath, fun hsucceeds => ?_⟩
    have htakes := Enhancement.enhanceRecorded_takes decoded.arch.isa process session.config
      (found_fresh hfound).2 emulation
    constructor
    case code => exact hpath.code
    case past => exact htakes.past_eq
    case next => exact Enhancement.enhanceRecorded_next _ _ _ _ _ _ hsucceeds
    case decoder =>
      rw [(SameSight.behind session process address _).decoder,
        (SameSight.behind other process address _).decoder, hdecoder]

/-- Walks that start in step stay in step. -/
theorem walkRecorded_samePath (disassembler : Disassembler) (process : Process) (count : Nat)
    {emulation : Emulation σ} {last lastOther : Instruction} {session other : Session}
    (h : InStep process emulation last lastOther session other)
    (hsucceeds : ∀ visit ∈ (walkRecorded disassembler process count last emulation session).1,
      visit.Succeeds) :
    List.Forall₂ Visit.SamePath
      (walkRecorded disassembler process count last emulation session).1
      (walkRecorded disassembler process count lastOther emulation other).1 := by
  induction count generalizing emulation last lastOther session other with
  | zero => exact .nil
  | succ count ih =>
    simp only [walkRecorded, h.past, h.pastOther, h.place] at hsucceeds ⊢
    rcases visitRecorded_samePath h.decoder disassembler (emulation.pc?.getD last.next) emulation
      with ⟨hnone, hnoneOther⟩ |
        ⟨visit, visitOther, remaining, after, afterOther, hvisit, hvisitOther, hpath, hstep⟩
    · simp only [hnone, hnoneOther]
      exact .nil
    · simp only [hvisit, hvisitOther] at hsucceeds ⊢
      obtain ⟨hvisit, hlater⟩ := List.forall_mem_cons.mp hsucceeds
      exact .cons hpath (ih (hstep hvisit) hlater)

/-- Windows that start with the same emulation follow one path before they are cut. -/
theorem assemble_samePath {session other : Session} {host : Host σ} {process : Process}
    {request : WindowRequest} (hhistory : request.history = false)
    (hemulation : (session.startEmulation host process request).1 =
      (other.startEmulation host process request).1)
    (hdecoders : session.decoders = other.decoders)
    (hsucceeds : ∀ visit ∈ (session.assemble host process request).1.visits, visit.Succeeds) :
    List.Forall₂ Instruction.SameCode (session.assemble host process request).1.insns
      (other.assemble host process request).1.insns := by
  have hframe := (session.startEmulation_frame host process request).2.1
  have hframeOther := (other.startEmulation_frame host process request).2.1
  rcases hstart : session.startEmulation host process request with ⟨emulation, started⟩
  rcases hstartOther : other.startEmulation host process request with ⟨emulationOther, startedOther⟩
  rw [hstart, hstartOther] at hemulation
  rw [hstart] at hframe
  rw [hstartOther] at hframeOther
  obtain rfl : emulation = emulationOther := hemulation
  have hstarted : started.decoders = startedOther.decoders :=
    hframe.trans (hdecoders.trans hframeOther.symm)
  have hdecoder : started.decoderFor process = startedOther.decoderFor process := by
    unfold decoderFor
    rw [hstarted]
  simp only [assemble, hstart, hstartOther, hhistory, Bool.false_eq_true, if_false] at hsucceeds ⊢
  rcases visitRecorded_samePath hdecoder host.disassembler request.address emulation
    with ⟨hnone, hnoneOther⟩ |
      ⟨current, currentOther, remaining, after, afterOther, hvisit, hvisitOther, hpath, hstep⟩
  · simp only [hnone, hnoneOther]
    exact .nil
  · simp only [hvisit, hvisitOther] at hsucceeds ⊢
    obtain ⟨hcurrent, hlater⟩ := List.forall_mem_cons.mp hsucceeds
    have hwalk := walkRecorded_samePath host.disassembler process _ (hstep hcurrent) hlater
    refine .cons hpath.code ?_
    exact List.forall₂_map_left_iff.mpr (List.forall₂_map_right_iff.mpr
      (hwalk.imp fun _ _ hpath => hpath.code))

/-- The cut looks at addresses alone. -/
theorem exists_drop_collapse {insns others : List Instruction}
    (h : List.Forall₂ Instruction.SameCode insns others) :
    ∃ cut, collapse insns = insns.drop cut ∧ collapse others = others.drop cut := by
  induction h with
  | nil => exact ⟨0, rfl, rfl⟩
  | @cons last lastOther insns others hlast hrest ih =>
    cases hrest with
    | nil => exact ⟨0, rfl, rfl⟩
    | @cons second secondOther insns others hsecond hrest =>
      cases hrest with
      | nil => exact ⟨0, rfl, rfl⟩
      | @cons third thirdOther insns others hthird hrest =>
        obtain ⟨cut, hcut, hcutOther⟩ := ih
        simp only [collapse, hthird.address, hsecond.address, hlast.address]
        split
        · exact ⟨cut + 1, hcut, hcutOther⟩
        · exact ⟨0, rfl, rfl⟩

theorem map_eq_of_sameCode {α : Type} {read : Instruction → α} {insns others : List Instruction}
    (hread : ∀ {insn other : Instruction}, insn.SameCode other → read insn = read other)
    (h : List.Forall₂ Instruction.SameCode insns others) : insns.map read = others.map read := by
  induction h with
  | nil => rfl
  | cons hcode _ ih => rw [List.map_cons, List.map_cons, hread hcode, ih]

omit [Emulator σ] in
/-- Configurations that allow emulation start the same emulation. -/
theorem startEmulation_withConfig (session : Session) (config : Config) (host : Host σ)
    (process : Process) (request : WindowRequest) (hfirst : session.config.emulate ≠ .off)
    (hsecond : config.emulate ≠ .off) :
    (({ session with config } : Session).startEmulation host process request).1 =
      (session.startEmulation host process request).1 := by
  have hwants : ({ session with config } : Session).wantsEmulator host process request =
      session.wantsEmulator host process request := by
    simp only [wantsEmulator, hfirst, hsecond, ne_eq, not_false_eq_true, decide_true]
  have hmay : (({ session with config } : Session).canEmulate host.probe).1 =
      (session.canEmulate host.probe).1 := by
    unfold canEmulate
    cases session.firstEmulation <;> cases host.probe <;> rfl
  exact startEmulation_congr hwants hmay

/-- The configuration decides whether there are emulated values, but not where they lead: as long as
emulation is allowed and no step fails, the window shows the same addresses, emulated or not. -/
theorem near_samePath (session : Session) (config : Config) (host : Host σ) (process : Process)
    (request : WindowRequest) (hhistory : request.history = false)
    (hfirst : session.config.emulate ≠ .off) (hsecond : config.emulate ≠ .off)
    (hsucceeds : ∀ visit ∈ (session.assemble host process request).1.visits, visit.Succeeds) :
    let window := (session.near host process request).1
    let other := (({ session with config } : Session).near host process request).1
    window.map Instruction.address = other.map Instruction.address ∧
      window.map Instruction.emulated = other.map Instruction.emulated := by
  intro window other
  have hemulation :=
    session.startEmulation_withConfig config host process request hfirst hsecond
  have hreversed := List.forall₂_reverse_iff.mpr
    (assemble_samePath hhistory hemulation.symm rfl hsucceeds)
  obtain ⟨cut, hcut, hcutOther⟩ := exists_drop_collapse hreversed
  have hwindow : List.Forall₂ Instruction.SameCode window other := by
    simp only [window, other, near_eq_recorded, hcut, hcutOther]
    exact List.forall₂_reverse_iff.mpr (List.forall₂_drop cut hreversed)
  exact ⟨map_eq_of_sameCode (fun hcode => hcode.address) hwindow,
    map_eq_of_sameCode (fun hcode => hcode.emulated) hwindow⟩

/-- The emulator jumps where the process does not tell, and ends at a call. Only one of the windows
knows why it jumps. -/
theorem near_call_samePath :
    let snapshot : Snapshot := {
      machine := .ofArch .x86_64
      registers := NameMap.empty.insert "rip" 0x1000
      regions := AddressMap.empty.insert 0x1000 {
        start := 0x1000, data := List.replicate 32 0x90, readable := true, writable := false
        executable := true, objfile := "" } }
    let host : Host ScriptedEmulator := {
      disassembler := fun _ _ address =>
        if address = 0x1000 then some {
          size := 2, mnemonic := "jne", operandText := "", groups := [1]
          operands := [{ kind := .immediate 0x1010 }] }
        else if address = 0x1010 then some {
          size := 5, mnemonic := "call", operandText := "", groups := [2]
          operands := [{ kind := .immediate 0x1000 }] }
        else some {
          size := 1, mnemonic := "inc", operandText := "", groups := []
          operands := [{ kind := .register "rax" }] }
      factory := some {
        supports := fun _ => true
        create := fun _ => .ok {
          snapshot := { snapshot with registers := snapshot.registers.insert "eflags" 0 }
          pc := 0x1000
          steps := [{ fails := false, pc := 0x1010, registers := [], regions := [] }] } } }
    let request : WindowRequest := {
      address := 0x1000, count := 1, emulate := true, history := false }
    let session : Session := start { emulate := .on }
    let config : Config := { emulate := .jumpsOnly, disasmAnnotations := false }
    let window := (session.near host snapshot.process request).1
    let other := (({ session with config } : Session).near host snapshot.process request).1
    window.map Instruction.address = [0x1000, 0x1010, 0x1015] ∧
      window.map Instruction.emulated = [true, false, false] ∧
      window.map Instruction.condition ≠ other.map Instruction.condition ∧
      window.map Instruction.address = other.map Instruction.address ∧
      window.map Instruction.emulated = other.map Instruction.emulated := by
  intro snapshot host request session config window other
  have hsucceeds : ∀ visit ∈ (session.assemble host snapshot.process request).1.visits,
      ∀ state ∈ visit.steps, (Emulator.step state).isOk = true := by
    decide +kernel
  exact ⟨by decide +kernel, by decide +kernel, by decide +kernel,
    near_samePath session config host snapshot.process request rfl (by decide) (by decide)
      hsucceeds⟩

end Session

end CodeWindow
