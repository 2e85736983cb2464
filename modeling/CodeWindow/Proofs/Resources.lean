import CodeWindow.Emulator.Scripted
import CodeWindow.Proofs.EmulatedWalk
import CodeWindow.Proofs.Operations
import Mathlib.Algebra.GroupWithZero.Nat

/-! Resources and emulators over the life of a session. The host is asked for resources before it is
asked for the first emulator, and never again; when it refuses, emulation is off from then on. So
then nothing was ever emulated: what history shows of earlier windows was seen by walks without an
emulator. -/

namespace CodeWindow.Session

variable {σ : Type} [Emulator σ] {session : Session} {disassembler : Disassembler}
  {process : Process}

/-! ### Where emulated instructions come from -/

theorem find?_behind {address place : UInt64} {seen insn : Instruction}
    (h : (session.behind process address seen).computed.find? place = some insn) :
    session.computed.find? place = some insn ∨ seen = insn := by
  simp only [behind, AddressMap.find?_insert] at h
  split at h
  · exact .inr (Option.some.inj h)
  · exact .inl h

theorem find?_walkRecorded (count : Nat) (last : Instruction) (emulation : Emulation σ)
    {place : UInt64} {insn : Instruction}
    (h : (walkRecorded disassembler process count last emulation session).2.computed.find? place =
      some insn) :
    session.computed.find? place = some insn ∨
      ∃ visit ∈ (walkRecorded disassembler process count last emulation session).1,
        visit.insn = insn := by
  induction count generalizing session last emulation with
  | zero => exact .inl h
  | succ count ih =>
    generalize hentering : emulation.past last = entering
    generalize hnext : entering.pc?.getD last.next = next
    simp only [walkRecorded, hentering, hnext] at h ⊢
    cases hfound : session.found disassembler process next with
    | none =>
      simp only [visitRecorded_of_not_found hfound, lookedAt_computed] at h
      exact .inl h
    | some decoded =>
      simp only [visitRecorded_of_found hfound] at h ⊢
      rcases ih _ _ h with hkept | ⟨visit, hmem, hvisit⟩
      · exact (find?_behind hkept).imp_right fun hseen => ⟨_, List.mem_cons_self, hseen⟩
      · exact .inr ⟨visit, List.mem_cons_of_mem _ hmem, hvisit⟩

/-- History shows an emulated instruction only if it was kept. -/
theorem history_emulated (session : Session) (count : Nat) (address : UInt64) :
    ∀ insn ∈ (history disassembler process count address session).1, insn.emulated = true →
      ∃ place, session.computed.find? place = some insn := by
  induction count generalizing session address with
  | zero => exact List.forall_mem_nil _
  | succ count ih =>
    unfold history
    cases session.predecessors.find? address with
    | none => exact List.forall_mem_nil _
    | some previous =>
      have hcomputed := session.recollect_computed disassembler process previous
      simp only
      rcases session.recollect_cases disassembler process previous with
        ⟨insn, hkept, hrecollect⟩ | ⟨decoded, -, hfound, hrecollect⟩ | hrecollect <;>
        rw [hrecollect] at hcomputed ⊢
      · have hlater := ih (session.remember insn) insn.address
        exact List.forall_mem_cons.mpr ⟨fun _ => ⟨previous, hkept⟩, hlater⟩
      · have hlater := ih ((session.withDecoder process).remember (session.unkept process decoded))
          (session.unkept process decoded).address
        refine List.forall_mem_cons.mpr ⟨fun hemulated => ?_, hlater⟩
        rw [(session.unkept_sameCode process decoded).emulated, (found_fresh hfound).2]
          at hemulated
        contradiction
      · exact List.forall_mem_nil _

/-- What a window keeps was kept before it or seen by it, and so was each emulated instruction that
its history shows. -/
theorem assemble_kept (session : Session) (host : Host σ) (process : Process)
    (request : WindowRequest) :
    (∀ place insn,
      (session.assemble host process request).2.computed.find? place = some insn →
        session.computed.find? place = some insn ∨
          ∃ visit ∈ (session.assemble host process request).1.visits, visit.insn = insn) ∧
    (∀ insn ∈ (session.assemble host process request).1.earlier, insn.emulated = true →
      (∃ place, session.computed.find? place = some insn) ∨
        ∃ visit ∈ (session.assemble host process request).1.visits, visit.insn = insn) := by
  have hassembles := session.assemble_assembles host process request
  have hstarted := (session.startEmulation_frame host process request).1
  generalize (session.startEmulation host process request).2 = started at hassembles hstarted
  generalize session.assemble host process request = result at hassembles ⊢
  cases hassembles with
  | blind =>
    refine ⟨fun place insn hkept => .inl ?_, List.forall_mem_nil _⟩
    rwa [lookedAt_computed, hstarted] at hkept
  | @around decoded current remaining earlier later recalled after _ _ hrecalled hwalked =>
    have hcurrent : ∀ {place : UInt64} {insn : Instruction},
        (started.behind process request.address current.insn).computed.find? place = some insn →
        session.computed.find? place = some insn ∨
          ∃ visit ∈ current :: later, visit.insn = insn := by
      intro place insn hkept
      rw [← hstarted]
      exact (find?_behind hkept).imp_right fun hseen => ⟨current, List.mem_cons_self, hseen⟩
    refine ⟨fun place insn hkept => ?_, fun insn hmem hemulated => ?_⟩
    · obtain rfl := congrArg Prod.fst hwalked
      obtain rfl := congrArg Prod.snd hwalked
      rcases find?_walkRecorded _ _ _ hkept with hkept | ⟨visit, hmem, hvisit⟩
      · exact hcurrent ((historyFor_frame hrecalled).2 ▸ hkept)
      · exact .inr ⟨visit, List.mem_cons_of_mem _ hmem, hvisit⟩
    · unfold historyFor at hrecalled
      split at hrecalled
      · obtain rfl := congrArg Prod.fst hrecalled
        obtain ⟨place, hkept⟩ := history_emulated _ _ _ insn hmem hemulated
        exact (hcurrent hkept).imp_left fun hkept => ⟨place, hkept⟩
      · obtain rfl := congrArg Prod.fst hrecalled
        contradiction

/-- No instruction that is kept was emulated. -/
def Unemulated (session : Session) : Prop :=
  ∀ place insn, session.computed.find? place = some insn → insn.emulated = false

/-- A window without an emulator shows and keeps no emulated instruction, if none was kept. -/
theorem Unemulated.near (h : session.Unemulated) {host : Host σ} {request : WindowRequest}
    (hoff : (session.startEmulation host process request).1 = .off) :
    (∀ insn ∈ (session.near host process request).1, insn.emulated = false) ∧
      (session.near host process request).2.Unemulated := by
  have hleads := session.assemble_leads host process request
  rw [hoff] at hleads
  obtain ⟨hkept, hearlier⟩ := session.assemble_kept host process request
  rw [near_eq_recorded]
  generalize session.assemble host process request = result at hleads hkept hearlier ⊢
  obtain ⟨assembly, after⟩ := result
  have hseen : ∀ {insn : Instruction}, (∃ place, session.computed.find? place = some insn) ∨
      (∃ visit ∈ assembly.visits, visit.insn = insn) → insn.emulated = false := by
    rintro insn (⟨place, hkept⟩ | ⟨visit, hmem, rfl⟩)
    · exact h place insn hkept
    · exact (hleads.idle visit hmem).1
  refine ⟨fun insn hmem => ?_, fun place insn hfind => ?_⟩
  · have hmem : insn ∈ assembly.insns.reverse :=
      (collapse_suffix _).subset (List.mem_reverse.mp hmem)
    simp only [Assembly.insns, List.mem_reverse, List.mem_append, List.mem_map] at hmem
    rcases hmem with hmem | hmem
    · cases hemulated : insn.emulated with
      | false => rfl
      | true => exact hemulated ▸ hseen (hearlier insn hmem hemulated)
    · exact hseen (.inr hmem)
  · exact hseen ((hkept place insn hfind).imp_left fun hfind => ⟨place, hfind⟩)

theorem one_unemulated {address : UInt64} {insn : Instruction}
    (h : (session.one disassembler process address).1 = some insn) : insn.emulated = false := by
  rw [one_fst] at h
  obtain ⟨decoded, hfound, rfl⟩ := Option.map_eq_some_iff.mp h
  rw [(session.unkept_sameCode process decoded).emulated]
  exact (found_fresh hfound).2

theorem one_computed (session : Session) (disassembler : Disassembler) (process : Process)
    (address : UInt64) :
    (session.one disassembler process address).2.computed = session.computed := by
  rcases session.one_cases disassembler process address with ⟨decoded, -, hone⟩ | ⟨-, hone⟩
  · rw [hone]
    rfl
  · rw [hone, lookedAt_computed]

/-! ### Emulators -/

omit [Emulator σ] in
theorem wantsEmulator_iff {host : Host σ} {request : WindowRequest} :
    session.wantsEmulator host process request = true ↔
      process.pc = some request.address ∧ request.emulate = true ∧
        session.config.emulate ≠ .off ∧
        ∃ factory, host.factory = some factory ∧
          factory.supports process.machine.arch = true := by
  unfold wantsEmulator
  cases host.factory with
  | none => simp
  | some factory => simp [and_assoc]

/-- A window asks the host for one emulator at most, and only if it wants one. -/
theorem near_creations (session : Session) (host : Host σ) (process : Process)
    (request : WindowRequest) :
    (session.near host process request).2.creations = session.creations ∨
      (session.near host process request).2.creations = session.creations + 1 ∧
        session.wantsEmulator host process request = true := by
  obtain ⟨_, _, hstarts, hbooks⟩ := session.near_starts host process request
  rw [hbooks.creations]
  cases hstarts with
  | unwanted => exact .inl rfl
  | refused => exact .inl rfl
  | granted hwants => exact .inr ⟨rfl, hwants⟩

/-- A window that asks for no emulator is the same whatever emulators the host would make. -/
theorem near_eq_of_other_emulators {host : Host σ} {request : WindowRequest}
    (h : (session.near host process request).2.creations = session.creations)
    (create : Process → Except EmulationError σ) :
    session.near { host with factory := host.factory.map ({ · with create }) } process request =
      session.near host process request := by
  rw [(session.near_sameBooks host process request).creations] at h
  generalize hother : ({ host with factory := host.factory.map ({ · with create }) } : Host σ) =
    other
  have hwants : session.wantsEmulator other process request =
      session.wantsEmulator host process request := by
    subst hother
    unfold wantsEmulator
    cases host.factory <;> rfl
  have hprobe : other.probe = host.probe := hother ▸ rfl
  have hdisassembler : other.disassembler = host.disassembler := hother ▸ rfl
  have hsame : session.startEmulation other process request =
      session.startEmulation host process request := by
    have hstarts := session.startEmulation_starts host process request
    generalize session.startEmulation host process request = result at h hstarts ⊢
    cases hstarts with
    | unwanted hunwanted => exact startEmulation_of_unwanted (hwants.trans hunwanted)
    | refused hwanted hfirst hrefused =>
      exact startEmulation_of_refused (hwants.trans hwanted) hfirst (hprobe.trans hrefused)
    | granted => exact absurd h (Nat.succ_ne_self _)
  simp only [near, hsame, hdisassembler]

/-! ### Resources -/

/-- How often a session may still ask for resources. -/
def allowance (session : Session) : Nat := if session.firstEmulation then 1 else 0

/-- Questions for resources come out of what is allowed, and messages come of them. -/
theorem near_allowance (session : Session) (host : Host σ) (process : Process)
    (request : WindowRequest) :
    let answer := (session.answer host (.near process request)).1
    answer.probes + (session.near host process request).2.allowance ≤ session.allowance ∧
      answer.recorded.length ≤ answer.probes := by
  obtain ⟨_, _, hstarts, hbooks⟩ := session.near_starts host process request
  simp only [answer, perform, allowance, hbooks.probes, hbooks.warnings, hbooks.firstEmulation]
  cases hstarts with
  | unwanted => simp
  | refused hwants hfirst => simp [refused, hfirst]
  | granted => simp [granted]

theorem answer_allowance (session : Session) (host : Host σ) (operation : Operation) :
    let answer := (session.answer host operation).1
    answer.probes + (session.answer host operation).2.allowance ≤ session.allowance ∧
      answer.recorded.length ≤ answer.probes := by
  cases operation with
  | near process request => exact session.near_allowance host process request
  | window process count emulate history =>
    rcases session.answer_window host process count emulate history with
      ⟨request, hwindow⟩ | hwindow <;> rw [hwindow]
    · exact session.near_allowance host process request
    · simp
  | one process address =>
    have hbooks := session.one_sameBooks host.disassembler process address
    simp [answer, perform, allowance, hbooks.probes, hbooks.warnings, hbooks.firstEmulation]
  | cached address => simp [answer, perform]
  | reset => simp [answer, perform, reset, allowance]

/-- A run asks for resources as often as it is allowed, and records no more messages. -/
theorem run_allowance (host : Host σ) (operations : List Operation) (session : Session) :
    let answers := (run host operations session).1
    (answers.map Answer.probes).sum + (run host operations session).2.allowance ≤
        session.allowance ∧
      (answers.flatMap Answer.recorded).length ≤ (answers.map Answer.probes).sum := by
  induction operations generalizing session with
  | nil => simp [run]
  | cons operation later ih =>
    obtain ⟨hprobes, hrecorded⟩ := session.answer_allowance host operation
    obtain ⟨hprobesLater, hrecordedLater⟩ := ih (session.answer host operation).2
    simp only [run, List.map_cons, List.sum_cons, List.flatMap_cons, List.length_append]
    omega

/-- A window that does not ask for resources is the same whatever the host would answer. -/
theorem near_eq_of_other_probe {host : Host σ} {request : WindowRequest}
    (h : (session.near host process request).2.probes = session.probes)
    (probe : Except ResourceError Unit) :
    session.near { host with probe } process request = session.near host process request := by
  rw [(session.near_sameBooks host process request).probes] at h
  have hsame : session.startEmulation { host with probe } process request =
      session.startEmulation host process request := by
    have hstarts := session.startEmulation_starts host process request
    generalize hresult : session.startEmulation host process request = result at h hstarts ⊢
    cases hstarts with
    | unwanted hunwanted => exact startEmulation_of_unwanted hunwanted
    | refused => exact absurd h (Nat.succ_ne_self _)
    | granted =>
      -- An emulator without a question for resources: they were asked for before.
      have hasked : session.firstEmulation = false := by
        cases hfirst : session.firstEmulation with
        | false => rfl
        | true => simp [Session.granted, hfirst] at h
      have hmay : ∀ probe, session.canEmulate probe = (true, session) := by
        intro probe
        simp only [canEmulate, hasked, Bool.false_eq_true, if_false]
      rw [← hresult]
      simp only [startEmulation, hmay]
      rfl
  simp only [near, hsame]

/-- Nothing was emulated, and resources are still to be asked for or emulation is off. -/
structure Unaided (session : Session) : Prop where
  unemulated : session.Unemulated
  unasked : session.firstEmulation = true ∨ session.config.emulate = .off

theorem unaided_start (config : Config) : (start config).Unaided :=
  ⟨fun _ _ hkept => (nomatch hkept), .inl rfl⟩

namespace Unaided

variable {host : Host σ} {cause : ResourceError}

omit [Emulator σ] in
theorem startEmulation (h : session.Unaided) (hprobe : host.probe = .error cause)
    (process : Process) (request : WindowRequest) :
    let started := (session.startEmulation host process request).2
    (session.startEmulation host process request).1 = .off ∧
      started.creations = session.creations ∧
      (started.firstEmulation = true ∨ started.config.emulate = .off) := by
  have hstarts := session.startEmulation_starts host process request
  generalize session.startEmulation host process request = result at hstarts ⊢
  cases hstarts with
  | unwanted => exact ⟨rfl, rfl, h.unasked⟩
  | refused => exact ⟨rfl, rfl, .inr rfl⟩
  | granted hwants hgranted =>
    -- The host would have granted resources now, or emulation would not be off.
    rcases h.unasked with hfirst | hoff
    · exact absurd (hprobe.symm.trans (hgranted hfirst)) nofun
    · exact absurd hoff (wantsEmulator_iff.mp hwants).2.2.1

theorem near (h : session.Unaided) (hprobe : host.probe = .error cause) (process : Process)
    (request : WindowRequest) :
    let answer := (session.answer host (.near process request)).1
    (answer.creations = 0 ∧ ∀ insn ∈ answer.insns, insn.emulated = false) ∧
      (session.answer host (.near process request)).2.Unaided := by
  obtain ⟨hoff, hcreations, hunasked⟩ := h.startEmulation hprobe process request
  obtain ⟨hinsns, hunemulated⟩ := h.unemulated.near hoff
  have hbooks := session.near_sameBooks host process request
  refine ⟨⟨Nat.sub_eq_zero_of_le (hbooks.creations.trans hcreations).le, hinsns⟩, hunemulated, ?_⟩
  simp only [Session.answer, perform]
  rw [hbooks.firstEmulation, hbooks.config]
  exact hunasked

theorem one (h : session.Unaided) (disassembler : Disassembler) (process : Process)
    (address : UInt64) : (session.one disassembler process address).2.Unaided := by
  have hbooks := session.one_sameBooks disassembler process address
  constructor
  · unfold Unemulated
    rw [session.one_computed disassembler process address]
    exact h.unemulated
  · rw [hbooks.firstEmulation, hbooks.config]
    exact h.unasked

theorem answer (h : session.Unaided) (hprobe : host.probe = .error cause)
    (operation : Operation) :
    let answer := (session.answer host operation).1
    (answer.creations = 0 ∧ ∀ insn ∈ answer.insns, insn.emulated = false) ∧
      (session.answer host operation).2.Unaided := by
  cases operation with
  | near process request => exact h.near hprobe process request
  | window process count emulate history =>
    rcases session.answer_window host process count emulate history with
      ⟨request, hwindow⟩ | hwindow <;> rw [hwindow]
    · exact h.near hprobe process request
    · exact ⟨⟨rfl, List.forall_mem_nil _⟩, h⟩
  | one process address =>
    have hbooks := session.one_sameBooks host.disassembler process address
    refine ⟨⟨Nat.sub_eq_zero_of_le hbooks.creations.le, fun insn hmem => ?_⟩, ?_⟩
    · exact one_unemulated (Option.mem_toList.mp hmem)
    · exact h.one host.disassembler process address
  | cached address =>
    refine ⟨⟨Nat.sub_self _, fun insn hmem => ?_⟩, h⟩
    exact h.unemulated address insn (Option.mem_toList.mp hmem)
  | reset =>
    exact ⟨⟨Nat.sub_self _, List.forall_mem_nil _⟩, fun _ _ hkept => (nomatch hkept), h.unasked⟩

end Unaided

/-- In the life of a session the host is asked for resources once at most, and one message at most
is recorded. If the host refuses, it is never asked for an emulator, and no instruction that is ever
shown was emulated. A window asks for one emulator at most, and only at the program counter, where
emulation was asked for and is configured, and for an architecture that the host has emulators
for. -/
theorem run_asks_once (config : Config) (host : Host σ) (operations : List Operation) :
    let answers := (run host operations (start config)).1
    (answers.map Answer.probes).sum ≤ 1 ∧
      (answers.flatMap Answer.recorded).length ≤ 1 ∧
      (∀ cause, host.probe = .error cause → ∀ answer ∈ answers,
        answer.creations = 0 ∧ ∀ insn ∈ answer.insns, insn.emulated = false) ∧
      ∀ (session : Session) (process : Process) (request : WindowRequest),
        (session.near host process request).2.creations = session.creations ∨
          (session.near host process request).2.creations = session.creations + 1 ∧
            process.pc = some request.address ∧ request.emulate = true ∧
            session.config.emulate ≠ .off ∧
            ∃ factory, host.factory = some factory ∧
              factory.supports process.machine.arch = true := by
  obtain ⟨hprobes, hrecorded⟩ := run_allowance host operations (start config)
  have hallowance : (start config).allowance = 1 := rfl
  refine ⟨by omega, by omega, fun cause hprobe => ?_, fun session process request => ?_⟩
  · exact (run_keeps (fun _ operation h => h.answer hprobe operation) operations
      (unaided_start config)).1
  · rw [← wantsEmulator_iff]
    exact session.near_creations host process request

/-- A host that refuses resources is asked once, also across a reset, and makes no emulator. -/
theorem run_refused :
    let snapshot : Snapshot := {
      machine := .ofArch .aarch64
      registers := NameMap.empty.insert "pc" 0x1000
      regions := AddressMap.empty.insert 0x1000 {
        start := 0x1000, data := List.replicate 20 0, readable := true, writable := false
        executable := true, objfile := "" } }
    let host : Host ScriptedEmulator := {
      disassembler := fun _ _ _ =>
        some { size := 4, mnemonic := "nop", operandText := "", groups := [], operands := [] }
      factory := some {
        supports := fun _ => true
        create := fun _ => .ok { snapshot, pc := 0x1000, steps := [] } }
      probe := .error (.scratchMapping "out of memory") }
    let window (emulate : Bool) : Operation := .near snapshot.process {
      address := 0x1000, count := 1, emulate, history := true }
    let operations : List Operation :=
      [window false, window true, .reset, window true, .one snapshot.process 0x1004]
    let answers := (run host operations (start {})).1
    answers.map (fun answer => answer.insns.map Instruction.address) =
        [[0x1000, 0x1004, 0x1008], [0x1000, 0x1004, 0x1008], [], [0x1000, 0x1004, 0x1008],
          [0x1004]] ∧
      answers.map Answer.probes = [0, 1, 0, 0, 0] ∧
      answers.map (fun answer => answer.recorded.length) = [0, 1, 0, 0, 0] ∧
      ∀ answer ∈ answers, answer.creations = 0 ∧ ∀ insn ∈ answer.insns, insn.emulated = false := by
  intro snapshot host window operations answers
  exact ⟨by decide +kernel, by decide +kernel, by decide +kernel,
    (run_asks_once {} host operations).2.2.1 (.scratchMapping "out of memory") rfl⟩

end CodeWindow.Session
