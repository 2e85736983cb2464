import CodeWindow.Proofs.Reachable
import CodeWindow.Snapshot

/-! The log behind what a session remembers. As long as a session is asked for windows alone, it
keeps at each address what its walks enhanced there last, and it notes no predecessor that it does
not keep. Its history is therefore read off what is kept: no instruction of it is decoded or
enhanced again. -/

namespace CodeWindow

variable {σ : Type} [Emulator σ]

namespace Session

/-- The instructions that the walk of a window enhances, the latest first. -/
def walked (session : Session) (host : Host σ) (process : Process) (request : WindowRequest) :
    List Instruction :=
  ((session.assemble host process request).1.visits.map Visit.insn).reverse

/-- The same of the window around the program counter. -/
def walkedAtPc (session : Session) (host : Host σ) (process : Process) (count : Nat)
    (emulate history : Bool) : List Instruction :=
  match process.pc with
  | some address => session.walked host process { address, count, emulate, history }
  | none => []

/-- The states that a session comes to by windows and resets alone. With each goes the log of the
instructions that walks enhanced since the last reset, the latest first. -/
inductive Chronicle : Session → List Instruction → Prop
  | start (config : Config) : Chronicle (start config) []
  | near {σ : Type} [Emulator σ] {session : Session} {log : List Instruction}
      (h : Chronicle session log) (host : Host σ) (process : Process) (request : WindowRequest) :
      Chronicle (session.near host process request).2 (session.walked host process request ++ log)
  | window {σ : Type} [Emulator σ] {session : Session} {log : List Instruction}
      (h : Chronicle session log) (host : Host σ) (process : Process) (count : Nat)
      (emulate history : Bool) :
      Chronicle (session.window host process count emulate history).2
        (session.walkedAtPc host process count emulate history ++ log)
  | reset {session : Session} {log : List Instruction} (h : Chronicle session log) :
      Chronicle session.reset []

/-- The memories of a session are those of a log. -/
structure Remembers (session : Session) (log : List Instruction) : Prop where
  latest : ∀ address, session.computed.find? address =
    log.find? fun insn => insn.address == address
  rooted : ∀ next previous, session.predecessors.find? next = some previous →
    ∃ insn, session.computed.find? previous = some insn

/-- What is kept at an address that can be read. -/
def keptAt? (readable : UInt64 → Bool) (computed : AddressMap Instruction) (address : UInt64) :
    Option Instruction :=
  if readable address then computed.find? address else none

theorem find?_of_keptAt? {readable : UInt64 → Bool} {computed : AddressMap Instruction}
    {address : UInt64} {insn : Instruction} (h : keptAt? readable computed address = some insn) :
    computed.find? address = some insn := by
  unfold keptAt? at h
  split at h
  · exact h
  · contradiction

/-- History read off what is kept, and the predecessors that are noted then. -/
def retrace (readable : UInt64 → Bool) (computed : AddressMap Instruction) :
    Nat → UInt64 → AddressMap UInt64 → List Instruction × AddressMap UInt64
  | 0, _, predecessors => ([], predecessors)
  | count + 1, address, predecessors =>
    match predecessors.find? address with
    | none => ([], predecessors)
    | some previous =>
      match keptAt? readable computed previous with
      | none => ([], predecessors)
      | some insn =>
        let (earlier, noted) :=
          retrace readable computed count insn.address
            (predecessors.insert insn.next insn.address)
        (insn :: earlier, noted)

theorem mem_retrace {readable : UInt64 → Bool} {computed : AddressMap Instruction} {count : Nat}
    {address : UInt64} {predecessors : AddressMap UInt64} :
    ∀ insn ∈ (retrace readable computed count address predecessors).1,
      ∃ place, computed.find? place = some insn := by
  induction count generalizing address predecessors with
  | zero => exact List.forall_mem_nil _
  | succ count ih =>
    unfold retrace
    cases predecessors.find? address with
    | none => exact List.forall_mem_nil _
    | some previous =>
      simp only
      cases hkept : keptAt? readable computed previous with
      | none => exact List.forall_mem_nil _
      | some insn =>
        exact List.forall_mem_cons.mpr ⟨⟨previous, find?_of_keptAt? hkept⟩, ih⟩

/-! ### What one step keeps -/

variable {session after : Session} {log : List Instruction} {address : UInt64}
  {insn : Instruction}

namespace Remembers

theorem placed (h : Remembers session log) : session.Placed := by
  intro address insn hkept
  rw [h.latest] at hkept
  have haddress := List.find?_some hkept
  exact eq_of_beq haddress

theorem of_memories (h : Remembers session log) (hcomputed : after.computed = session.computed)
    (hpredecessors : after.predecessors = session.predecessors) : Remembers after log := by
  constructor
  · rw [hcomputed]
    exact h.latest
  · rw [hcomputed, hpredecessors]
    exact h.rooted

theorem lookedAt (h : Remembers session log) (process : Process) (address : UInt64) :
    Remembers (session.lookedAt process address) log := by
  unfold Session.lookedAt
  split
  · exact h.of_memories rfl rfl
  · exact h

/-- A visit is logged. -/
theorem behind (h : Remembers session log) (process : Process) (haddress : insn.address = address) :
    Remembers (session.behind process address insn) (insn :: log) := by
  constructor
  · intro other
    rw [List.find?_cons, Session.behind, AddressMap.find?_insert, h.latest, haddress]
    by_cases hother : other = address
    · rw [if_pos hother, hother, beq_self_eq_true]
    · rw [if_neg hother, beq_eq_false_iff_ne.mpr (Ne.symm hother)]
  · intro next previous hprevious
    rw [Session.behind, AddressMap.find?_insert] at hprevious ⊢
    by_cases hsame : previous = address
    · exact ⟨insn, if_pos hsame⟩
    · rw [if_neg hsame]
      split at hprevious
      -- What was noted now is the instruction that was kept now.
      · rw [haddress] at hprevious
        exact absurd (Option.some.inj hprevious).symm hsame
      · exact h.rooted next previous hprevious

/-- What is kept may be noted again. -/
theorem remember (h : Remembers session log)
    (hkept : session.computed.find? address = some insn) :
    Remembers (session.remember insn) log := by
  refine ⟨h.latest, fun next previous hprevious => ?_⟩
  rw [Session.remember, AddressMap.find?_insert] at hprevious
  split at hprevious
  · obtain rfl := Option.some.inj hprevious
    rw [h.placed address insn hkept]
    exact ⟨insn, hkept⟩
  · exact h.rooted next previous hprevious

/-- History at a noted predecessor shows what is kept there, unless it cannot be read. -/
theorem recollect_eq (h : Remembers session log) {next previous : UInt64}
    (hprevious : session.predecessors.find? next = some previous) (disassembler : Disassembler)
    (process : Process) :
    session.recollect disassembler process previous =
      match keptAt? process.peek session.computed previous with
      | none => (none, session)
      | some insn => (some insn, session.remember insn) := by
  obtain ⟨insn, hkept⟩ := h.rooted next previous hprevious
  unfold recollect keptAt?
  cases process.peek previous with
  | false => rfl
  | true => simp only [hkept, if_true]

/-! ### What a walk and a history keep -/

theorem visitRecorded (h : Remembers session log) (disassembler : Disassembler)
    (process : Process) (address : UInt64) (emulation : Emulation σ) :
    Remembers (session.visitRecorded disassembler process address emulation).2.2
      (((session.visitRecorded disassembler process address emulation).1.map Visit.insn).toList ++
        log) := by
  cases hfound : session.found disassembler process address with
  | none =>
    rw [visitRecorded_of_not_found hfound]
    exact h.lookedAt process address
  | some decoded =>
    rw [visitRecorded_of_found hfound]
    exact h.behind process (enhanceRecorded_address hfound rfl)

theorem walkRecorded (h : Remembers session log) (disassembler : Disassembler)
    (process : Process) (count : Nat) (last : Instruction) (emulation : Emulation σ) :
    Remembers (walkRecorded disassembler process count last emulation session).2
      (((walkRecorded disassembler process count last emulation session).1.map
        Visit.insn).reverse ++ log) := by
  induction count generalizing last emulation session log with
  | zero => exact h
  | succ count ih =>
    have hvisit := h.visitRecorded disassembler process
      ((emulation.past last).pc?.getD last.next) (emulation.past last)
    simp only [Session.walkRecorded]
    generalize session.visitRecorded disassembler process
      ((emulation.past last).pc?.getD last.next) (emulation.past last) = result at hvisit ⊢
    obtain ⟨_ | visit, remaining, after⟩ := result
    · exact hvisit
    · have hlater := ih hvisit visit.insn remaining
      simpa using hlater

theorem history_eq_retrace (h : Remembers session log) (disassembler : Disassembler)
    (process : Process) (count : Nat) (address : UInt64) :
    let traced := retrace process.peek session.computed count address session.predecessors
    history disassembler process count address session =
        (traced.1, { session with predecessors := traced.2 }) ∧
      Remembers { session with predecessors := traced.2 } log := by
  induction count generalizing address session with
  | zero => exact ⟨rfl, h⟩
  | succ count ih =>
    unfold history retrace
    cases hprevious : session.predecessors.find? address with
    | none => exact ⟨rfl, h⟩
    | some previous =>
      simp only [h.recollect_eq hprevious]
      cases hkept : keptAt? process.peek session.computed previous with
      | none => exact ⟨rfl, h⟩
      | some insn =>
        obtain ⟨hearlier, hremembers⟩ := ih (h.remember (find?_of_keptAt? hkept)) insn.address
        simp only [hearlier]
        exact ⟨rfl, hremembers⟩

end Remembers

/-! ### Windows -/

/-- How a window reads its history from the session `there`, given the log before the window. -/
structure Retraced (log : List Instruction) (process : Process) (request : WindowRequest)
    (there : Session) (assembly : Assembly σ) : Prop where
  /-- Each entry is the instruction that is kept at its address, the one that a walk enhanced there
  last, the current instruction counted. -/
  stored : ∀ insn ∈ assembly.earlier, there.computed.find? insn.address = some insn ∧
    ((assembly.visits.head?.map Visit.insn).toList ++ log).find?
      (fun kept => kept.address == insn.address) = some insn
  retraced : assembly.visits ≠ [] → request.history = true →
    assembly.earlier = (retrace process.peek there.computed request.count request.address
      there.predecessors).1
  /-- No disassembler and no configuration is asked, and nothing but predecessors is noted. -/
  alone : ∀ disassembler, history disassembler process request.count request.address there =
    let (earlier, predecessors) :=
      retrace process.peek there.computed request.count request.address there.predecessors
    (earlier, { there with predecessors })

namespace Remembers

omit [Emulator σ] in
theorem started (h : Remembers session log) (host : Host σ) (process : Process)
    (request : WindowRequest) :
    Remembers (session.startEmulation host process request).2 log := by
  obtain ⟨hcomputed, -, hpredecessors⟩ := session.startEmulation_frame host process request
  exact h.of_memories hcomputed hpredecessors

theorem historyFor (h : Remembers session log) (disassembler : Disassembler) (process : Process)
    (request : WindowRequest) (address : UInt64) :
    Remembers (session.historyFor disassembler process request address).2 log := by
  unfold Session.historyFor
  split
  · obtain ⟨hearlier, hremembers⟩ :=
      h.history_eq_retrace disassembler process request.count address
    rw [hearlier]
    exact hremembers
  · exact h

theorem near (h : Remembers session log) (host : Host σ) (process : Process)
    (request : WindowRequest) :
    Remembers (session.near host process request).2
      (session.walked host process request ++ log) := by
  rw [near_eq_recorded, walked]
  have hstarted := h.started host process request
  have hassembles := session.assemble_assembles host process request
  generalize session.assemble host process request = result at hassembles ⊢
  cases hassembles with
  | blind => exact hstarted.lookedAt process request.address
  | @around _ current remaining earlier _ _ _ hfound hcurrent hrecalled hwalked =>
    have hbehind := hstarted.behind process (enhanceRecorded_address hfound hcurrent)
    have hrecall := hbehind.historyFor host.disassembler process request current.insn.address
    rw [hrecalled] at hrecall
    have hwalk := hrecall.walkRecorded host.disassembler process
      (windowSize request.count - (1 + earlier.length)) current.insn remaining
    rw [hwalked] at hwalk
    simpa using hwalk

theorem atCurrent (h : Remembers session log) (host : Host σ) (process : Process)
    (request : WindowRequest) :
    Remembers (session.atCurrent host process request)
      (((session.assemble host process request).1.visits.head?.map Visit.insn).toList ++ log) := by
  have hstarted := h.started host process request
  have hassembles := session.assemble_assembles host process request
  unfold Session.atCurrent
  generalize session.assemble host process request = result at hassembles ⊢
  cases hassembles with
  | blind hfound =>
    simp only [visitRecorded_of_not_found hfound]
    exact hstarted.lookedAt process request.address
  | around hfound hcurrent _ _ =>
    simp only [visitRecorded_of_found hfound, hcurrent]
    exact hstarted.behind process (enhanceRecorded_address hfound hcurrent)

theorem retraced (h : Remembers session log) (host : Host σ) (process : Process)
    (request : WindowRequest) :
    Retraced log process request (session.atCurrent host process request)
      (session.assemble host process request).1 := by
  have hthere := h.atCurrent host process request
  have halone := fun disassembler =>
    (hthere.history_eq_retrace disassembler process request.count request.address).1
  have hearlier := session.assemble_earlier host process request
  unfold Session.historyFor at hearlier
  rw [halone] at hearlier
  constructor
  case alone => exact halone
  case retraced =>
    intro hvisits hhistory
    rw [if_pos hhistory] at hearlier
    rcases hearlier with ⟨hblind, -⟩ | hearlier
    · contradiction
    · exact hearlier
  case stored =>
    intro insn hmem
    have hkept : ∃ place,
        (session.atCurrent host process request).computed.find? place = some insn := by
      rcases hearlier with ⟨-, hnone⟩ | hearlier
      · rw [hnone] at hmem
        contradiction
      · rw [hearlier] at hmem
        split at hmem
        · exact mem_retrace insn hmem
        · contradiction
    obtain ⟨place, hkept⟩ := hkept
    rw [← hthere.latest, hthere.placed place insn hkept]
    exact ⟨hkept, hkept⟩

end Remembers

theorem Chronicle.remembers (h : Chronicle session log) : Remembers session log := by
  induction h with
  | start => exact ⟨fun _ => rfl, fun _ _ hnoted => nomatch hnoted⟩
  | near _ host process request ih => exact ih.near host process request
  | window _ host process count emulate history ih =>
    unfold Session.window walkedAtPc
    cases process.pc with
    | none => exact ih
    | some address => exact ih.near host process _
  | reset => exact ⟨fun _ => rfl, fun _ _ hnoted => nomatch hnoted⟩

/-- What a session remembers is what its walks enhanced, and windows tell it unchanged. -/
structure Faithful (session : Session) (log : List Instruction) : Prop where
  rooted : ∀ next previous, session.predecessors.find? next = some previous →
    ∃ insn, session.computed.find? previous = some insn
  placed : ∀ address insn, session.computed.find? address = some insn → insn.address = address
  latest : ∀ address, session.computed.find? address =
    log.find? fun insn => insn.address == address
  told : ∀ {σ : Type} [Emulator σ] (host : Host σ) (process : Process) (request : WindowRequest),
    let assembly := (session.assemble host process request).1
    (session.near host process request).1 = (collapse assembly.insns.reverse).reverse ∧
      Retraced log process request (session.atCurrent host process request) assembly

/-- A session that is asked for windows alone is faithful to its log. -/
theorem Chronicle.faithful (h : Chronicle session log) : Faithful session log where
  rooted := h.remembers.rooted
  placed := h.remembers.placed
  latest := h.remembers.latest
  told host process request := by
    intro assembly
    rw [near_eq_recorded]
    exact ⟨rfl, h.remembers.retraced host process request⟩

/-- A branch is seen taken, and then not taken. History tells what was seen last. -/
theorem near_branch_faithful :
    let process (flag : UInt64) : Process := Snapshot.process {
      machine := .ofArch .aarch64
      registers := (NameMap.empty.insert "pc" 0x1000).insert "x0" flag
      regions := AddressMap.empty.insert 0x1000 {
        start := 0x1000, data := List.replicate 16 0, readable := true, writable := false
        executable := true, objfile := "" } }
    let host : Host Empty := {
      disassembler := fun _ _ address =>
        if address = 0x1000 then some {
          size := 4, mnemonic := "cbz", operandText := "", groups := [1, 7]
          operands := [{ kind := .register "x0" }, { kind := .immediate 0x1008 }] }
        else some { size := 4, mnemonic := "nop", operandText := "", groups := [], operands := [] } }
    let first : WindowRequest := {
      address := 0x1000, count := 1, emulate := false, history := true }
    let request : WindowRequest := {
      address := 0x1004, count := 1, emulate := false, history := true }
    let taken : Session := ((start {}).near host (process 0) first).2
    let session : Session := (taken.window host (process 1) 1 false true).2
    let log := taken.walkedAtPc host (process 1) 1 false true ++
      ((start {}).walked host (process 0) first ++ [])
    log.map Instruction.address =
        [0x1008, 0x1004, 0x1000, 0x100c, 0x1008, 0x1000] ∧
      (taken.cached 0x1000).map Instruction.next = some 0x1008 ∧
      (session.near host (process 1) request).1.map Instruction.next =
        [0x1004, 0x1008, 0x100c] ∧
      Faithful session log := by
  intro process host first request taken session log
  have hchronicle : Chronicle session log :=
    .window (.near (.start {}) host (process 0) first) host (process 1) 1 false true
  exact ⟨by decide +kernel, by decide +kernel, by decide +kernel, Chronicle.faithful hchronicle⟩

end Session

end CodeWindow
