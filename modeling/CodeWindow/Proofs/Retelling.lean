import CodeWindow.Proofs.MapEntries
import CodeWindow.Proofs.Reachable
import CodeWindow.Snapshot

/-! What history leaves behind. Telling a remembered instruction notes it once more as what led to
its successor. That changes nothing as long as it still is the last one that did; otherwise an old
predecessor takes the place of a newer one. -/

namespace CodeWindow

namespace Session

/-! ### Notes of predecessors -/

/-- The predecessors once instructions were noted, one after the other. -/
def noted (predecessors : AddressMap UInt64) (insns : List Instruction) : AddressMap UInt64 :=
  insns.foldl (fun predecessors insn => predecessors.insert insn.next insn.address) predecessors

/-- The last instruction that leads to an address is its predecessor. -/
theorem find?_noted (predecessors : AddressMap UInt64) (insns : List Instruction)
    (address : UInt64) :
    (noted predecessors insns).find? address =
      ((insns.reverse.find? fun insn => insn.next == address).map Instruction.address).or
        (predecessors.find? address) := by
  refine Association.look_foldl AddressMap.find? _ Instruction.next Instruction.address ?_ insns
    predecessors address
  intro map insn other
  exact AddressMap.find?_insert map insn.next other insn.address

/-- The instructions that are noted first leave no trace exactly if each of them that no later one
replaces is noted already. -/
theorem noted_noted_eq_iff (predecessors : AddressMap UInt64) (earlier later : List Instruction) :
    noted (noted predecessors earlier) later = noted predecessors later ↔
      ∀ before insn farther, earlier = before ++ insn :: farther →
        (∀ other ∈ farther ++ later, other.next ≠ insn.next) →
        predecessors.find? insn.next = some insn.address := by
  have hnone : ∀ {insns : List Instruction} {address : UInt64},
      (∀ insn ∈ insns, insn.next ≠ address) →
        (insns.reverse.find? fun insn => insn.next == address) = none := by
    intro insns address hinsns
    simpa using hinsns
  constructor
  · rintro hsame before insn farther rfl hreplaced
    obtain ⟨hfarther, hlater⟩ := List.forall_mem_append.mp hreplaced
    have hfind := congrArg (·.find? insn.next) hsame
    simpa [find?_noted, hnone hlater, hnone hfarther, List.find?_append] using hfind.symm
  · intro hnoted
    -- Only an address that an earlier instruction leads to, and no later one, could tell.
    refine AddressMap.ext_find? fun address => ?_
    simp only [find?_noted]
    cases hlast : later.reverse.find? fun insn => insn.next == address with
    | some last => rfl
    | none =>
      cases htold : earlier.reverse.find? fun insn => insn.next == address with
      | none => rfl
      | some insn =>
        obtain ⟨hnext, farther, before, hearlier, hfarther⟩ :=
          List.find?_eq_some_iff_append.mp htold
        obtain rfl : insn.next = address := eq_of_beq hnext
        have hsplit : earlier = before.reverse ++ insn :: farther.reverse := by
          rw [← List.reverse_reverse earlier, hearlier]
          simp
        have hreplaced : ∀ other ∈ farther.reverse ++ later, other.next ≠ insn.next := by
          refine List.forall_mem_append.mpr ⟨?_, ?_⟩
          · simpa using hfarther
          · simpa using hlast
        simp [hnoted _ insn _ hsplit hreplaced]

/-! ### Walks and histories -/

variable {σ : Type} [Emulator σ] {session : Session} {disassembler : Disassembler}
  {process : Process} {address : UInt64}

theorem visitRecorded_withPredecessors (session : Session) (predecessors : AddressMap UInt64)
    (disassembler : Disassembler) (process : Process) (address : UInt64)
    (emulation : Emulation σ) :
    ({ session with predecessors } : Session).visitRecorded disassembler process address emulation =
      let (visit?, remaining, after) :=
        session.visitRecorded disassembler process address emulation
      (visit?, remaining,
        { after with predecessors := noted predecessors (visit?.map Visit.insn).toList }) := by
  have hsame : ({ session with predecessors } : Session).found disassembler process address =
      session.found disassembler process address := found_congr rfl
  cases hfound : session.found disassembler process address with
  | none =>
    rw [visitRecorded_of_not_found hfound, visitRecorded_of_not_found (hsame.trans hfound)]
    unfold lookedAt
    split <;> rfl
  | some decoded =>
    rw [visitRecorded_of_found hfound, visitRecorded_of_found (hsame.trans hfound)]
    rfl

/-- A walk reads no predecessors, and notes its instructions. -/
theorem walkRecorded_withPredecessors (session : Session) (predecessors : AddressMap UInt64)
    (disassembler : Disassembler) (process : Process) (count : Nat) (last : Instruction)
    (emulation : Emulation σ) :
    walkRecorded disassembler process count last emulation { session with predecessors } =
      let (visits, after) := walkRecorded disassembler process count last emulation session
      (visits, { after with predecessors := noted predecessors (visits.map Visit.insn) }) := by
  induction count generalizing last emulation session predecessors with
  | zero => rfl
  | succ count ih =>
    simp only [walkRecorded, visitRecorded_withPredecessors]
    rcases session.visitRecorded disassembler process ((emulation.past last).pc?.getD last.next)
      (emulation.past last) with ⟨_ | visit, remaining, after⟩
    · rfl
    · have hlater := ih after (noted predecessors [visit.insn]) visit.insn remaining
      simp only [Option.map_some, Option.toList_some, hlater]
      rfl

theorem walkRecorded_predecessors (session : Session) (disassembler : Disassembler)
    (process : Process) (count : Nat) (last : Instruction) (emulation : Emulation σ) :
    (walkRecorded disassembler process count last emulation session).2.predecessors =
      noted session.predecessors
        ((walkRecorded disassembler process count last emulation session).1.map Visit.insn) := by
  have hwalk := session.walkRecorded_withPredecessors session.predecessors disassembler process
    count last emulation
  exact congrArg (·.2.predecessors) hwalk

/-- History notes its instructions and touches nothing else, once the decoder is opened. -/
theorem history_eq_noted (hopened : session.withDecoder process = session)
    (disassembler : Disassembler) (count : Nat) (address : UInt64) :
    (history disassembler process count address session).2 =
      { session with
        predecessors := noted session.predecessors
          (history disassembler process count address session).1 } := by
  have hlooked : ∀ {session : Session} {place : UInt64}, session.withDecoder process = session →
      session.lookedAt process place = session := by
    intro session place hopened
    unfold lookedAt
    rw [hopened]
    exact ite_self _
  induction count generalizing address session with
  | zero => rfl
  | succ count ih =>
    unfold history
    cases session.predecessors.find? address with
    | none => rfl
    | some previous =>
      have hstep : ∀ insn : Instruction,
          (session.remember insn).withDecoder process = session.remember insn :=
        fun insn => congrArg (·.remember insn) hopened
      rcases session.recollect_cases disassembler process previous with
        ⟨insn, -, hrecollect⟩ | ⟨decoded, -, -, hrecollect⟩ | hrecollect
      · simp only [hrecollect, ih (hstep insn)]
        rfl
      · rw [hopened] at hrecollect
        simp only [hrecollect, ih (hstep (session.unkept process decoded))]
        rfl
      · simp only [hrecollect, hlooked hopened]
        rfl

/-! ### Windows -/

theorem withDecoder_behind (session : Session) (process : Process) (address : UInt64)
    (insn : Instruction) :
    (session.behind process address insn).withDecoder process =
      session.behind process address insn := by
  unfold behind withDecoder
  rw [session.decoders.get_get]

theorem historyFor_eq_noted (hopened : session.withDecoder process = session)
    (disassembler : Disassembler) (request : WindowRequest) (address : UInt64) :
    (session.historyFor disassembler process request address).2 =
      { session with
        predecessors := noted session.predecessors
          (session.historyFor disassembler process request address).1 } := by
  unfold historyFor
  split
  · exact history_eq_noted hopened disassembler request.count address
  · rfl

/-- The session behind a window that does not collect its history, and walks as far as if it did. -/
def nearUntold (session : Session) (host : Host σ) (process : Process) (request : WindowRequest) :
    Session :=
  let (emulation, started) := session.startEmulation host process request
  match started.visit host.disassembler process request.address emulation with
  | (none, _, after) => after
  | (some current, emulation, after) =>
    let (told, _) := after.historyFor host.disassembler process request current.address
    (walk host.disassembler process (windowSize request.count - (1 + told.length)) current emulation
      after).2

/-- The session behind a window is that of the window untold, but for the notes of history. -/
theorem assemble_eq_noted (session : Session) (host : Host σ) (process : Process)
    (request : WindowRequest) :
    let assembly := (session.assemble host process request).1
    let there := session.atCurrent host process request
    let later := assembly.visits.tail.map Visit.insn
    (session.assemble host process request).2 =
        { session.nearUntold host process request with
          predecessors := noted (noted there.predecessors assembly.earlier) later } ∧
      (session.nearUntold host process request).predecessors =
        noted there.predecessors later := by
  unfold nearUntold atCurrent assemble
  rcases session.startEmulation host process request with ⟨emulation, started⟩
  cases hfound : started.found host.disassembler process request.address with
  | none =>
    simp only [visit_eq_recorded, visitRecorded_of_not_found hfound]
    exact ⟨rfl, rfl⟩
  | some decoded =>
    rcases hcurrent : Enhancement.enhanceRecorded decoded.arch.isa process started.config decoded
      emulation with ⟨current, remaining⟩
    have hrecall := historyFor_eq_noted
      (withDecoder_behind started process request.address current.insn) host.disassembler request
      current.insn.address
    simp only [visit_eq_recorded, walk_eq_recorded, visitRecorded_of_found hfound, hcurrent,
      Option.map_some]
    generalize started.behind process request.address current.insn = there at hrecall ⊢
    unfold historyFor at hrecall ⊢
    rw [hrecall]
    generalize (if request.history = true then
      history host.disassembler process request.count current.insn.address there
      else ([], there)) = told
    simp only [walkRecorded_withPredecessors]
    exact ⟨rfl, walkRecorded_predecessors there host.disassembler process _ current.insn remaining⟩

/-- History touches nothing but predecessors, and leaves them as they are exactly if each
instruction that it tells is the noted predecessor of its successor, unless an instruction that is
told or visited later replaces it there. -/
theorem near_predecessors_eq_iff (session : Session) (host : Host σ) (process : Process)
    (request : WindowRequest) :
    let after := (session.near host process request).2
    let untold := session.nearUntold host process request
    let assembly := (session.assemble host process request).1
    after = { untold with predecessors := after.predecessors } ∧
      (after.predecessors = untold.predecessors ↔
        ∀ before insn farther, assembly.earlier = before ++ insn :: farther →
          (∀ other ∈ farther ++ assembly.visits.tail.map Visit.insn, other.next ≠ insn.next) →
          (session.atCurrent host process request).predecessors.find? insn.next =
            some insn.address) := by
  intro after untold assembly
  obtain ⟨hafter, huntold⟩ := session.assemble_eq_noted host process request
  have hnear : after = (session.assemble host process request).2 :=
    congrArg Prod.snd (session.near_eq_recorded host process request)
  rw [hnear, hafter]
  refine ⟨rfl, ?_⟩
  rw [huntold]
  exact noted_noted_eq_iff _ _ _

/-- A branch was seen to jump and then to fall through, and then a jump was seen to lead where it
fell through to. Telling the branch as what led to where it jumped puts it before the jump. -/
theorem near_retells_replaced :
    let process (flag : UInt64) : Process := Snapshot.process {
      machine := .ofArch .aarch64
      registers := (NameMap.empty.insert "pc" 0x1000).insert "x0" flag
      regions := AddressMap.empty.insert 0x1000 {
        start := 0x1000, data := List.replicate 20 0, readable := true, writable := false
        executable := true, objfile := "" } }
    let host : Host Empty := {
      disassembler := fun _ _ address =>
        if address = 0x1000 then some {
          size := 4, mnemonic := "cbz", operandText := "", groups := [1, 7]
          operands := [{ kind := .register "x0" }, { kind := .immediate 0x1010 }] }
        else if address = 0x1008 then some {
          size := 4, mnemonic := "b", operandText := "", groups := [1, 7]
          operands := [{ kind := .immediate 0x1004 }] }
        else some { size := 4, mnemonic := "nop", operandText := "", groups := [], operands := [] } }
    let only (address : UInt64) : WindowRequest := {
      address, count := 0, emulate := false, history := true }
    let jumped : Session := ((start {}).near host (process 0) (only 0x1000)).2
    let fell : Session := (jumped.near host (process 1) (only 0x1000)).2
    let session : Session := (fell.near host (process 1) (only 0x1008)).2
    let request : WindowRequest := {
      address := 0x1010, count := 1, emulate := false, history := true }
    session.Reachable ∧
      (session.near host (process 1) request).1.map Instruction.address = [0x1000, 0x1010] ∧
      (session.nearUntold host (process 1) request).predecessors.find? 0x1004 = some 0x1008 ∧
      (session.near host (process 1) request).2.predecessors.find? 0x1004 = some 0x1000 ∧
      (session.near host (process 1) request).2.predecessors ≠
        (session.nearUntold host (process 1) request).predecessors := by
  intro process host only jumped fell session request
  have hreachable : session.Reachable :=
    .near (.near (.near (.start {}) host (process 0) (only 0x1000)) host (process 1) (only 0x1000))
      host (process 1) (only 0x1008)
  have huntold : (session.nearUntold host (process 1) request).predecessors.find? 0x1004 =
      some 0x1008 := by decide +kernel
  have htold : (session.near host (process 1) request).2.predecessors.find? 0x1004 =
      some 0x1000 := by decide +kernel
  refine ⟨hreachable, by decide +kernel, huntold, htold, fun hsame => ?_⟩
  rw [hsame, huntold] at htold
  contradiction

end Session

end CodeWindow
