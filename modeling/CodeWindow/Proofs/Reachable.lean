import CodeWindow.Proofs.Sight

/-! The states of a session. What a session starts with and no visit, no recollection and no reset
takes away holds in all of them, whatever the session was asked before, and of whatever processes.
So each instruction that it keeps is kept under its own address, and history at an address where an
instruction is kept shows that instruction. -/

namespace CodeWindow

variable {σ : Type} [Emulator σ]

namespace Session

/-- The states that a session comes to. -/
inductive Reachable : Session → Prop
  | start (config : Config) : Reachable (start config)
  | near {σ : Type} [Emulator σ] {session : Session} (h : Reachable session) (host : Host σ)
      (process : Process) (request : WindowRequest) :
      Reachable (session.near host process request).2
  | window {σ : Type} [Emulator σ] {session : Session} (h : Reachable session) (host : Host σ)
      (process : Process) (count : Nat) (emulate history : Bool) :
      Reachable (session.window host process count emulate history).2
  | one {session : Session} (h : Reachable session) (disassembler : Disassembler)
      (process : Process) (address : UInt64) :
      Reachable (session.one disassembler process address).2
  | reset {session : Session} (h : Reachable session) : Reachable session.reset

/-- What looking at instructions keeps. -/
structure Looks (holds : Session → Prop) : Prop where
  opened : ∀ session process, holds session → holds (session.withDecoder process)
  visited : ∀ session process address insn, insn.address = address → holds session →
    holds (session.behind process address insn)
  remembered : ∀ session insn, holds session → holds (session.remember insn)

namespace Looks

variable {holds : Session → Prop} {session : Session}

theorem lookedAt (h : Looks holds) (hsession : holds session) (process : Process)
    (address : UInt64) : holds (session.lookedAt process address) := by
  unfold Session.lookedAt
  split
  · exact h.opened session process hsession
  · exact hsession

theorem visitRecorded (h : Looks holds) (hsession : holds session)
    (disassembler : Disassembler) (process : Process) (address : UInt64)
    (emulation : Emulation σ) :
    holds (session.visitRecorded disassembler process address emulation).2.2 := by
  cases hfound : session.found disassembler process address with
  | none =>
    rw [visitRecorded_of_not_found hfound]
    exact h.lookedAt hsession process address
  | some decoded =>
    rw [visitRecorded_of_found hfound]
    exact h.visited session process address _ (enhanceRecorded_address hfound rfl) hsession

theorem walkRecorded (h : Looks holds) (hsession : holds session)
    (disassembler : Disassembler) (process : Process) (count : Nat) (last : Instruction)
    (emulation : Emulation σ) :
    holds (walkRecorded disassembler process count last emulation session).2 := by
  induction count generalizing last emulation session with
  | zero => exact hsession
  | succ count ih =>
    have hvisit := h.visitRecorded hsession disassembler process
      ((emulation.past last).pc?.getD last.next) (emulation.past last)
    simp only [Session.walkRecorded]
    generalize session.visitRecorded disassembler process
      ((emulation.past last).pc?.getD last.next) (emulation.past last) = result at hvisit ⊢
    obtain ⟨_ | visit, remaining, after⟩ := result
    · exact hvisit
    · exact ih hvisit visit.insn remaining

theorem one (h : Looks holds) (hsession : holds session) (disassembler : Disassembler)
    (process : Process) (address : UInt64) :
    holds (session.one disassembler process address).2 := by
  rcases session.one_cases disassembler process address with ⟨decoded, -, hone⟩ | ⟨-, hone⟩
  · rw [hone]
    exact h.remembered _ _ (h.opened session process hsession)
  · rw [hone]
    exact h.lookedAt hsession process address

theorem recollect (h : Looks holds) (hsession : holds session) (disassembler : Disassembler)
    (process : Process) (address : UInt64) :
    holds (session.recollect disassembler process address).2 := by
  rcases session.recollect_cases disassembler process address with
    ⟨insn, -, hrecollect⟩ | ⟨decoded, -, -, hrecollect⟩ | hrecollect <;> rw [hrecollect]
  · exact h.remembered session insn hsession
  · exact h.remembered _ _ (h.opened session process hsession)
  · exact h.lookedAt hsession process address

theorem history (h : Looks holds) (hsession : holds session) (disassembler : Disassembler)
    (process : Process) (count : Nat) (address : UInt64) :
    holds (history disassembler process count address session).2 := by
  induction count generalizing address session with
  | zero => exact hsession
  | succ count ih =>
    unfold Session.history
    cases session.predecessors.find? address with
    | none => exact hsession
    | some previous =>
      have hrecollect := h.recollect hsession disassembler process previous
      simp only
      generalize session.recollect disassembler process previous = result at hrecollect ⊢
      obtain ⟨_ | insn, after⟩ := result
      · exact hrecollect
      · exact ih hrecollect insn.address

/-- A window keeps it once it has started. -/
theorem near (h : Looks holds) (host : Host σ) (process : Process) (request : WindowRequest)
    (hstarted : holds (session.startEmulation host process request).2) :
    holds (session.near host process request).2 := by
  rw [near_eq_recorded]
  have hassembles := session.assemble_assembles host process request
  generalize session.assemble host process request = result at hassembles ⊢
  cases hassembles with
  | blind => exact h.lookedAt hstarted process request.address
  | @around _ current _ _ _ _ _ hfound hcurrent hrecalled hwalked =>
    have hbehind := h.visited _ process request.address current.insn
      (enhanceRecorded_address hfound hcurrent) hstarted
    obtain rfl := congrArg Prod.snd hrecalled
    obtain rfl := congrArg Prod.snd hwalked
    refine h.walkRecorded ?_ host.disassembler process _ _ _
    unfold historyFor
    split
    · exact h.history hbehind host.disassembler process request.count _
    · exact hbehind

end Looks

/-- What every session starts with, and nothing that it is asked takes away. -/
structure Invariant (holds : Session → Prop) : Prop extends Looks holds where
  start : ∀ config, holds (start config)
  reset : ∀ session, holds session → holds session.reset
  /-- Before a window starts, an emulator may be asked for. -/
  asked : ∀ {σ : Type} (session : Session) (host : Host σ) (process : Process)
    (request : WindowRequest), holds session → holds (session.startEmulation host process request).2

namespace Invariant

variable {holds : Session → Prop} {session : Session}

/-- An invariant holds in every state that a session comes to. -/
theorem reachable (h : Invariant holds) (hsession : session.Reachable) : holds session := by
  induction hsession with
  | start config => exact h.start config
  | @near _ _ session _ host process request ih =>
    exact h.near host process request (h.asked session host process request ih)
  | @window _ _ session _ host process count emulate history ih =>
    unfold Session.window
    cases process.pc with
    | none => exact ih
    | some address => exact h.near host process _ (h.asked session host process _ ih)
  | one _ disassembler process address ih => exact h.one ih disassembler process address
  | reset _ ih => exact h.reset _ ih

end Invariant

/-! ### Kept instructions -/

/-- Each instruction is kept under its own address. -/
def Placed (session : Session) : Prop :=
  ∀ address insn, session.computed.find? address = some insn → insn.address = address

variable {session after : Session} {disassembler : Disassembler} {process : Process}
  {address : UInt64}

theorem Placed.of_computed (h : session.Placed) (hsame : after.computed = session.computed) :
    after.Placed := by
  unfold Placed
  rw [hsame]
  exact h

theorem Placed.behind (h : session.Placed) (process : Process) {insn : Instruction}
    (haddress : insn.address = address) : (session.behind process address insn).Placed := by
  intro other kept hkept
  simp only [Session.behind, AddressMap.find?_insert] at hkept
  split at hkept
  · obtain rfl := Option.some.inj hkept
    exact haddress.trans (Eq.symm ‹_›)
  · exact h other kept hkept

/-- What is asked before a window starts concerns emulators alone. -/
theorem startEmulation_frame {σ : Type} (session : Session) (host : Host σ) (process : Process)
    (request : WindowRequest) :
    (session.startEmulation host process request).2.computed = session.computed ∧
      (session.startEmulation host process request).2.decoders = session.decoders ∧
      (session.startEmulation host process request).2.predecessors = session.predecessors := by
  have hasked : (session.canEmulate host.probe).2.computed = session.computed ∧
      (session.canEmulate host.probe).2.decoders = session.decoders ∧
      (session.canEmulate host.probe).2.predecessors = session.predecessors := by
    unfold canEmulate
    split
    · split <;> exact ⟨rfl, rfl, rfl⟩
    · exact ⟨rfl, rfl, rfl⟩
  unfold startEmulation
  split
  · generalize session.canEmulate host.probe = answer at hasked ⊢
    obtain ⟨_ | _, asked⟩ := answer <;> cases host.factory <;> exact hasked
  · exact ⟨rfl, rfl, rfl⟩

theorem startEmulation_congr {σ : Type} {session other : Session} {host : Host σ}
    {process : Process} {request : WindowRequest}
    (hwants : session.wantsEmulator host process request =
      other.wantsEmulator host process request)
    (hmay : (session.canEmulate host.probe).1 = (other.canEmulate host.probe).1) :
    (session.startEmulation host process request).1 =
      (other.startEmulation host process request).1 := by
  unfold startEmulation
  rw [hwants]
  split
  · generalize session.canEmulate host.probe = answer at hmay ⊢
    generalize other.canEmulate host.probe = answerOther at hmay ⊢
    obtain ⟨may, asked⟩ := answer
    obtain ⟨mayOther, askedOther⟩ := answerOther
    obtain rfl : may = mayOther := hmay
    cases may <;> cases host.factory <;> rfl
  · rfl

/-- An answer of the host may change the configuration. -/
theorem startEmulation_config {σ : Type} (session : Session) (host : Host σ) (process : Process)
    (request : WindowRequest) :
    (session.startEmulation host process request).2.config =
      if session.wantsEmulator host process request then
        (session.canEmulate host.probe).2.config
      else session.config := by
  unfold startEmulation
  split
  · obtain ⟨_ | _, asked⟩ := session.canEmulate host.probe <;> cases host.factory <;> rfl
  · rfl

theorem placed_invariant : Invariant Placed where
  start _ _ _ hkept := nomatch hkept
  reset _ _ _ _ hkept := nomatch hkept
  asked session host process request h :=
    h.of_computed (session.startEmulation_frame host process request).1
  opened _ _ h := h.of_computed rfl
  visited _ process _ _ haddress h := h.behind process haddress
  remembered _ _ h := h.of_computed rfl

theorem Reachable.placed (h : session.Reachable) : session.Placed := placed_invariant.reachable h

/-- History at an address where an instruction is kept shows that instruction. -/
theorem Placed.history (h : session.Placed) (disassembler : Disassembler) (process : Process)
    (count : Nat) (address : UInt64) :
    ∀ insn ∈ (history disassembler process count address session).1,
      ∀ kept, session.computed.find? insn.address = some kept → insn = kept := by
  induction count generalizing address session with
  | zero => exact List.forall_mem_nil _
  | succ count ih =>
    unfold Session.history
    cases session.predecessors.find? address with
    | none => exact List.forall_mem_nil _
    | some previous =>
      have hcomputed := session.recollect_computed disassembler process previous
      simp only
      rcases session.recollect_cases disassembler process previous with
        ⟨insn, hkept, hrecollect⟩ | ⟨decoded, hkept, hfound, hrecollect⟩ | hrecollect <;>
        rw [hrecollect] at hcomputed ⊢
      · have hlater := ih (h.of_computed hcomputed) insn.address
        rw [hcomputed] at hlater
        refine List.forall_mem_cons.mpr ⟨fun kept hother => ?_, hlater⟩
        rw [h previous insn hkept, hkept] at hother
        exact Option.some.inj hother
      · have hlater := ih (h.of_computed hcomputed) (session.unkept process decoded).address
        rw [hcomputed] at hlater
        refine List.forall_mem_cons.mpr ⟨fun kept hother => ?_, hlater⟩
        rw [(session.unkept_sameCode process decoded).address, (found_fresh hfound).1, hkept]
          at hother
        contradiction
      · exact List.forall_mem_nil _

theorem Placed.historyFor (h : session.Placed) (disassembler : Disassembler)
    (process : Process) (request : WindowRequest) (address : UInt64) :
    ∀ insn ∈ (session.historyFor disassembler process request address).1,
      ∀ kept, session.computed.find? insn.address = some kept → insn = kept := by
  unfold Session.historyFor
  split
  · exact h.history disassembler process request.count address
  · exact List.forall_mem_nil _

end Session

end CodeWindow
