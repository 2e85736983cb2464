import CodeWindow.Proofs.Record
import CodeWindow.Proofs.SameCode

/-! What a session sees of a process, and what looking leaves of the session. Instructions are read
with the decoder that the session has for the process, and described by its configuration; neither
changes while a window is put together. A visit keeps its instruction and notes where it leads;
history notes where its instructions lead and keeps nothing. -/

namespace CodeWindow

/-- A decoder stays in the cache. -/
theorem DecoderCache.get_get (cache : DecoderCache) (key : DecoderKey) :
    (cache.get key).2.get key = cache.get key := by
  cases hopened : cache.opened.lookup key with
  | some decoder => simp only [get, hopened]
  | none => simp only [get, hopened, Association.lookup_cons, if_true]

namespace Session

section

variable (session : Session) (disassembler : Disassembler) (process : Process) (address : UInt64)

/-- What decides how a process is decoded. -/
def keyOf (process : Process) : DecoderKey :=
  .ofMachine process.machine (DecoderMode.select process.machine process.register)

/-- The decoder that a session has for a process. -/
def decoderFor : Decoder := (session.decoders.get (keyOf process)).1

/-- The session with the decoder for a process opened. -/
def withDecoder : Session :=
  { session with decoders := (session.decoders.get (keyOf process)).2 }

/-- The session once an address was looked at: bytes that can be read are given to the decoder. -/
def lookedAt : Session := if process.peek address then session.withDecoder process else session

/-- The instruction at an address before it is enhanced, if it can be read and decoded. -/
def found : Option Instruction :=
  if process.peek address then (session.decode disassembler process address).1 else none

theorem decoderFor_withDecoder :
    (session.withDecoder process).decoderFor process = session.decoderFor process :=
  congrArg Prod.fst (session.decoders.get_get (keyOf process))

end

variable {session after : Session} {disassembler : Disassembler} {process : Process}
  {address : UInt64}

theorem found_eq_none_iff :
    session.found disassembler process address = none ↔ process.peek address = false ∨
      (session.decode disassembler process address).1 = none := by
  unfold found
  cases process.peek address <;> simp

theorem decode_fresh {insn : Instruction}
    (h : session.decode disassembler process address = (some insn, after)) :
    insn.address = address ∧ insn.emulated = false := by
  have h := congrArg Prod.fst h
  simp only [decode] at h
  split at h
  · unfold Decoder.decode at h
    split at h
    · obtain rfl := Option.some.inj h
      exact ⟨rfl, rfl⟩
    · contradiction
  · contradiction

theorem found_fresh {insn : Instruction}
    (h : session.found disassembler process address = some insn) :
    insn.address = address ∧ insn.emulated = false := by
  unfold found at h
  split at h
  · exact decode_fresh (Prod.ext h rfl)
  · contradiction

/-- Sessions with the same decoder for a process find the same instructions. -/
theorem found_congr (h : after.decoderFor process = session.decoderFor process) :
    after.found disassembler process address = session.found disassembler process address := by
  have hdecode : (after.decode disassembler process address).1 =
      (session.decode disassembler process address).1 := by
    unfold decoderFor keyOf at h
    simp only [decode, h]
  unfold found
  rw [hdecode]

@[simp] theorem lookedAt_computed :
    (session.lookedAt process address).computed = session.computed := by
  unfold lookedAt
  split <;> rfl

/-- All that a visit takes from a session is the same. -/
structure SameSight (process : Process) (session after : Session) : Prop where
  config : after.config = session.config
  decoder : after.decoderFor process = session.decoderFor process

namespace SameSight

theorem refl (process : Process) (session : Session) : SameSight process session session :=
  ⟨rfl, rfl⟩

theorem symm (h : SameSight process session after) : SameSight process after session :=
  ⟨h.config.symm, h.decoder.symm⟩

theorem trans {first second third : Session} (h : SameSight process first second)
    (h' : SameSight process second third) : SameSight process first third :=
  ⟨h'.config.trans h.config, h'.decoder.trans h.decoder⟩

theorem withDecoder (process : Process) (session : Session) :
    SameSight process session (session.withDecoder process) :=
  ⟨rfl, session.decoderFor_withDecoder process⟩

theorem lookedAt (process : Process) (session : Session) (address : UInt64) :
    SameSight process session (session.lookedAt process address) := by
  unfold Session.lookedAt
  split
  · exact .withDecoder process session
  · exact .refl process session

theorem remember (process : Process) (session : Session) (insn : Instruction) :
    SameSight process session (session.remember insn) :=
  ⟨rfl, rfl⟩

end SameSight

/-! ### Visits -/

section

variable {σ : Type} [Emulator σ] {emulation remaining : Emulation σ} {visit : Visit σ}

/-- The session behind a visit that saw an instruction. -/
def behind (session : Session) (process : Process) (address : UInt64) (insn : Instruction) :
    Session :=
  { session.withDecoder process with
    computed := session.computed.insert address insn
    predecessors := session.predecessors.insert insn.next insn.address }

theorem SameSight.behind (session : Session) (process : Process) (address : UInt64)
    (insn : Instruction) : SameSight process session (session.behind process address insn) :=
  ⟨rfl, session.decoderFor_withDecoder process⟩

theorem visitRecorded_of_found {decoded : Instruction}
    (h : session.found disassembler process address = some decoded) (emulation : Emulation σ) :
    session.visitRecorded disassembler process address emulation =
      let (visit, remaining) := Enhancement.enhanceRecorded decoded.arch.isa process session.config
        decoded emulation
      (some visit, remaining, session.behind process address visit.insn) := by
  unfold found at h
  split at h
  · rename_i hpeek
    have hdecode : session.decode disassembler process address =
        (some decoded, session.withDecoder process) := Prod.ext h rfl
    simp only [visitRecorded, hpeek, if_true, hdecode]
    rfl
  · contradiction

theorem visitRecorded_of_not_found
    (h : session.found disassembler process address = none) (emulation : Emulation σ) :
    session.visitRecorded disassembler process address emulation =
      (none, emulation, session.lookedAt process address) := by
  unfold found at h
  unfold visitRecorded lookedAt
  split at h
  · rename_i hpeek
    have hdecode : session.decode disassembler process address =
        (none, session.withDecoder process) := Prod.ext h rfl
    simp only [hpeek, if_true, hdecode]
  · rename_i hpeek
    rw [if_neg hpeek, if_neg hpeek]

theorem found_of_visitRecorded
    (h : session.visitRecorded disassembler process address emulation =
      (some visit, remaining, after)) :
    ∃ decoded, session.found disassembler process address = some decoded ∧
      Enhancement.enhanceRecorded decoded.arch.isa process session.config decoded emulation =
        (visit, remaining) := by
  cases hfound : session.found disassembler process address with
  | none =>
    rw [visitRecorded_of_not_found hfound] at h
    exact absurd (congrArg Prod.fst h) (by simp)
  | some decoded =>
    rw [visitRecorded_of_found hfound] at h
    simp only [Prod.mk.injEq, Option.some.injEq] at h
    obtain ⟨hvisit, hremaining, -⟩ := h
    exact ⟨decoded, rfl, Prod.ext hvisit hremaining⟩

/-- Sessions that see alike make the same visit, and see alike behind it. -/
theorem SameSight.visitRecorded (h : SameSight process session after)
    (disassembler : Disassembler) (address : UInt64) (emulation : Emulation σ) :
    ∃ visit? remaining next nextAfter,
      session.visitRecorded disassembler process address emulation =
        (visit?, remaining, next) ∧
      after.visitRecorded disassembler process address emulation =
        (visit?, remaining, nextAfter) ∧
      SameSight process next nextAfter := by
  have hsame : after.found disassembler process address =
      session.found disassembler process address := found_congr h.decoder
  cases hfound : session.found disassembler process address with
  | none =>
    refine ⟨_, _, _, _, visitRecorded_of_not_found hfound emulation,
      visitRecorded_of_not_found (hsame.trans hfound) emulation, ?_⟩
    exact (SameSight.lookedAt process session address).symm.trans
      (h.trans (.lookedAt process after address))
  | some decoded =>
    have hvisit := visitRecorded_of_found (hsame.trans hfound) emulation
    rw [h.config] at hvisit
    refine ⟨_, _, _, _, visitRecorded_of_found hfound emulation, hvisit, ?_⟩
    exact (SameSight.behind session process address _).symm.trans
      (h.trans (.behind after process address _))

/-- What is seen at an address is at that address. -/
theorem enhanceRecorded_address {decoded : Instruction} {config : Config} {isa : Isa}
    (hfound : session.found disassembler process address = some decoded)
    (hvisit : Enhancement.enhanceRecorded isa process config decoded emulation =
      (visit, remaining)) : visit.insn.address = address := by
  obtain rfl : _ = visit := congrArg Prod.fst hvisit
  have hsame : (Enhancement.enhanceRecorded isa process config decoded emulation).1.insn.address =
      decoded.address :=
    (Enhancement.describe_sameCode isa process config decoded _ _).address
  exact hsame.trans (found_fresh hfound).1

theorem visit_of_found {decoded : Instruction}
    (hfound : session.found disassembler process address = some decoded)
    (hvisit : Enhancement.enhanceRecorded decoded.arch.isa process session.config decoded
      emulation = (visit, remaining)) :
    (session.visit disassembler process address emulation).1 = some visit.insn := by
  rw [visit_eq_recorded, visitRecorded_of_found hfound, hvisit]
  rfl

end

/-! ### History -/

/-- The instruction at an address as history sees it where none is kept. -/
def unkept (session : Session) (process : Process) (decoded : Instruction) : Instruction :=
  (Enhancement.enhance decoded.arch.isa process session.config decoded
    (Emulation.off : Emulation Empty)).1

theorem unkept_sameCode (session : Session) (process : Process) (decoded : Instruction) :
    (session.unkept process decoded).SameCode decoded :=
  Enhancement.describe_sameCode decoded.arch.isa process session.config decoded
    (Emulation.off : Emulation Empty) .off

/-- An instruction that is shown alone is read anew and not kept. -/
theorem one_cases (session : Session) (disassembler : Disassembler) (process : Process)
    (address : UInt64) :
    (∃ decoded, session.found disassembler process address = some decoded ∧
      session.one disassembler process address =
        (some (session.unkept process decoded),
          (session.withDecoder process).remember (session.unkept process decoded))) ∨
    (session.found disassembler process address = none ∧
      session.one disassembler process address = (none, session.lookedAt process address)) := by
  unfold one found lookedAt
  by_cases hpeek : process.peek address = true
  · simp only [hpeek, if_true, compute]
    generalize hdecode : session.decode disassembler process address = decoded
    obtain ⟨decoded?, after⟩ := decoded
    obtain rfl : session.withDecoder process = after := congrArg Prod.snd hdecode
    cases decoded? with
    | none => exact .inr ⟨rfl, rfl⟩
    | some decoded => exact .inl ⟨decoded, rfl, rfl⟩
  · simp only [hpeek]
    exact .inr ⟨rfl, rfl⟩

theorem one_fst (session : Session) (disassembler : Disassembler) (process : Process)
    (address : UInt64) :
    (session.one disassembler process address).1 =
      (session.found disassembler process address).map (session.unkept process) := by
  rcases session.one_cases disassembler process address with
    ⟨decoded, hfound, hone⟩ | ⟨hfound, hone⟩
  · rw [hone, hfound, Option.map_some]
  · rw [hone, hfound, Option.map_none]

/-- History reads anew only what is not kept, and then as an instruction that is shown alone. -/
theorem recollect_of_not_kept {disassembler : Disassembler} {process : Process} {address : UInt64}
    (h : session.computed.find? address = none) :
    session.recollect disassembler process address =
      session.one disassembler process address := by
  unfold recollect one
  rw [h]

theorem recollect_cases (session : Session) (disassembler : Disassembler) (process : Process)
    (address : UInt64) :
    (∃ insn, session.computed.find? address = some insn ∧
      session.recollect disassembler process address = (some insn, session.remember insn)) ∨
    (∃ decoded, session.computed.find? address = none ∧
      session.found disassembler process address = some decoded ∧
      session.recollect disassembler process address =
        (some (session.unkept process decoded),
          (session.withDecoder process).remember (session.unkept process decoded))) ∨
    session.recollect disassembler process address =
      (none, session.lookedAt process address) := by
  cases hkept : session.computed.find? address with
  | none =>
    rw [recollect_of_not_kept hkept]
    rcases session.one_cases disassembler process address with
      ⟨decoded, hfound, hone⟩ | ⟨-, hone⟩
    · exact .inr (.inl ⟨decoded, rfl, hfound, hone⟩)
    · exact .inr (.inr hone)
  | some insn =>
    unfold recollect lookedAt
    rw [hkept]
    split
    · exact .inl ⟨insn, rfl, rfl⟩
    · exact .inr (.inr rfl)

theorem recollect_sameSight (session : Session) (disassembler : Disassembler) (process : Process)
    (address : UInt64) :
    SameSight process session (session.recollect disassembler process address).2 := by
  rcases session.recollect_cases disassembler process address with
    ⟨insn, -, hrecollect⟩ | ⟨decoded, -, -, hrecollect⟩ | hrecollect
  · rw [hrecollect]
    exact .remember process session insn
  · rw [hrecollect]
    exact (SameSight.withDecoder process session).trans (.remember process _ _)
  · rw [hrecollect]
    exact .lookedAt process session address

theorem recollect_computed (session : Session) (disassembler : Disassembler) (process : Process)
    (address : UInt64) :
    (session.recollect disassembler process address).2.computed = session.computed := by
  rcases session.recollect_cases disassembler process address with
    ⟨insn, -, hrecollect⟩ | ⟨decoded, -, -, hrecollect⟩ | hrecollect
  · rw [hrecollect]
    rfl
  · rw [hrecollect]
    rfl
  · rw [hrecollect, lookedAt_computed]

/-- History keeps nothing. -/
theorem history_frame (disassembler : Disassembler) (process : Process) (count : Nat)
    (address : UInt64) (session : Session) :
    SameSight process session (history disassembler process count address session).2 ∧
      (history disassembler process count address session).2.computed = session.computed := by
  induction count generalizing address session with
  | zero => exact ⟨.refl process session, rfl⟩
  | succ count ih =>
    cases hprevious : session.predecessors.find? address with
    | none =>
      simp only [history, hprevious]
      exact ⟨.refl process session, trivial⟩
    | some previous =>
      have hsight := session.recollect_sameSight disassembler process previous
      have hcomputed := session.recollect_computed disassembler process previous
      rcases hrecollect : session.recollect disassembler process previous with ⟨_ | insn, after⟩ <;>
        rw [hrecollect] at hsight hcomputed <;> simp only [history, hprevious, hrecollect]
      · exact ⟨hsight, hcomputed⟩
      · obtain ⟨hsight', hcomputed'⟩ := ih insn.address after
        exact ⟨hsight.trans hsight', hcomputed'.trans hcomputed⟩

theorem history_length_le (disassembler : Disassembler) (process : Process) (count : Nat)
    (address : UInt64) (session : Session) :
    (history disassembler process count address session).1.length ≤ count := by
  induction count generalizing address session with
  | zero => exact Nat.le_refl 0
  | succ count ih =>
    cases hprevious : session.predecessors.find? address with
    | none => simp only [history, hprevious, List.length_nil, Nat.zero_le]
    | some previous =>
      rcases hrecollect : session.recollect disassembler process previous with ⟨_ | insn, after⟩ <;>
        simp only [history, hprevious, hrecollect]
      · exact Nat.zero_le _
      · exact Nat.succ_le_succ (ih insn.address after)

/-! ### Windows before they are cut -/

/-- The remembered instructions that led to an address, where a window shows them. -/
def historyFor (session : Session) (disassembler : Disassembler) (process : Process)
    (request : WindowRequest) (address : UInt64) : List Instruction × Session :=
  if request.history then history disassembler process request.count address session
  else ([], session)

section

variable {request : WindowRequest} {earlier : List Instruction} {recalled : Session}

theorem historyFor_frame
    (h : session.historyFor disassembler process request address = (earlier, recalled)) :
    SameSight process session recalled ∧ recalled.computed = session.computed := by
  obtain rfl : _ = recalled := congrArg Prod.snd h
  unfold historyFor
  split
  · exact history_frame disassembler process request.count address session
  · exact ⟨.refl process session, rfl⟩

theorem historyFor_length_le
    (h : session.historyFor disassembler process request address = (earlier, recalled)) :
    earlier.length ≤ request.count := by
  obtain rfl : _ = earlier := congrArg Prod.fst h
  unfold historyFor
  split
  · exact history_length_le disassembler process request.count address session
  · exact Nat.zero_le _

end

variable {σ : Type} [Emulator σ]

/-- How a window is put together, given the emulation that it starts with and the session that was
asked for one. -/
inductive Assembles (host : Host σ) (process : Process) (request : WindowRequest)
    (emulation : Emulation σ) (started : Session) : Assembly σ × Session → Prop
  | blind (hfound : started.found host.disassembler process request.address = none) :
      Assembles host process request emulation started
        ({}, started.lookedAt process request.address)
  | around {decoded : Instruction} {current : Visit σ} {remaining : Emulation σ}
      {earlier : List Instruction} {later : List (Visit σ)} {recalled after : Session}
      (hfound : started.found host.disassembler process request.address = some decoded)
      (hcurrent : Enhancement.enhanceRecorded decoded.arch.isa process started.config decoded
        emulation = (current, remaining))
      (hrecalled : (started.behind process request.address current.insn).historyFor
        host.disassembler process request current.insn.address = (earlier, recalled))
      (hwalked : walkRecorded host.disassembler process
        (windowSize request.count - (1 + earlier.length)) current.insn remaining recalled =
          (later, after)) :
      Assembles host process request emulation started
        ({ earlier, visits := current :: later }, after)

theorem assemble_assembles (session : Session) (host : Host σ) (process : Process)
    (request : WindowRequest) :
    Assembles host process request (session.startEmulation host process request).1
      (session.startEmulation host process request).2 (session.assemble host process request) := by
  unfold assemble
  rcases session.startEmulation host process request with ⟨emulation, started⟩
  cases hfound : started.found host.disassembler process request.address with
  | none =>
    simp only [visitRecorded_of_not_found hfound]
    exact .blind hfound
  | some decoded =>
    simp only [visitRecorded_of_found hfound]
    exact .around hfound rfl rfl rfl

/-- The session of a window once its current instruction was visited. -/
def atCurrent (session : Session) (host : Host σ) (process : Process) (request : WindowRequest) :
    Session :=
  let (emulation, started) := session.startEmulation host process request
  (started.visitRecorded host.disassembler process request.address emulation).2.2

/-- History is asked for at the current instruction, if there is one. -/
theorem assemble_earlier (session : Session) (host : Host σ) (process : Process)
    (request : WindowRequest) :
    ((session.assemble host process request).1.visits = [] ∧
      (session.assemble host process request).1.earlier = []) ∨
    (session.assemble host process request).1.earlier =
      ((session.atCurrent host process request).historyFor host.disassembler process request
        request.address).1 := by
  have hassembles := session.assemble_assembles host process request
  unfold atCurrent
  generalize session.assemble host process request = result at hassembles ⊢
  cases hassembles with
  | blind => exact .inl ⟨rfl, rfl⟩
  | around hfound hcurrent hrecalled _ =>
    right
    rw [enhanceRecorded_address hfound hcurrent] at hrecalled
    simp only [visitRecorded_of_found hfound, hcurrent, hrecalled]

end Session

end CodeWindow
