import CodeWindow.Proofs.Reachable
import CodeWindow.Snapshot

/-! The past of a session and what it shows. A decoder that was opened before works like one that is
opened anew, and walks read nothing else that is remembered. So sessions that are set up alike, and
have asked for resources or have not, show the same behind the current instruction. -/

namespace CodeWindow

namespace DecoderCache

/-- What was opened under a key is the decoder of that key. -/
def Sound (cache : DecoderCache) : Prop :=
  ∀ key decoder, cache.opened.lookup key = some decoder → decoder = .ofKey key

variable {cache : DecoderCache}

theorem sound_empty : empty.Sound := fun _ _ hopened => nomatch hopened

theorem Sound.get_fst (h : cache.Sound) (key : DecoderKey) : (cache.get key).1 = .ofKey key := by
  unfold get
  cases hopened : cache.opened.lookup key with
  | none => rfl
  | some decoder => exact h key decoder hopened

theorem Sound.get_snd (h : cache.Sound) (key : DecoderKey) : (cache.get key).2.Sound := by
  unfold get
  cases hopened : cache.opened.lookup key with
  | some decoder => exact h
  | none =>
    intro other decoder hother
    rw [Association.lookup_cons] at hother
    split at hother
    · rename_i hkey
      rw [hkey, Option.some.inj hother]
    · exact h other decoder hother

end DecoderCache

variable {σ : Type} [Emulator σ]

namespace Session

variable {session other : Session} {process : Process}

theorem sound_invariant : Invariant fun session => session.decoders.Sound where
  start _ := DecoderCache.sound_empty
  reset _ _ := DecoderCache.sound_empty
  asked session host process request h := by
    rw [(session.startEmulation_frame host process request).2.1]
    exact h
  opened _ process h := h.get_snd (keyOf process)
  visited _ process _ _ _ h := h.get_snd (keyOf process)
  remembered _ _ h := h

/-- Whatever a session was asked before, it sees as it is set up to. -/
theorem sameSight_of_sound (h : session.decoders.Sound) (hother : other.decoders.Sound)
    (hconfig : session.config = other.config) (process : Process) :
    SameSight process session other where
  config := hconfig.symm
  decoder := by
    unfold decoderFor
    rw [h.get_fst, hother.get_fst]

omit [Emulator σ] in
/-- Sessions that are set up alike start the same emulation, and are set up alike then. -/
theorem startEmulation_alike (hconfig : session.config = other.config)
    (hfirst : session.firstEmulation = other.firstEmulation) (host : Host σ) (process : Process)
    (request : WindowRequest) :
    (session.startEmulation host process request).1 =
        (other.startEmulation host process request).1 ∧
      (session.startEmulation host process request).2.config =
        (other.startEmulation host process request).2.config := by
  have hwants : session.wantsEmulator host process request =
      other.wantsEmulator host process request := by
    unfold wantsEmulator
    rw [hconfig]
  have hasked : (session.canEmulate host.probe).1 = (other.canEmulate host.probe).1 ∧
      (session.canEmulate host.probe).2.config = (other.canEmulate host.probe).2.config := by
    unfold canEmulate
    rw [hfirst, hconfig]
    split
    · split <;> exact ⟨rfl, rfl⟩
    · exact ⟨rfl, hconfig⟩
  refine ⟨startEmulation_congr hwants hasked.1, ?_⟩
  rw [startEmulation_config, startEmulation_config, hwants, hasked.2, hconfig]

theorem walkRecorded_congr (h : SameSight process session other) (disassembler : Disassembler)
    (count : Nat) (last : Instruction) (emulation : Emulation σ) :
    (walkRecorded disassembler process count last emulation session).1 =
      (walkRecorded disassembler process count last emulation other).1 := by
  induction count generalizing last emulation session other with
  | zero => rfl
  | succ count ih =>
    obtain ⟨visit?, remaining, next, nextOther, hvisit, hvisitOther, hnext⟩ :=
      h.visitRecorded disassembler ((emulation.past last).pc?.getD last.next) (emulation.past last)
    simp only [walkRecorded, hvisit, hvisitOther]
    cases visit? with
    | none => rfl
    | some visit => simp only [ih hnext visit.insn remaining]

/-- A window without history is assembled from what is seen alone. -/
theorem assemble_congr (h : session.decoders.Sound) (hother : other.decoders.Sound)
    (hconfig : session.config = other.config)
    (hfirst : session.firstEmulation = other.firstEmulation) (host : Host σ) (process : Process)
    {request : WindowRequest} (hhistory : request.history = false) :
    (session.assemble host process request).1 = (other.assemble host process request).1 := by
  have hstarted := sound_invariant.asked session host process request h
  have hstartedOther := sound_invariant.asked other host process request hother
  obtain ⟨hemulation, hsetup⟩ := startEmulation_alike hconfig hfirst host process request
  unfold assemble
  generalize session.startEmulation host process request = start at *
  generalize other.startEmulation host process request = startOther at *
  obtain ⟨emulation, started⟩ := start
  obtain ⟨emulationOther, startedOther⟩ := startOther
  obtain rfl : emulation = emulationOther := hemulation
  have hsight := sameSight_of_sound hstarted hstartedOther hsetup process
  obtain ⟨current?, remaining, next, nextOther, hvisit, hvisitOther, hnext⟩ :=
    hsight.visitRecorded host.disassembler request.address emulation
  simp only [hvisit, hvisitOther, hhistory, Bool.false_eq_true, if_false]
  cases current? with
  | none => rfl
  | some current =>
    simp only [walkRecorded_congr hnext host.disassembler _ current.insn remaining]

theorem one_congr (h : SameSight process session other) (disassembler : Disassembler)
    (address : UInt64) :
    (session.one disassembler process address).1 = (other.one disassembler process address).1 := by
  have hfound : other.found disassembler process address =
      session.found disassembler process address := found_congr h.decoder
  have hunkept : other.unkept process = session.unkept process := by
    unfold unkept
    rw [h.config]
  rw [one_fst, one_fst, hfound, hunkept]

/-- Sessions that are set up alike show the same windows without history and the same instructions,
whatever they were asked before. -/
theorem near_eq_of_reachable {session other : Session} (h : session.Reachable)
    (hother : other.Reachable) (hconfig : session.config = other.config)
    (hfirst : session.firstEmulation = other.firstEmulation) (host : Host σ) (process : Process) :
    (∀ request : WindowRequest, request.history = false →
      (session.near host process request).1 = (other.near host process request).1) ∧
    ∀ address, (session.one host.disassembler process address).1 =
      (other.one host.disassembler process address).1 := by
  have hsound := sound_invariant.reachable h
  have hsoundOther := sound_invariant.reachable hother
  constructor
  · intro request hhistory
    simp only [near_eq_recorded,
      assemble_congr hsound hsoundOther hconfig hfirst host process hhistory]
  · intro address
    have hsight := sameSight_of_sound hsound hsoundOther hconfig process
    exact one_congr hsight host.disassembler address

/-- A session that has seen other code at the same addresses, on a machine of the same kind and on
one of another, shows what a new one shows. -/
theorem near_eq_of_other_code :
    let process (arch : Architecture) (code : List UInt8) : Process := Snapshot.process {
      machine := .ofArch arch
      registers := NameMap.empty.insert "pc" 0x1000
      regions := AddressMap.empty.insert 0x1000 {
        start := 0x1000, data := code, readable := true, writable := false
        executable := true, objfile := "" } }
    let host : Host Empty := {
      disassembler := fun encoding code address => some {
        size := 4, operandText := "", groups := if code.head? = some 0 then [1] else []
        mnemonic := if encoding = .aarch64 .little then "b" else "bx"
        operands := if code.head? = some 0 then [{ kind := .immediate (address + 8).toInt64 }]
          else [] } }
    let shown := process .aarch64 [1, 0, 0, 0, 1, 0, 0, 0, 1, 0, 0, 0]
    let request (history : Bool) : WindowRequest := {
      address := 0x1000, count := 1, emulate := false, history }
    let session : Session := start {}
    let seen : Session := (session.near host (process .arm (List.replicate 16 0)) (request true)).2
    let other : Session := (seen.near host (process .aarch64 (List.replicate 16 0)) (request true)).2
    other.decoders.size = 2 ∧ (other.cached 0x1000).map Instruction.next = some 0x1008 ∧
      (session.near host shown (request false)).1.map Instruction.next =
        [0x1004, 0x1008, 0x100c] ∧
      (session.near host shown (request false)).1 = (other.near host shown (request false)).1 ∧
      (session.one host.disassembler shown 0x1000).1 =
        (other.one host.disassembler shown 0x1000).1 := by
  intro process host shown request session seen other
  have hseen : seen.Reachable := .near (.start {}) host _ _
  have hother : other.Reachable := .near hseen host _ _
  have hsame := near_eq_of_reachable (.start {}) hother (by decide +kernel) (by decide +kernel)
    host shown
  exact ⟨by decide +kernel, by decide +kernel, by decide +kernel, hsame.1 (request false) rfl,
    hsame.2 0x1000⟩

end Session

end CodeWindow
