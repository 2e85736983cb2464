import CodeWindow.Proofs.Agreement
import CodeWindow.Snapshot

/-! Pointer chains away from the program counter. A chain goes on there only from links that cannot
be written. So it is the chain that the process shows when it is stopped at the instruction, up to
the first link that can be written or is not mapped. -/

namespace CodeWindow

namespace Chain

/-- A chain that goes on from trusted links only, and the chain that goes on from every link. -/
inductive TrustedPart (trusted : UInt64 → Bool) : List UInt64 → List UInt64 → Prop
  /-- Both end at the same link. -/
  | done {link : UInt64} : TrustedPart trusted [link] [link]
  /-- The chain ends at a link that is not trusted, wherever the other goes. -/
  | stop {link : UInt64} {rest : List UInt64} (hlink : trusted link = false) :
      TrustedPart trusted [link] (link :: rest)
  /-- Both go on from a trusted link. -/
  | step {link : UInt64} {part whole : List UInt64} (hlink : trusted link = true)
      (hrest : TrustedPart trusted part whole) :
      TrustedPart trusted (link :: part) (link :: whole)

namespace TrustedPart

variable {trusted : UInt64 → Bool} {part whole : List UInt64}

theorem ne_nil (h : TrustedPart trusted part whole) : part ≠ [] := by
  cases h <;> exact List.cons_ne_nil _ _

theorem isPrefix (h : TrustedPart trusted part whole) : part <+: whole := by
  induction h with
  | done => exact List.prefix_rfl
  | stop => exact List.prefix_append [_] _
  | step _ _ ih => exact (List.prefix_cons_inj _).mpr ih

theorem trusted_of_mem_dropLast (h : TrustedPart trusted part whole) :
    ∀ link ∈ part.dropLast, trusted link = true := by
  induction h with
  | done | stop => exact List.forall_mem_nil _
  | step hlink hrest ih =>
    rw [List.dropLast_cons_of_ne_nil hrest.ne_nil]
    exact List.forall_mem_cons.mpr ⟨hlink, ih⟩

theorem exists_last_of_length_lt (h : TrustedPart trusted part whole)
    (hshorter : part.length < whole.length) :
    ∃ last, part.getLast? = some last ∧ trusted last = false := by
  induction h with
  | done => exact absurd hshorter (Nat.lt_irrefl _)
  | stop hlink => exact ⟨_, rfl, hlink⟩
  | step _ _ ih =>
    obtain ⟨last, hlast, huntrusted⟩ := ih (Nat.lt_of_succ_lt_succ hshorter)
    exact ⟨last, by rw [List.getLast?_cons, hlast, Option.getD_some], huntrusted⟩

/-- The values that were seen before end both chains alike. -/
theorem linksAfter {pointer? guarded : UInt64 → Option UInt64}
    (hguarded : ∀ link, guarded link = if trusted link then pointer? link else none) (limit : Nat)
    (seen : List UInt64) (current : UInt64) :
    TrustedPart trusted (current :: Chain.linksAfter guarded limit seen current)
      (current :: Chain.linksAfter pointer? limit seen current) := by
  induction limit generalizing seen current with
  | zero => exact .done
  | succ limit ih =>
    simp only [Chain.linksAfter, hguarded]
    cases htrusted : trusted current with
    | false => exact .stop htrusted
    | true =>
      simp only [if_true]
      cases pointer? current with
      | none => exact .done
      | some value =>
        simp only
        split
        · exact .step htrusted .done
        · exact .step htrusted (ih (value :: seen) value)

end TrustedPart

end Chain

namespace Process

variable {p q : Process}

theorem singleRead_congr (hmachine : p.machine = q.machine) (hread : p.read = q.read)
    (place : UInt64) (size : Nat) : p.singleRead place size = q.singleRead place size := by
  simp only [singleRead, readUInt, hmachine, hread]

/-- A chain begins where it was asked for. -/
theorem exists_chain_eq_cons (p : Process) (pointer? : UInt64 → Option UInt64) (place : UInt64)
    (limit : Nat) (readSize : Option Nat) :
    ∃ rest, p.chain pointer? place limit readSize = place :: rest := by
  cases readSize with
  | none => exact ⟨_, rfl⟩
  | some size =>
    unfold chain
    simp only
    split
    · exact ⟨_, singleRead_eq p place size⟩
    · exact ⟨_, rfl⟩

/-- The chain through memory that cannot be written is the trusted part of the chain through the
same memory of a process that trusts all of it. -/
theorem trustedPart_chain (hmachine : p.machine = q.machine) (hread : p.read = q.read)
    {place : UInt64} (hplace : p.isReadOnly place = true) (limit : Nat) (readSize : Option Nat) :
    Chain.TrustedPart p.isReadOnly (p.chain p.constantPointer? place limit readSize)
      (q.chain q.pointer? place limit readSize) := by
  have hguarded : ∀ link,
      p.constantPointer? link = if p.isReadOnly link then q.pointer? link else none := by
    intro link
    simp only [constantPointer?, pointer?, readPointer, readUInt, hmachine, hread]
  have hfollow : Chain.TrustedPart p.isReadOnly (Chain.follow p.constantPointer? place limit)
      (Chain.follow q.pointer? place limit) := .linksAfter hguarded limit [place] place
  have hsingle : ∀ size, Chain.TrustedPart p.isReadOnly (p.singleRead place size)
      (q.singleRead place size) := by
    intro size
    rw [singleRead_congr hmachine hread, singleRead_eq]
    cases (q.readUInt place size).toOption with
    | none => exact .done
    | some value => exact .step hplace .done
  cases readSize with
  | none => exact hfollow
  | some size =>
    simp only [chain, hmachine]
    split
    · exact hsingle size
    · exact hfollow

end Process

namespace Context

variable {σ : Type} [Emulator σ]

/-- What the chain from a place is away from the program counter, beside the chain that the process
shows when it is stopped at the instruction. -/
structure ConstantTelescope (process : Process) (place : UInt64) (away live : List UInt64 × Bool) :
    Prop where
  isPrefix : away.1 <+: live.1
  /-- Only the last link may lie in memory that can be written, or that is not mapped. -/
  constant : ∀ link ∈ away.1.dropLast, process.isReadOnly link = true
  shorter : away.1.length < live.1.length →
    ∃ last, away.1.getLast? = some last ∧ process.isReadOnly last = false
  untrusted_iff : away.2 = false ↔ process.isReadOnly place = false
  untrusted : away.2 = false → away.1 = [place]

/-- Away from the program counter, a chain is the live chain up to the first link that can be
written. -/
theorem telescope_constant {away live : Context σ} {insn : Instruction}
    (hoff : away.emulator = none) (hlive : live.emulator = none)
    (haway : away.process.pc ≠ some insn.address) (hstopped : live.process.pc = some insn.address)
    (hmachine : away.process.machine = live.process.machine)
    (hread : away.process.read = live.process.read) (place : UInt64) (limit : Nat)
    (readSize : Option Nat) :
    live.telescope insn place limit readSize =
        (match readSize with
        | some size =>
          if size < live.machine.pointerSize then live.process.singleRead place size
          else Chain.ofProcess live.process place limit
        | none => Chain.ofProcess live.process place limit, true) ∧
      ConstantTelescope away.process place (away.telescope insn place limit readSize)
        (live.telescope insn place limit readSize) := by
  have hstoppedAt : live.stoppedAt insn = true := by simp [stoppedAt, hstopped]
  have hnotStoppedAt : away.stoppedAt insn = false := by simpa [stoppedAt] using haway
  have hchain : live.telescope insn place limit readSize =
      (live.process.chain live.process.pointer? place limit readSize, true) := by
    simp only [telescope, hlive, hstoppedAt, if_true]
  refine ⟨by rw [hchain]; rfl, ?_⟩
  have hpart : Chain.TrustedPart away.process.isReadOnly
      (away.telescope insn place limit readSize).1
      (live.telescope insn place limit readSize).1 := by
    rw [hchain, telescope_away hoff hnotStoppedAt]
    cases hplace : away.process.isReadOnly place with
    | true => exact Process.trustedPart_chain hmachine hread hplace limit readSize
    | false =>
      obtain ⟨rest, hrest⟩ :=
        live.process.exists_chain_eq_cons live.process.pointer? place limit readSize
      simp only [hrest, Bool.false_eq_true, if_false]
      exact .stop hplace
  constructor
  case isPrefix => exact hpart.isPrefix
  case constant => exact hpart.trusted_of_mem_dropLast
  case shorter => exact hpart.exists_last_of_length_lt
  case untrusted_iff =>
    rw [telescope_away hoff hnotStoppedAt]
    cases away.process.isReadOnly place <;> simp
  case untrusted =>
    rw [telescope_away hoff hnotStoppedAt]
    cases away.process.isReadOnly place <;> simp

/-- A constant points to a variable that points back. At an instruction that the process is not
stopped at, the chain from the constant ends at the variable; stopped there, it comes back. -/
theorem telescope_constant_cycle :
    let snapshot : Snapshot := {
      machine := .ofArch .x86_64
      registers := NameMap.empty.insert "rip" 0x401000
      regions :=
        (AddressMap.empty.insert 0x1000 {
          start := 0x1000, data := [0, 0x20, 0, 0, 0, 0, 0, 0], readable := true
          writable := false, executable := false, objfile := "" }).insert 0x2000 {
          start := 0x2000, data := [0, 0x10, 0, 0, 0, 0, 0, 0], readable := true
          writable := true, executable := false, objfile := "" } }
    let insn : Instruction := {
      arch := .x86_64, address := 0x402000, size := 8, mnemonic := "mov" }
    let away : Context Empty := { process := snapshot.process, config := {}, emulator := none }
    let live : Context Empty := {
      away with process := { snapshot.process with pc := some insn.address } }
    away.process.pc ≠ some insn.address ∧ live.process.pc = some insn.address ∧
      away.telescope insn 0x1000 5 none = ([0x1000, 0x2000], true) ∧
      live.telescope insn 0x1000 5 none = ([0x1000, 0x2000, 0x1000], true) ∧
      ConstantTelescope away.process 0x1000 (away.telescope insn 0x1000 5 none)
        (live.telescope insn 0x1000 5 none) := by
  intro snapshot insn away live
  have hoff : away.emulator = none := rfl
  have hlive : live.emulator = none := rfl
  have haway : away.process.pc ≠ some insn.address := by decide +kernel
  exact ⟨haway, rfl, by decide +kernel, by decide +kernel,
    (telescope_constant hoff hlive haway rfl rfl rfl 0x1000 5 none).2⟩

end Context

end CodeWindow
