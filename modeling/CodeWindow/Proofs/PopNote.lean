import CodeWindow.Proofs.OperandValues
import CodeWindow.Proofs.ShownNumber
import CodeWindow.Proofs.StoredNumber
import CodeWindow.Proofs.StrayReads

/-! What is popped off the stack. With an emulator the note of `pop` shows what the register holds
behind it; without one it shows the pointer on top of the stack, however narrow the register is. The
two agree where the pointer can be read and has no more bytes than the register. -/

namespace CodeWindow

/-! ### Wide numbers -/

namespace Process

variable {process : Process} {address : UInt64} {size : Nat}

/-- All bytes of a number must be readable, but those beyond a word do not count. -/
theorem toNat_readUInt_of_wide (h : process.ReadsRuns) :
    (process.readUInt address size).toOption.map UInt64.toNat =
      (process.storedNumber? address size).bind fun _ =>
        process.storedNumber? address (min size 8) := by
  cases hread : process.read .exact address size with
  | error cause => simp [readUInt, storedNumber?, hread, Except.map, Except.toOption]
  | ok bytes =>
    have hlength := h.length hread
    have hshort := h.take (Nat.min_le_left size 8) hread
    have hfirst : bytes.take 8 = bytes.take (min size 8) := by
      rw [List.take_eq_take_iff]
      omega
    have hword :
        process.machine.unpack bytes = process.machine.unpack (bytes.take (min size 8)) := by
      rw [← hfirst]
      simp only [Machine.unpack, List.take_take, Nat.min_self]
    have hle : (bytes.take (min size 8)).length ≤ 8 := by
      rw [List.length_take]
      omega
    simp only [readUInt, storedNumber?, hread, hshort, Except.map, Except.toOption, Option.map_some,
      Option.bind_some, hword, Machine.toNat_unpack _ hle]

end Process

/-! ### Notes -/

namespace Enhancement

variable {σ : Type} [Emulator σ] {process : Process} {config : Config} {insn : Instruction}
  {dest : Operand} {name : String} {emulation : Emulation σ} {next : σ} {sp value : UInt64}

/-- The note is that of an instruction with the same code and the operands that are shown. -/
theorem exists_note_describe (isa : Isa) (entering leaving : Emulation σ)
    (hnotes : config.disasmAnnotations = true) :
    ∃ shown : Instruction, shown.address = insn.address ∧ shown.mnemonic = insn.mnemonic ∧
      shown.operands = (describe isa process config insn entering leaving).operands ∧
      (describe isa process config insn entering leaving).note =
        isa.note (contextFor process config insn leaving) shown := by
  have hwanted : (contextFor process config insn leaving).config.disasmAnnotations = true := hnotes
  have hcode := describe_sameCode isa process config insn entering leaving
  rw [describe_eq_conclude] at hcode ⊢
  generalize valuesAfter isa (contextFor process config insn leaving) _ = valued at hcode ⊢
  obtain ⟨shown, hsame, hoperands, hnote⟩ := exists_note_conclude isa valued leaving.pc? hwanted
  have hshown := hsame.trans
    ((conclude_sameCode isa (contextFor process config insn leaving) valued leaving.pc?).symm.trans
      hcode)
  exact ⟨shown, hshown.address, hshown.mnemonic, hoperands, hnote⟩

section

variable (process : Process) (hmnemonic : insn.mnemonic = "pop")
  (hoperands : insn.operands = [dest]) (hregister : dest.kind = .register name)

include hoperands hregister

theorem exists_popped_operand (isa : Isa) (entering leaving : Emulation σ) :
    ∃ popped, (describe isa process config insn entering leaving).operands = [popped] ∧
      popped.isRegister = true ∧ popped.label = Text.upper name := by
  rw [describe_operands, hoperands]
  refine ⟨_, rfl, ?_, ?_⟩
  · unfold operandAround
    split <;> simp only [withAfter, withBefore, Operand.isRegister, Operand.register?, hregister,
      Option.isSome_some]
  · unfold operandAround
    split <;> simp only [Operand.label, displayOf, withAfter, withBefore, hregister,
      Option.getD_some]

include hmnemonic

theorem exists_note_pop (entering leaving : Emulation σ)
    (hnotes : config.disasmAnnotations = true) :
    ∃ shown popped, shown.address = insn.address ∧
      (describe .x86 process config insn entering leaving).operands = [popped] ∧
      popped.label = Text.upper name ∧
      (describe .x86 process config insn entering leaving).note =
        Isa.X86.popNote (contextFor process config insn leaving) shown popped := by
  obtain ⟨popped, hpopped, hisRegister, hlabel⟩ : ∃ popped,
      (describe .x86 process config insn entering leaving).operands = [popped] ∧
        popped.isRegister = true ∧ popped.label = Text.upper name :=
    exists_popped_operand process hoperands hregister .x86 entering leaving
  obtain ⟨shown, haddress, hsame, hshown, hnote⟩ :=
    exists_note_describe .x86 entering leaving hnotes
  have hrule : Isa.X86.noteRule? "pop" = some .pop := rfl
  refine ⟨shown, popped, haddress, hpopped, hlabel, hnote.trans ?_⟩
  simp only [Isa.note, Isa.X86.note, hsame, hmnemonic, hrule, hshown, hpopped, hisRegister, if_true]

variable {process} (hnotes : config.disasmAnnotations = true)
  (hstopped : process.pc = some insn.address)

include hnotes hstopped

/-- Without an emulator the pointer on top of the stack is popped. -/
theorem note_pop_off (hsp : process.sp = some sp) :
    (describe .x86 process config insn .off (.off : Emulation σ)).note =
      (process.readPointer sp).toOption.map fun value =>
        Note.becomes (Text.upper name) (Rendering.addressAndSymbol process.symbolAt value) := by
  obtain ⟨shown, popped, haddress, -, hlabel, hnote⟩ :=
    exists_note_pop process hmnemonic hoperands hregister (.off : Emulation σ) .off hnotes
  have hpc : (contextOff σ process config).stoppedAt shown = true := by
    simp [Context.stoppedAt, contextOff, hstopped, haddress]
  rw [hnote, contextFor_off]
  simp only [Isa.X86.popNote, hpc, if_true, contextOff_process, hsp, Option.bind_some, hlabel,
    Isa.X86.withSymbol]
  cases process.readPointer sp <;> rfl

/-- With an emulator what the register holds behind the instruction is popped. -/
theorem note_pop_emulated (hvalues : config.valuesFromEmulator = true) (entering : Emulation σ)
    (hafter : (describe .x86 process config insn entering (.active next)).operands.map
      Operand.afterValue = [some value]) :
    (describe .x86 process config insn entering (.active next)).note =
      some (Note.becomes (Text.upper name)
        (Rendering.addressAndSymbol process.symbolAt value)) := by
  obtain ⟨shown, popped, -, hpopped, hlabel, hnote⟩ :=
    exists_note_pop process hmnemonic hoperands hregister entering (.active next) hnotes
  have hmay : mayUseEmulated process config insn = true := by
    simp [mayUseEmulated, hvalues, hstopped]
  have hcontext : contextFor process config insn (.active next) =
      { process, config, emulator := some next } := by
    simp only [contextFor, hmay, if_true, Emulation.state?]
  have hvalue : popped.afterValue = some value := by
    rw [hpopped] at hafter
    exact List.head_eq_of_cons_eq hafter
  rw [hnote, hcontext]
  simp only [Isa.X86.popNote, hvalue, hlabel, Isa.X86.withSymbol, Option.bind_eq_bind,
    Option.bind_some]

end

/-- A `pop` that the emulator does right is shown alike without it, if the pointer on top of the
stack can be read and is the number that is popped. For a register as wide as a pointer that is
always so. -/
theorem enhance_pop_note_eq_iff (hnotes : config.disasmAnnotations = true)
    (hvalues : config.valuesFromEmulator = true) (hstopped : process.pc = some insn.address)
    (hmnemonic : insn.mnemonic = "pop") (hoperands : insn.operands = [dest])
    (hregister : dest.kind = .register name) (hsize : dest.size ≤ 8)
    (hactive : (emulation.readyFor insn).step = .active next)
    (hafter : (enhance .x86 process config insn emulation).1.operands.map Operand.afterValue =
      [some value])
    (hsp : process.sp = some sp)
    (hright : process.storedNumber? sp dest.size = some value.toNat)
    (hreads : process.ReadsRuns) :
    let live := (enhance .x86 process config insn (.off : Emulation σ)).1.note
    let emulated := (enhance .x86 process config insn emulation).1.note
    let stored := process.storedNumber? sp
    let width := process.machine.pointerSize
    (live = emulated ↔ stored width ≠ none ∧ stored (min width 8) = stored dest.size) ∧
      (dest.size = width → live = emulated) := by
  intro live emulated stored width
  have henhance : (enhance .x86 process config insn emulation).1 =
      describe .x86 process config insn (emulation.readyFor insn) (.active next) := by
    rw [← hactive]
    rfl
  rw [henhance] at hafter
  have hemulated : emulated = _ := (congrArg Instruction.note henhance).trans
    (note_pop_emulated hmnemonic hoperands hregister hnotes hstopped hvalues _ hafter)
  have hlive : live = _ := note_pop_off hmnemonic hoperands hregister hnotes hstopped hsp
  have hnumber : (process.readPointer sp).toOption.map UInt64.toNat =
      (stored width).bind fun _ => stored (min width 8) := Process.toNat_readUInt_of_wide hreads
  have hsame : live = emulated ↔ stored width ≠ none ∧ stored (min width 8) = stored dest.size := by
    calc live = emulated
        ↔ (process.readPointer sp).toOption.map UInt64.toNat = some value.toNat := by
          rw [hlive, hemulated]
          cases (process.readPointer sp).toOption with
          | none => simp
          | some popped =>
            simp only [Option.map_some, Option.some_inj, UInt64.toNat_inj]
            refine ⟨fun htext => ?_, fun hvalue => hvalue ▸ rfl⟩
            exact Rendering.addressAndSymbol_inj ((String.append_right_inj _).mp htext)
      _ ↔ stored width ≠ none ∧ stored (min width 8) = stored dest.size := by
          rw [hnumber]
          cases stored width with
          | none => simp
          | some number => simp [stored, hright]
  refine ⟨hsame, fun hwide => hsame.mpr ?_⟩
  rw [← hwide, Nat.min_eq_left hsize]
  exact ⟨by simp [stored, hright], rfl⟩

/-- A register as wide as a pointer. -/
theorem enhance_pop_wide :
    let region : Region := {
      start := 0x7000, data := [0x11, 0x22, 0x33, 0x44, 0x55, 0x66, 0x77, 0x88], readable := true
      writable := true, executable := false, objfile := "" }
    let snapshot : Snapshot := {
      machine := .ofArch .x86_64
      registers := (NameMap.empty.insert "rip" 0x401000).insert "rsp" 0x7000
      regions := AddressMap.empty.insert 0x7000 region }
    let pop : Instruction := {
      arch := .x86_64, mode := .standard, address := 0x401000, size := 1, mnemonic := "pop"
      operands := [{ kind := .register "rbx", size := 8 }] }
    let step : ScriptedStep := {
      fails := false, pc := 0x401001, registers := [("rbx", 0x8877665544332211)], regions := [] }
    let emulation : Emulation ScriptedEmulator :=
      .active { snapshot, pc := 0x401000, steps := [step] }
    snapshot.process.storedNumber? 0x7000 8 = some 0x8877665544332211 ∧
      (enhance .x86 snapshot.process {} pop (.off : Emulation ScriptedEmulator)).1.note =
        (enhance .x86 snapshot.process {} pop emulation).1.note := by
  intro region snapshot pop step emulation
  have hstored : snapshot.process.storedNumber? 0x7000 8 = some 0x8877665544332211 := by
    decide +kernel
  have hnotes := @enhance_pop_note_eq_iff ScriptedEmulator _ snapshot.process {} pop _ "rbx"
    emulation _ 0x7000 0x8877665544332211 rfl rfl (by decide +kernel) rfl rfl rfl (by decide)
    rfl (by decide +kernel) (by decide +kernel) hstored snapshot.readsRuns
  exact ⟨hstored, hnotes.2 rfl⟩

/-- A pointer is shown for the two bytes that are popped, and nothing where two bytes are all that
can be read. -/
theorem enhance_pop_narrow_differs :
    let region (data : List UInt8) : Region := {
      start := 0x7000, data, readable := true, writable := true, executable := false
      objfile := "" }
    let snapshot (data : List UInt8) : Snapshot := {
      machine := .ofArch .x86_64
      registers := (NameMap.empty.insert "rip" 0x401000).insert "rsp" 0x7000
      regions := AddressMap.empty.insert 0x7000 (region data) }
    let pop : Instruction := {
      arch := .x86_64, mode := .standard, address := 0x401000, size := 2, mnemonic := "pop"
      operands := [{ kind := .register "bx", size := 2 }] }
    let step : ScriptedStep := {
      fails := false, pc := 0x401002, registers := [("bx", 0x2211)], regions := [] }
    let live (data : List UInt8) :=
      (enhance .x86 (snapshot data).process {} pop (.off : Emulation ScriptedEmulator)).1
    let emulation (data : List UInt8) : Emulation ScriptedEmulator :=
      .active { snapshot := snapshot data, pc := 0x401000, steps := [step] }
    let emulated (data : List UInt8) :=
      (enhance .x86 (snapshot data).process {} pop (emulation data)).1
    let whole := [0x11, 0x22, 0x33, 0x44, 0x55, 0x66, 0x77, 0x88]
    let short := [0x11, 0x22]
    ((snapshot whole).process.storedNumber? 0x7000 2 = some 0x2211 ∧
      (emulated whole).operands.map Operand.afterValue = [some 0x2211] ∧
      (emulated whole).note = some "BX => 0x2211" ∧
      (live whole).note = some "BX => 0x8877665544332211") ∧
      (snapshot short).process.storedNumber? 0x7000 2 = some 0x2211 ∧
      (emulated short).operands.map Operand.afterValue = [some 0x2211] ∧
      (emulated short).note = some "BX => 0x2211" ∧
      (live short).note = none := by
  decide +kernel

end Enhancement

end CodeWindow
