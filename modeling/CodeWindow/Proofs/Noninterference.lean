import CodeWindow.Enhancement
import CodeWindow.Emulator.Scripted
import CodeWindow.Proofs.Agreement.Isa
import CodeWindow.Proofs.Overwrite
import CodeWindow.Proofs.SameCode
import CodeWindow.Proofs.StrayReads

/-! What enhancement of an instruction cannot depend on, where the process is not stopped at the
instruction. Without an emulator that is every register, and every byte that can be written as long
as reads and strings stay in memory that cannot. With an emulator that steps the instruction and
whose values may be used, it is every register and all of memory. -/

namespace CodeWindow

namespace Context.Alike

open Enhancement

variable {σ : Type} [Emulator σ] {c d : Context σ} {insn : Instruction}

theorem maskedValue (h : Alike insn.address c d) (isa : Isa) (operand : Operand) :
    maskedValue isa c insn operand = maskedValue isa d insn operand := by
  simp only [Enhancement.maskedValue, h.operandValue isa, h.machine]

theorem valuesBefore (h : Alike insn.address c d) (isa : Isa) :
    valuesBefore isa c insn = valuesBefore isa d insn := by
  have hbefore : withBefore isa c insn = withBefore isa d insn := by
    funext operand
    simp only [withBefore, h.maskedValue isa, h.process.symbolAt, h.usedValue]
  simp only [Enhancement.valuesBefore, hbefore]

theorem valuesAfter (h : Alike insn.address c d) (isa : Isa) :
    valuesAfter isa c insn = valuesAfter isa d insn := by
  have hafter : withAfter isa c insn = withAfter isa d insn := by
    funext operand
    simp only [withAfter, h.maskedValue isa, h.usedValue]
  simp only [Enhancement.valuesAfter, h.emulator, hafter]

theorem withNext (h : Alike insn.address c d) (isa : Isa) (jumpPc : Option UInt64) :
    withNext isa c insn jumpPc = withNext isa d insn jumpPc := by
  simp only [Enhancement.withNext, successor?, h.isaBranchTarget isa, h.machine]

theorem withTarget (h : Alike insn.address c d) (isa : Isa) :
    withTarget isa c insn = withTarget isa d insn := by
  simp only [Enhancement.withTarget, h.isaBranchTarget isa, h.machine]

theorem withNote (h : Alike insn.address c d) (isa : Isa) :
    withNote isa c insn = withNote isa d insn := by
  unfold Enhancement.withNote
  rw [← h.config]
  split
  · rename_i hnotes
    rw [h.note isa hnotes]
  · rfl

theorem withCondition (h : Alike insn.address c d) (isa : Isa) :
    withCondition isa c insn = withCondition isa d insn := by
  simp only [Enhancement.withCondition, h.condition isa]

omit [Emulator σ] in
theorem withTargetText (h : Alike insn.address c d) :
    withTargetText c.process insn = withTargetText d.process insn := by
  simp only [Enhancement.withTargetText, h.process.symbolAt]

/-- No step changes the address of the instruction, so contexts that are alike for it stay so. -/
theorem conclude (h : Alike insn.address c d) (isa : Isa) (jumpPc : Option UInt64) :
    conclude isa c insn jumpPc = conclude isa d insn jumpPc := by
  have hdisplay : displayOf c.process = displayOf d.process := by
    funext operand
    simp only [displayOf, h.process.symbolAt, h.process.machine]
  simp only [Enhancement.conclude, hdisplay]
  generalize hshown : mapOperands insn _ = shown
  have hshown : Alike shown.address c d := hshown ▸ h
  rw [hshown.withCondition isa]
  generalize hconditioned : Enhancement.withCondition isa d shown = conditioned
  have hconditioned : Alike conditioned.address c d := hconditioned ▸ hshown
  rw [hconditioned.withNext isa]
  generalize hdirected : Enhancement.withNext isa d conditioned jumpPc = directed
  have hdirected : Alike directed.address c d := hdirected ▸ hconditioned
  rw [hdirected.withTarget isa]
  generalize htargeted : Enhancement.withTarget isa d directed = targeted
  have htargeted : Alike targeted.address c d := htargeted ▸ hdirected
  rw [htargeted.withTargetText]
  generalize htexted : Enhancement.withTargetText d.process targeted = texted
  have htexted : Alike texted.address c d := htexted ▸ htargeted
  exact htexted.withNote isa

end Context.Alike

namespace Enhancement

variable {σ : Type} [Emulator σ] {p q : Process} {config : Config} {insn : Instruction}

/-- An instruction sees two contexts: one before the step of the emulator, and one after it. -/
theorem describe_eq_of_alike (isa : Isa) {entering leaving : Emulation σ}
    (hentering : Context.Alike insn.address (contextFor p config insn entering)
      (contextFor q config insn entering))
    (hleaving : Context.Alike insn.address (contextFor p config insn leaving)
      (contextFor q config insn leaving)) :
    describe isa p config insn entering leaving = describe isa q config insn entering leaving := by
  simp only [describe, hentering.valuesBefore isa]
  generalize hstepped : ite (leaving.isActive = true) _ _ = stepped
  have haddress : stepped.address = insn.address := by
    subst hstepped
    split <;> rfl
  rw [← haddress] at hleaving
  rw [hleaving.valuesAfter isa]
  rw [← (valuesAfter_sameCode isa (contextFor q config insn leaving) stepped).address] at hleaving
  rw [hleaving.conclude isa]

/-- Without an emulator the instruction sees one context from beginning to end. -/
theorem enhance_off_eq_of_alike (isa : Isa)
    (h : Context.Alike insn.address { process := p, config, emulator := (none : Option σ) }
      { process := q, config, emulator := none }) :
    enhance isa p config insn (.off : Emulation σ) = enhance isa q config insn .off := by
  have hoff : Context.Alike insn.address (contextFor p config insn (.off : Emulation σ))
      (contextFor q config insn .off) := by
    simpa only [contextFor_off, contextOff] using h
  simp only [enhance, Emulation.readyFor, Emulation.step, describe_eq_of_alike isa hoff hoff]

/-! ### Examples of processes

The process is stopped at `0x401000`, and the instruction lies at `0x402000`. -/

/-- An x86-64 process with bytes at `0x1000` that cannot be written, and with four zeros elsewhere
that can. -/
def constantAndVariable (constant : List UInt8) (place : UInt64) : Snapshot where
  machine := .ofArch .x86_64
  registers := NameMap.empty.insert "rip" 0x401000
  regions :=
    (AddressMap.empty.insert 0x1000 {
      start := 0x1000, data := constant, readable := true, writable := false, executable := false,
      objfile := "" }).insert place {
      start := place, data := [0, 0, 0, 0], readable := true, writable := true,
      executable := false, objfile := "" }

/-- A move of so many bytes from `0x1000` to a register. -/
def moveFromConstant (size : Nat) : Instruction :=
  .intoRegister "mov" 0x402000 (.memory { disp := 0x1000 }) size

/-! ### Away from the program counter, without an emulator -/

/-- The registers of the process have no influence. -/
theorem enhance_eq_of_sameMemory (isa : Isa) (h : p.SameMemory q)
    (haway : p.pc ≠ some insn.address) :
    enhance isa p config insn (.off : Emulation σ) = enhance isa q config insn .off :=
  enhance_off_eq_of_alike isa (.ofMemory h haway config)

theorem enhance_move_eq_of_other_registers :
    let p := (constantAndVariable [0x41] 0x9000).process
    let q := { p with register := fun _ => some 7, sp := some 8 }
    p.register "rip" ≠ q.register "rip" ∧
      enhance .x86 p {} (moveFromConstant 1) (.off : Emulation Empty) =
        enhance .x86 q {} (moveFromConstant 1) .off :=
  ⟨by decide +kernel, enhance_eq_of_sameMemory .x86 ⟨rfl, rfl, rfl, rfl, rfl⟩ (by decide +kernel)⟩

/-- What can be written has no influence on any instruction if it has none on stray reads, and only
then, where pointers reach all of the memory that cannot be written. -/
theorem enhance_eq_iff_sameStrayReads (h : p.SameConstants q) :
    (p.SameStrayReads config q → ∀ isa insn, p.pc ≠ some insn.address →
      enhance isa p config insn (.off : Emulation σ) = enhance isa q config insn .off) ∧
    ((∀ place, p.isReadOnly place = true → place &&& p.machine.pointerMask = place) →
      (∀ isa insn, p.pc ≠ some insn.address →
        enhance isa p config insn (.off : Emulation σ) = enhance isa q config insn .off) →
      p.SameStrayReads config q) := by
  constructor
  · intro hstray isa insn haway
    exact enhance_off_eq_of_alike isa (.ofConstants h hstray haway)
  · intro hrange hsame
    exact sameStrayReads_of_enhance_eq h hrange fun _ _ _ _ haway => hsame .x86 _ haway

/-- A letter leads nowhere near the variable. -/
theorem not_reachesWritable_of_letter {place : UInt64}
    (h : (constantAndVariable [0x41] 0x9000).process.NamesPlace place) :
    ¬ (constantAndVariable [0x41] 0x9000).process.ReachesWritable place 51 := by
  obtain ⟨address, hread, hplace⟩ := h
  obtain ⟨region, hregion, hwritable⟩ := Snapshot.exists_region_of_isReadOnly hread
  obtain ⟨entry, hmem, rfl, hcontains⟩ := Snapshot.mem_entries_of_regionAt hregion
  have hbounds : ∀ entry ∈ (constantAndVariable [0x41] 0x9000).regions.entries,
      entry.2.writable = false → entry.2.start = 0x1000 ∧ entry.2.stop = 0x1001 := by
    decide +kernel
  obtain ⟨hstart, hstop⟩ := hbounds entry hmem hwritable
  obtain rfl : address = 0x1000 := by
    simp only [Region.contains, hstart, hstop, Bool.and_eq_true, decide_eq_true_eq,
      UInt64.le_iff_toNat_le, UInt64.lt_iff_toNat_lt, UInt64.reduceToNat] at hcontains
    apply UInt64.toNat_inj.mp
    simp only [UInt64.reduceToNat]
    omega
  have hnumbers : ∀ size < 8,
      ((constantAndVariable [0x41] 0x9000).process.readUInt 0x1000 size).toOption ∈
        [none, some 0, some 0x41] := by
    decide +kernel
  have hpointer : (constantAndVariable [0x41] 0x9000).process.pointer? 0x1000 = none := by
    decide +kernel
  have hsmall : place = 0 ∨ place = 0x41 := by
    rcases hplace with hplace | ⟨size, hsize, hplace⟩
    · simp only [hpointer, reduceCtorEq] at hplace
    · simpa [hplace, Except.toOption] using hnumbers size hsize
  unfold Process.ReachesWritable
  rcases hsmall with rfl | rfl <;> decide +kernel

theorem enhance_eq_of_other_variable :
    let s := constantAndVariable [0x41] 0x9000
    let t := s.overwrite fun _ _ => 0x68
    (s.process.read .exact 0x9000 4).toOption ≠ (t.process.read .exact 0x9000 4).toOption ∧
      (∀ isa insn, s.process.pc ≠ some insn.address →
        enhance isa s.process {} insn (.off : Emulation Empty) =
          enhance isa t.process {} insn .off) ∧
      (∀ place, s.process.isReadOnly place = true →
        place &&& s.process.machine.pointerMask = place) ∧
      s.process.SameStrayReads {} t.process := by
  intro s t
  have hconstants : s.process.SameConstants t.process := Snapshot.sameConstants_overwrite _ s
  have hstray : s.process.SameStrayReads {} t.process :=
    Snapshot.Fenced.sameStrayReads_overwrite _ (by decide +kernel)
      fun _ _ => not_reachesWritable_of_letter
  have hsame : ∀ isa insn, s.process.pc ≠ some insn.address →
      enhance isa s.process {} insn (.off : Emulation Empty) =
        enhance isa t.process {} insn .off :=
    (enhance_eq_iff_sameStrayReads hconstants).1 hstray
  have hrange : ∀ place, s.process.isReadOnly place = true →
      place &&& s.process.machine.pointerMask = place := by
    intro place _
    have hmask : s.process.machine.pointerMask = -1 := by decide +kernel
    rw [hmask, UInt64.and_neg_one]
  exact ⟨by decide +kernel, hsame, hrange,
    (enhance_eq_iff_sameStrayReads hconstants).2 hrange hsame⟩

/-- Either kind of stray read shows what was written: a string that a constant points to, where no
number runs into writable memory, and a number that does, where there is no note. -/
theorem enhance_shows_written_memory :
    let pointing := constantAndVariable [0, 0x20, 0, 0, 0, 0, 0, 0] 0x2000
    let straddled := constantAndVariable [0, 0x20, 0, 0] 0x1004
    let written (s : Snapshot) : Snapshot := s.overwrite fun _ _ => 0x68
    let shown (s : Snapshot) (config : Config) : Instruction :=
      (enhance .x86 s.process config (moveFromConstant 8) (.off : Emulation Empty)).1
    (pointing.process.SameConstants (written pointing).process ∧
      pointing.process.pc ≠ some (moveFromConstant 8).address ∧
      pointing.process.SameNumbers (written pointing).process ∧
      (shown pointing {}).note = some "RAX, [0x1000] => 0x2000" ∧
      (shown (written pointing) {}).note = some "RAX, [0x1000] => 0x2000 ◂— 'hhhh'") ∧
    (straddled.process.SameConstants (written straddled).process ∧
      straddled.process.pc ≠ some (moveFromConstant 8).address ∧
      (shown straddled { disasmAnnotations := false }).operands.map Operand.beforeResolved =
        [none, some 0x2000] ∧
      (shown (written straddled) { disasmAnnotations := false }).operands.map
        Operand.beforeResolved = [none, some 0x6868686800002000]) := by
  intro pointing straddled written shown
  have hfenced : pointing.Fenced := by decide +kernel
  exact ⟨⟨Snapshot.sameConstants_overwrite _ _, by decide +kernel,
    hfenced.sameNumbers_overwrite _, by decide +kernel, by decide +kernel⟩,
    ⟨Snapshot.sameConstants_overwrite _ _, by decide +kernel, by decide +kernel,
      by decide +kernel⟩⟩

/-! ### With an emulator that steps the instruction -/

/-- Neither the registers nor the memory of the process have any influence. -/
theorem enhance_eq_of_stepped (isa : Isa) {state next : σ} (h : p.SameMap q)
    (haway : p.pc ≠ some insn.address) (hmay : mayUseEmulated p config insn = true)
    (hpc : Emulator.pc state = insn.address) (hsteps : insn.blocksEmulation = false)
    (hstep : Emulator.step state = .ok next) :
    enhance isa p config insn (.active state) = enhance isa q config insn (.active state) := by
  have hother : mayUseEmulated q config insn = true := by
    simpa only [mayUseEmulated, h.pc] using hmay
  have hready : (Emulation.active state).readyFor insn = .active state := by
    simp only [Emulation.readyFor, hpc, hsteps, decide_true, Bool.not_false, Bool.and_true, if_true]
  have halike : ∀ state : σ, Context.Alike insn.address
      (contextFor p config insn (.active state)) (contextFor q config insn (.active state)) := by
    intro state
    simpa only [contextFor, hmay, hother, if_true, Emulation.state?] using
      Context.Alike.ofMap h haway config state
  simp only [enhance, hready, Emulation.step, hstep,
    describe_eq_of_alike isa (halike state) (halike next)]

theorem enhance_move_eq_of_other_process :
    let s := constantAndVariable [0, 0x20, 0, 0, 0, 0, 0, 0] 0x2000
    let p := s.process
    let q := {
      p with
      register := fun _ => some 7
      sp := some 8
      read := fun mode address length => (p.read mode address length).map (List.map fun _ => 0x68) }
    let state : ScriptedEmulator := {
      snapshot := s, pc := 0x402000
      steps := [{ fails := false, pc := 0x402008, registers := [("rax", 5)], regions := [] }] }
    (enhance .x86 q {} (moveFromConstant 8) (.active state)).1.operands.map Operand.afterValue =
        [some 5, some 0x1000] ∧
      enhance .x86 p {} (moveFromConstant 8) (.active state) =
        enhance .x86 q {} (moveFromConstant 8) (.active state) := by
  intro s p q state
  have hmap : p.SameMap q := {
    machine := rfl, pc := rfl, symbolAt := rfl, pageAt := rfl
    peek := fun address => by
      simp only [Process.peek, q]
      cases p.read .exact address 1 <;> rfl }
  exact ⟨by decide +kernel, enhance_eq_of_stepped .x86 hmap (by decide +kernel) (by decide +kernel)
    rfl (by decide +kernel) rfl⟩

end Enhancement

end CodeWindow
