import CodeWindow.Decoder
import CodeWindow.Emulator.Scripted
import CodeWindow.Proofs.OperandAddress

/-! The program counter that ARM code reads. It is two instructions ahead, and an instruction is
taken to be as long as those of the encoding that the bytes were decoded in: four bytes ahead in
Thumb code, eight in ARM code. Instructions keep the mode of their decoder and not its encoding, so
whether they read the right counter depends on whether the mode tells Thumb code as the decoder's
key does. -/

namespace CodeWindow

/-- The encodings of Thumb code. -/
def Encoding.isThumb : Encoding → Bool
  | .arm thumb _ _ => thumb
  | _ => false

namespace Isa.Arm

variable {σ : Type} [Emulator σ]

section

variable (encoding : Encoding) (ctx : Context σ) (insn : Instruction)

/-- The program counter that code of an encoding reads at an address. -/
def counter (address : UInt64) : Nat :=
  (address.toNat + if encoding.isThumb then 4 else 8) % 2 ^ 32

/-- The program counter as the base of a memory operand; Thumb code aligns it to words. -/
def baseCounter (address : UInt64) : Nat :=
  if encoding.isThumb then counter encoding address / 4 * 4 else counter encoding address

/-- The value of a register that code of an encoding reads. -/
def register? (name : String) : Option UInt64 :=
  if name = "pc" then some (UInt64.ofNat (counter encoding insn.address))
  else ctx.readRegister insn name

/-- What a memory operand adds to its base, over the integers. -/
def offset? (operand : Operand) (reference : MemoryReference) : Option Int :=
  match reference.index with
  | none => some reference.disp.toInt
  | some name =>
    (register? encoding ctx insn name).map fun value =>
      let index : Int := operand.shiftedNumber 32 value.toBitVec
      (if operand.subtracted ∨ reference.scale.toInt < 0 then -index else index) +
        reference.disp.toInt

/-- The operands of an instruction show the program counter that code of an encoding reads. -/
structure ReadsCounter : Prop where
  register : ∀ operand : Operand, operand.kind = .register "pc" →
    (arm.operandValue ctx insn operand).map UInt64.toNat =
      some (operand.shiftedNumber 32 (BitVec.ofNat 64 (counter encoding insn.address)))
  memory : ∀ (operand : Operand) (reference : MemoryReference),
    operand.kind = .memory reference → reference.base = some "pc" →
      (arm.operandValue ctx insn operand).map (fun value => (value.toNat : Int)) =
        (offset? encoding ctx insn operand reference).map fun offset =>
          ((baseCounter encoding insn.address : Int) + offset) % 2 ^ 32

end

variable {encoding : Encoding} {ctx : Context σ} {insn : Instruction}

theorem toNat_readAhead (insn : Instruction) :
    (readAhead insn).toNat =
      (insn.address.toNat + if insn.mode.isThumb then 4 else 8) % 2 ^ 32 := by
  have hahead : (if insn.mode.isThumb then 4 else 8 : UInt64).toNat =
      if insn.mode.isThumb then 4 else 8 := by
    split <;> rfl
  rw [readAhead, Bits.toNat_and_mask, UInt64.toNat_add, hahead]
  exact Nat.mod_mod_of_dvd _ (by decide)

theorem toNat_readAhead_eq_counter_iff :
    (readAhead insn).toNat = counter encoding insn.address ↔
      insn.mode.isThumb = encoding.isThumb := by
  rw [toNat_readAhead, counter]
  cases insn.mode.isThumb <;> cases encoding.isThumb <;> simp <;> omega

theorem readRegister_eq (hagree : insn.mode.isThumb = encoding.isThumb) (name : String) :
    readRegister ctx insn name = register? encoding ctx insn name := by
  unfold readRegister register?
  by_cases hpc : name = "pc"
  · rw [if_pos hpc, if_pos (beq_iff_eq.mpr hpc), ← toNat_readAhead_eq_counter_iff.mpr hagree,
      UInt64.ofNat_toNat]
  · rw [if_neg hpc, if_neg (by simpa using hpc)]

theorem baseValue_pc (hagree : insn.mode.isThumb = encoding.isThumb) :
    baseValue ctx insn "pc" = some (UInt64.ofInt (baseCounter encoding insn.address)) := by
  have hcounter := toNat_readAhead_eq_counter_iff.mpr hagree
  rw [baseValue_eq, baseCounter, ← hagree, ← hcounter]
  cases insn.mode.isThumb <;> rfl

theorem address_pc (hagree : insn.mode.isThumb = encoding.isThumb) (operand : Operand)
    {reference : MemoryReference} (hbase : reference.base = some "pc") :
    address ctx insn operand reference =
      (offset? encoding ctx insn operand reference).map fun offset =>
        UInt64.ofInt (baseCounter encoding insn.address + offset) &&& Bits.mask 32 := by
  have hread : ∀ name, readRegister ctx insn name = register? encoding ctx insn name :=
    readRegister_eq hagree
  unfold address offset?
  rw [hbase]
  cases hindex : reference.index with
  | none => simp [baseValue_pc hagree, UInt64.ofInt_add]
  | some name =>
    cases hvalue : register? encoding ctx insn name with
    | none => simp [hread, hvalue]
    | some value =>
      simp [baseValue_pc hagree, hread, hvalue, indexed_eq, UInt64.ofInt_add, UInt64.add_assoc]

theorem operandValue_of_register (operand : Operand) {name : String}
    (hkind : operand.kind = .register name) :
    arm.operandValue ctx insn operand = (readRegister ctx insn name).map (shifted operand) := by
  rw [operandValue, hkind]
  show arm.registerValue ctx insn operand = _
  rw [Isa.registerValue, Operand.register?, hkind]
  rfl

/-- The right program counter is read exactly by instructions whose mode tells Thumb code as their
encoding does. -/
theorem readsCounter_iff :
    ReadsCounter encoding ctx insn ↔ insn.mode.isThumb = encoding.isThumb := by
  constructor
  · intro h
    have hvalue := h.register { kind := .register "pc" } rfl
    rw [operandValue_of_register _ rfl] at hvalue
    have hcounter : (readAhead insn).toNat = counter encoding insn.address % 2 ^ 64 :=
      Option.some.inj hvalue
    rw [← toNat_readAhead_eq_counter_iff, hcounter]
    exact Nat.mod_eq_of_lt (Nat.lt_trans (Nat.mod_lt _ (by decide)) (by decide))
  · intro hagree
    constructor
    case register =>
      intro operand hkind
      have hcounter := toNat_readAhead_eq_counter_iff.mpr hagree
      rw [operandValue_of_register _ hkind, ← hcounter]
      have hbits : BitVec.ofNat 64 (readAhead insn).toNat = (readAhead insn).toBitVec :=
        BitVec.ofNat_toNat ..
      rw [hbits]
      exact congrArg some (operand.toNat_apply_shift (readAhead insn) (by decide))
    case memory =>
      intro operand reference hkind hbase
      have hmemory : operand.memory? = some reference := by rw [Operand.memory?, hkind]
      rw [operandValue_of_memory ctx insn arm hmemory, Isa.address, hmemory, Option.bind_some]
      show (address ctx insn operand reference).map _ = _
      rw [address_pc hagree operand hbase, Option.map_map]
      congr 1
      funext offset
      exact Bits.toNat_ofInt_and_mask _ _

end Isa.Arm

/-! ### Decoding -/

theorem DecoderKey.isThumb_encoding (key : DecoderKey) (harm : key.arch.isArm) :
    key.encoding.isThumb = (key.mode.isThumb || key.mode.isMClass) := by
  unfold encoding
  split <;> simp_all [Architecture.isArm, Encoding.isThumb]

/-- The decoder for the mode in which a machine runs. -/
def Decoder.ofState (machine : Machine) (register : String → Option UInt64) : Decoder :=
  .ofKey (.ofMachine machine (.select machine register))

/-- Modes tell Thumb code as keys do, except that of an M class without the T bit: it decodes Thumb
code and is no mode of Thumb code. -/
theorem DecoderMode.isThumb_select_iff (machine : Machine) (harm : machine.arch.isArm)
    (register : String → Option UInt64) :
    (select machine register).isThumb = (Decoder.ofState machine register).encoding.isThumb ↔
      (machine.arch = .armCortexM → bitSet register "xpsr" 24) := by
  have hencoding : (Decoder.ofState machine register).encoding.isThumb =
      ((select machine register).isThumb || (select machine register).isMClass) :=
    (DecoderKey.ofMachine machine (select machine register)).isThumb_encoding harm
  rw [hencoding, select]
  cases harch : machine.arch <;> simp only [harch, Architecture.isArm, Bool.false_eq_true] at harm
  case arm => cases bitSet register "cpsr" 5 <;> simp [isThumb, isMClass]
  case armCortexM => cases bitSet register "xpsr" 24 <;> simp [isThumb, isMClass]

theorem Decoder.mode_of_decode {decoder : Decoder} {disassembler : Disassembler}
    {code : List UInt8} {address : UInt64} {insn : Instruction}
    (h : decoder.decode disassembler code address = .ok insn) : insn.mode = decoder.key.mode := by
  unfold decode at h
  split at h
  · rw [← Except.ok.inj h]
    rfl
  · contradiction

variable {σ : Type} [Emulator σ]

/-- Instructions read the program counter of the encoding they were decoded in, except those of an
M class without the T bit. -/
theorem Decoder.readsCounter_iff_of_decode (machine : Machine) (harm : machine.arch.isArm)
    (register : String → Option UInt64) (disassembler : Disassembler) (code : List UInt8)
    (address : UInt64) (insn : Instruction)
    (hdecode : (ofState machine register).decode disassembler code address = .ok insn)
    (ctx : Context σ) :
    Isa.Arm.ReadsCounter (ofState machine register).encoding ctx insn ↔
      (machine.arch = .armCortexM → DecoderMode.bitSet register "xpsr" 24) := by
  rw [Isa.Arm.readsCounter_iff, mode_of_decode hdecode]
  exact DecoderMode.isThumb_select_iff machine harm register

/-- The M class with its T bit set loads the literal that lies four bytes behind the aligned
program counter. -/
theorem Decoder.readsCounter_of_literal_load :
    let snapshot : Snapshot := {
      machine := .ofArch .armCortexM
      registers := (NameMap.empty.insert "pc" 0x10002).insert "xpsr" 0x1000000 }
    let listing : Listing := {
      size := 2, mnemonic := "ldr", operandText := "r0, [pc, #4]", groups := []
      operands := [{ kind := .register (some "r0") },
        { kind := .memory { base := some "pc", scale := 1, disp := 4 } }] }
    let decoder := ofState snapshot.machine snapshot.process.register
    let load : Instruction := listing.instruction .armCortexM .mClassThumb [1, 0x48] 0x10002
    let ctx : Context Empty := { process := snapshot.process, config := {}, emulator := none }
    decoder.decode (fun _ _ _ => some listing) [1, 0x48] 0x10002 = .ok load ∧
      load.operands.map (Isa.arm.operandValue ctx load) = [none, some 0x10008] ∧
      Isa.Arm.ReadsCounter decoder.encoding ctx load := by
  intro snapshot listing decoder load ctx
  have hdecode : decoder.decode (fun _ _ _ => some listing) [1, 0x48] 0x10002 = .ok load := rfl
  exact ⟨hdecode, by decide +kernel,
    (readsCounter_iff_of_decode snapshot.machine rfl snapshot.process.register _ _ _ load hdecode
      ctx).mpr (by decide)⟩

/-- Where the status register is not known, the same bytes are decoded as the same load, whose
literal is then looked for six bytes further on. -/
theorem Decoder.literal_load_misreads_counter :
    let snapshot : Snapshot := {
      machine := .ofArch .armCortexM, registers := NameMap.empty.insert "pc" 0x10002 }
    let listing : Listing := {
      size := 2, mnemonic := "ldr", operandText := "r0, [pc, #4]", groups := []
      operands := [{ kind := .register (some "r0") },
        { kind := .memory { base := some "pc", scale := 1, disp := 4 } }] }
    let decoder := ofState snapshot.machine snapshot.process.register
    let load : Instruction := listing.instruction .armCortexM .mClass [1, 0x48] 0x10002
    let ctx : Context Empty := { process := snapshot.process, config := {}, emulator := none }
    decoder.decode (fun _ _ _ => some listing) [1, 0x48] 0x10002 = .ok load ∧
      decoder.encoding.isThumb ∧
      load.operands.map (Isa.arm.operandValue ctx load) = [none, some 0x1000E] ∧
      ¬ Isa.Arm.ReadsCounter decoder.encoding ctx load := by
  intro snapshot listing decoder load ctx
  have hmode : load.mode.isThumb ≠ decoder.encoding.isThumb := by decide
  exact ⟨rfl, by decide, by decide +kernel, fun h => hmode (Isa.Arm.readsCounter_iff.mp h)⟩

end CodeWindow
