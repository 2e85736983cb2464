import CodeWindow.Proofs.OperandValues
import CodeWindow.Proofs.WordBits

/-! Addresses of memory operands. An address is a sum of registers and numbers of the instruction:
taken over the integers, whatever the signs and sizes of its terms, and reduced to the width of an
address at the end. Sums and products of words give the same, since a word is an integer modulo
`2 ^ 64` and the widths of addresses are no greater. -/

namespace CodeWindow

namespace Operand

/-- The bits of an index as its operand extends them. -/
def extendedBits (operand : Operand) (bits : BitVec 64) : BitVec 64 :=
  match operand.extend with
  | some extend => extend.onBits (bits.setWidth extend.length) 64
  | none => bits

/-- The number of an index as its operand shifts it at a width. -/
def shiftedNumber (operand : Operand) (width : Nat) (bits : BitVec 64) : Nat :=
  match operand.shift with
  | some shift => (shift.onBits (bits.setWidth width)).toNat
  | none => bits.toNat

theorem toNat_apply_shift (operand : Operand) (value : UInt64) {width : Nat} (h : width ≤ 64) :
    (match operand.shift with
      | some shift => shift.apply value width
      | none => value).toNat = operand.shiftedNumber width value.toBitVec := by
  unfold shiftedNumber
  cases operand.shift with
  | none => rfl
  | some shift =>
    simp only
    rw [← UInt64.toNat_toBitVec, shift.toBitVec_apply value h, BitVec.toNat_setWidth_of_le h]

end Operand

variable {σ : Type} [Emulator σ]

namespace Isa

variable (isa : Isa) (ctx : Context σ) (insn : Instruction) (operand : Operand)
  (reference : MemoryReference)

/-- A register is known, if one is named. -/
def Knows (name : Option String) : Prop :=
  ∀ register, name = some register → (isa.readRegister ctx insn register).isSome

/-- All that the address of a memory operand needs is there: outside x86 a base is named, on x86 no
segment is, and the registers that count are known. -/
def Locates : Prop :=
  match isa with
  | x86 => reference.segment = none ∧ isa.Knows ctx insn reference.base ∧
      isa.Knows ctx insn reference.index
  | aarch64 | arm => reference.base ≠ none ∧ isa.Knows ctx insn reference.base ∧
      isa.Knows ctx insn reference.index
  | mips => reference.base ≠ none ∧ isa.Knows ctx insn reference.base
  | generic => False

/-- The number that is counted for a register, which is zero where none is named. -/
def counted (name : Option String) (count : UInt64 → Int) : Int :=
  ((name.bind (isa.readRegister ctx insn)).map count).getD 0

@[simp] theorem knows_none : isa.Knows ctx insn none := by
  simp [Knows]

@[simp] theorem knows_some (register : String) :
    isa.Knows ctx insn (some register) ↔ (isa.readRegister ctx insn register).isSome := by
  simp [Knows]

@[simp] theorem counted_none (count : UInt64 → Int) : isa.counted ctx insn none count = 0 := rfl

@[simp] theorem counted_some (register : String) (count : UInt64 → Int) :
    isa.counted ctx insn (some register) count =
      ((isa.readRegister ctx insn register).map count).getD 0 := rfl

/-- The address of a memory operand over the integers. A program counter that is the base of Thumb
code is aligned to words. -/
def exactAddress : Int :=
  let base : Int := isa.counted ctx insn reference.base fun value => value.toNat
  let index (count : UInt64 → Int) : Int := isa.counted ctx insn reference.index count
  match isa with
  | x86 => base + reference.disp.toInt + index fun value => value.toNat * reference.scale.toInt
  | aarch64 =>
    base + reference.disp.toInt +
      index fun value => operand.shiftedNumber 64 (operand.extendedBits value.toBitVec)
  | arm =>
    let shifted : Int := index fun value => operand.shiftedNumber 32 value.toBitVec
    (if reference.base = some "pc" ∧ insn.mode.isThumb then base / 4 * 4 else base) +
      reference.disp.toInt +
      if operand.subtracted ∨ reference.scale.toInt < 0 then -shifted else shifted
  | mips => base + reference.disp.toInt
  | generic => 0

/-- The width of addresses in bits. -/
def addressBits (machine : Machine) : Nat :=
  min machine.pointerBits (if isa = arm then 32 else 64)

end Isa

/-! ### Terms -/

theorem Isa.Aarch64.indexValue_eq (operand : Operand) (value : UInt64) :
    indexValue operand value =
      UInt64.ofInt (operand.shiftedNumber 64 (operand.extendedBits value.toBitVec)) := by
  have hextended : (match operand.extend with
      | some extend => extend.apply value
      | none => value).toBitVec = operand.extendedBits value.toBitVec := by
    unfold Operand.extendedBits
    cases operand.extend with
    | none => rfl
    | some extend => exact extend.toBitVec_apply value
  have hnumber : (indexValue operand value).toNat =
      operand.shiftedNumber 64 (operand.extendedBits value.toBitVec) := by
    rw [← hextended]
    exact operand.toNat_apply_shift _ (Nat.le_refl 64)
  rw [← hnumber, Bits.ofInt_toNat]

theorem Isa.Arm.shifted_eq (operand : Operand) (value : UInt64) :
    shifted operand value = UInt64.ofInt (operand.shiftedNumber 32 value.toBitVec) := by
  have hnumber : (shifted operand value).toNat = operand.shiftedNumber 32 value.toBitVec :=
    operand.toNat_apply_shift value (by omega)
  rw [← hnumber, Bits.ofInt_toNat]

theorem Isa.Arm.baseValue_eq (ctx : Context σ) (insn : Instruction) (name : String) :
    baseValue ctx insn name = (readRegister ctx insn name).map fun value =>
      UInt64.ofInt (if name = "pc" ∧ insn.mode.isThumb then (value.toNat : Int) / 4 * 4
        else value.toNat) := by
  unfold baseValue
  congr 1
  funext value
  by_cases hpc : name = "pc" ∧ insn.mode.isThumb
  · have haligned : ((value &&& ~~~3).toNat : Int) = (value.toNat : Int) / 4 * 4 := by
      rw [Bits.toNat_and_not_three]
      omega
    rw [if_pos hpc, if_pos (by simpa using hpc), ← haligned, Bits.ofInt_toNat]
  · rw [if_neg hpc, if_neg (by simpa using hpc), Bits.ofInt_toNat]

/-- Subtraction is addition of the negated index. -/
theorem Isa.Arm.indexed_eq (operand : Operand) (scale : Int64) (base index : UInt64) :
    (if operand.subtracted ∨ scale < 0 then base - shifted operand index
      else base + shifted operand index) =
      base + UInt64.ofInt (
        if operand.subtracted ∨ scale.toInt < 0 then
          -(operand.shiftedNumber 32 index.toBitVec : Int)
        else operand.shiftedNumber 32 index.toBitVec) := by
  have hsign : scale < 0 ↔ scale.toInt < 0 := Int64.lt_iff_toInt_lt
  rw [shifted_eq]
  by_cases h : operand.subtracted ∨ scale < 0
  · rw [if_pos h, if_pos (by rwa [← hsign]), UInt64.ofInt_neg, UInt64.sub_eq_add_neg]
  · rw [if_neg h, if_neg (by rwa [← hsign])]

/-! ### Sums -/

namespace Isa

variable (ctx : Context σ) (insn : Instruction) (operand : Operand) (reference : MemoryReference)
  (value : UInt64)

theorem x86_address_eq_some_iff :
    X86.address ctx insn reference = some value ↔
      x86.Locates ctx insn reference ∧
        UInt64.ofInt (x86.exactAddress ctx insn operand reference) = value := by
  rcases reference with ⟨_ | segment, base, index, scale, disp⟩
  · rcases base with _ | base <;> rcases index with _ | index
    · simp [Locates, exactAddress, X86.address]
    · cases hindex : X86.readRegister ctx insn index <;>
        simp [Locates, exactAddress, X86.address, readRegister, hindex, UInt64.ofInt_add,
          UInt64.ofInt_mul]
    · cases hbase : X86.readRegister ctx insn base <;>
        simp [Locates, exactAddress, X86.address, readRegister, hbase, UInt64.ofInt_add]
    · cases hbase : X86.readRegister ctx insn base <;>
      cases hindex : X86.readRegister ctx insn index <;>
        simp [Locates, exactAddress, X86.address, readRegister, hbase, hindex, UInt64.ofInt_add,
          UInt64.ofInt_mul]
  · simp [Locates, X86.address]

theorem aarch64_address_eq_some_iff :
    Aarch64.address ctx insn operand reference = some value ↔
      aarch64.Locates ctx insn reference ∧
        UInt64.ofInt (aarch64.exactAddress ctx insn operand reference) = value := by
  rcases reference with ⟨segment, _ | base, _ | index, scale, disp⟩
  · simp [Locates, Aarch64.address]
  · simp [Locates, Aarch64.address]
  · cases hbase : Aarch64.readRegister ctx insn base <;>
      simp [Locates, exactAddress, Aarch64.address, readRegister, hbase, UInt64.ofInt_add]
  · cases hbase : Aarch64.readRegister ctx insn base <;>
    cases hindex : Aarch64.readRegister ctx insn index <;>
      simp [Locates, exactAddress, Aarch64.address, readRegister, hbase, hindex, UInt64.ofInt_add,
        Aarch64.indexValue_eq]

theorem arm_address_eq_some_iff :
    Arm.address ctx insn operand reference = some value ↔
      arm.Locates ctx insn reference ∧
        UInt64.ofInt (arm.exactAddress ctx insn operand reference) &&& Bits.mask 32 = value := by
  rcases reference with ⟨segment, _ | base, _ | index, scale, disp⟩
  · simp [Locates, Arm.address]
  · simp [Locates, Arm.address]
  · cases hbase : Arm.readRegister ctx insn base <;>
      simp [Locates, exactAddress, Arm.address, readRegister, hbase, Arm.baseValue_eq,
        UInt64.ofInt_add]
  · cases hbase : Arm.readRegister ctx insn base <;>
    cases hindex : Arm.readRegister ctx insn index <;>
      simp [Locates, exactAddress, Arm.address, readRegister, hbase, hindex, Arm.baseValue_eq,
        Arm.indexed_eq, UInt64.ofInt_add]
    -- The program adds the displacement behind the index.
    rw [UInt64.add_assoc, UInt64.add_comm _ disp.toUInt64, ← UInt64.add_assoc]

theorem mips_address_eq_some_iff :
    Mips.address ctx insn reference = some value ↔
      mips.Locates ctx insn reference ∧
        UInt64.ofInt (mips.exactAddress ctx insn operand reference) = value := by
  rcases reference with ⟨segment, _ | base, index, scale, disp⟩
  · simp [Locates, Mips.address]
  · cases hbase : Mips.readRegister ctx insn base <;>
      simp [Locates, exactAddress, Mips.address, readRegister, hbase, UInt64.ofInt_add]

variable (isa : Isa) {operand reference}

theorem addressBits_le (machine : Machine) : isa.addressBits machine ≤ 64 := by
  unfold addressBits
  split <;> omega

theorem address_eq_some_iff (hmemory : operand.memory? = some reference) :
    isa.address ctx insn operand = some value ↔
      isa.Locates ctx insn reference ∧
        UInt64.ofInt (isa.exactAddress ctx insn operand reference) &&&
          Bits.mask (if isa = arm then 32 else 64) = value := by
  have hwhole : ∀ word : UInt64, word &&& Bits.mask 64 = word := fun _ => UInt64.and_neg_one
  rw [address, hmemory, Option.bind_some]
  cases isa with
  | x86 => simp only [x86_address_eq_some_iff ctx insn operand, reduceCtorEq, if_false, hwhole]
  | aarch64 => simp only [aarch64_address_eq_some_iff, reduceCtorEq, if_false, hwhole]
  | arm => simp only [arm_address_eq_some_iff, if_true]
  | mips => simp only [mips_address_eq_some_iff ctx insn operand, reduceCtorEq, if_false, hwhole]
  | generic => simp only [Locates, reduceCtorEq, false_and]

theorem operandValue_of_memory (hmemory : operand.memory? = some reference) :
    isa.operandValue ctx insn operand = isa.address ctx insn operand := by
  have hkind : operand.kind = .memory reference := by
    unfold Operand.memory? at hmemory
    split at hmemory
    · rename_i hkind
      rw [hkind, Option.some.inj hmemory]
    · contradiction
  rw [operandValue, hkind]

/-- The address of an operand, cut to the width of addresses, is found from its exact sum. -/
theorem maskedValue_eq_some_iff (hmemory : operand.memory? = some reference) :
    Enhancement.maskedValue isa ctx insn operand = some value ↔
      isa.Locates ctx insn reference ∧
        UInt64.ofInt (isa.exactAddress ctx insn operand reference) &&&
          Bits.mask (isa.addressBits ctx.machine) = value := by
  rw [Enhancement.maskedValue, operandValue_of_memory ctx insn isa hmemory,
    Option.map_eq_some_iff, addressBits, Nat.min_comm, ← Bits.and_mask_and_mask]
  simp only [address_eq_some_iff ctx insn _ isa hmemory, and_assoc, exists_and_left,
    exists_eq_left', Machine.pointerMask]

end Isa

namespace Enhancement

/-- What an operand that names memory shows: an address where all that it needs is known, congruent
to the exact one modulo the width of addresses. -/
structure ShowsAddress (isa : Isa) (ctx : Context σ) (insn : Instruction) (operand : Operand)
    (reference : MemoryReference) (shown : Operand) : Prop where
  isSome_iff : shown.beforeValue.isSome ↔ isa.Locates ctx insn reference
  toNat_eq : ∀ address, shown.beforeValue = some address →
    (address.toNat : Int) =
      isa.exactAddress ctx insn operand reference % 2 ^ isa.addressBits ctx.machine

theorem operandAround_showsAddress (isa : Isa) (before after : Context σ) (insn : Instruction)
    {operand : Operand} {reference : MemoryReference}
    (hmemory : operand.memory? = some reference) :
    ShowsAddress isa before insn operand reference
      (operandAround isa before after insn operand) := by
  have hbefore : (operandAround isa before after insn operand).beforeValue =
      maskedValue isa before insn operand := by
    unfold operandAround
    split <;> rfl
  constructor
  case isSome_iff =>
    rw [hbefore, Option.isSome_iff_exists]
    simp only [Isa.maskedValue_eq_some_iff before insn _ isa hmemory, exists_and_left,
      exists_eq', and_true]
  case toNat_eq =>
    intro address haddress
    rw [hbefore, Isa.maskedValue_eq_some_iff before insn _ isa hmemory] at haddress
    obtain ⟨-, rfl⟩ := haddress
    rw [Bits.toNat_ofInt_and_mask, Nat.min_eq_left (isa.addressBits_le before.machine)]

/-- Every operand of an enhanced instruction that names memory shows its address. -/
theorem enhance_showsAddress (isa : Isa) (process : Process) (config : Config) (insn : Instruction)
    (emulation : Emulation σ) :
    List.Forall₂
      (fun operand shown => ∀ reference, operand.memory? = some reference →
        ShowsAddress isa (contextFor process config insn (emulation.readyFor insn)) insn operand
          reference shown)
      insn.operands (enhance isa process config insn emulation).1.operands := by
  have hoperands := describe_operands isa process config insn (emulation.readyFor insn)
    (emulation.readyFor insn).step
  simp only [enhance]
  rw [hoperands, List.forall₂_map_right_iff, List.forall₂_same]
  intro operand _ reference hmemory
  exact operandAround_showsAddress isa _ _ insn hmemory

/-- The literal of Thumb code at `0x10002` is found from the aligned program counter `0x10004`. -/
example :
    let snapshot : Snapshot := {
      machine := .ofArch .arm
      registers := (NameMap.empty.insert "pc" 0x10002).insert "cpsr" 0x20 }
    let load : Instruction := {
      arch := .arm, mode := .thumb, address := 0x10002, size := 2, mnemonic := "ldr"
      operands := [{ kind := .register "r0" },
        { kind := .memory { base := some "pc", disp := -4 } }] }
    (enhance .arm snapshot.process {} load (Emulation.off : Emulation Empty)).1.operands.map
      Operand.beforeValue = [none, some 0x10000] := by
  decide +kernel

end Enhancement

end CodeWindow
