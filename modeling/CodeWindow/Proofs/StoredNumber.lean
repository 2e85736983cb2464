import CodeWindow.Proofs.Agreement
import CodeWindow.Proofs.BranchOperand
import CodeWindow.Proofs.Mapping
import CodeWindow.Proofs.WordBits
import Mathlib.Data.List.Induction
import Mathlib.Data.Nat.Digits.Defs

/-! Numbers in memory and what an instruction uses of them. An access is to the number that all of
its bytes make. What is read is never wider than a pointer, so an instruction whose access is wider
uses the first bytes of the number only. -/

namespace CodeWindow

/-! ### Numbers of bytes -/

namespace Machine

theorem toNat_shiftLeft_or (word : UInt64) (byte : UInt8) (h : word.toNat < 256 ^ 7) :
    (word <<< 8 ||| byte.toUInt64).toNat = byte.toNat + 256 * word.toNat := by
  have hbyte : byte.toNat < 2 ^ 8 := byte.toNat_lt
  have hshift : (word <<< 8).toNat = word.toNat <<< 8 := by
    rw [UInt64.toNat_shiftLeft, show UInt64.toNat 8 % 64 = 8 from rfl, Nat.shiftLeft_eq]
    exact Nat.mod_eq_of_lt (by omega)
  rw [UInt64.toNat_or, hshift, UInt8.toNat_toUInt64, ← Nat.shiftLeft_add_eq_or_of_lt hbyte,
    Nat.shiftLeft_eq]
  omega

/-- The number that bytes make, the first of them the least significant. -/
def littleNumber (bytes : List UInt8) : Nat := Nat.ofDigits 256 (bytes.map UInt8.toNat)

theorem digit_lt (bytes : List UInt8) : ∀ digit ∈ bytes.map UInt8.toNat, digit < 256 := by
  simp only [List.mem_map, forall_exists_index, and_imp, forall_apply_eq_imp_iff₂]
  exact fun byte _ => byte.toNat_lt

theorem littleNumber_lt (bytes : List UInt8) : littleNumber bytes < 256 ^ bytes.length := by
  have hlt := Nat.ofDigits_lt_base_pow_length (by decide) (digit_lt bytes)
  rwa [List.length_map] at hlt

theorem littleNumber_take (bytes : List UInt8) (size : Nat) :
    littleNumber (bytes.take size) = littleNumber bytes % 256 ^ size := by
  rw [littleNumber, List.map_take]
  exact (Nat.ofDigits_mod_pow_eq_ofDigits_take size (by decide) _ (digit_lt bytes)).symm

theorem littleNumber_drop (bytes : List UInt8) (size : Nat) :
    littleNumber (bytes.drop size) = littleNumber bytes / 256 ^ size := by
  rw [littleNumber, List.map_drop]
  exact (Nat.ofDigits_div_pow_eq_ofDigits_drop size (by decide) _ (digit_lt bytes)).symm

theorem toNat_packBytes (bytes : List UInt8) (h : bytes.length ≤ 8) :
    (packBytes bytes).toNat = littleNumber bytes.reverse := by
  induction bytes using List.reverseRecOn with
  | nil => rfl
  | append_singleton bytes byte ih =>
    rw [List.length_append, List.length_singleton] at h
    have hword := ih (by omega)
    have hlt : littleNumber bytes.reverse < 256 ^ 7 := by
      refine Nat.lt_of_lt_of_le (littleNumber_lt _) (Nat.pow_le_pow_right (by decide) ?_)
      rw [List.length_reverse]
      omega
    have hpack : packBytes (bytes ++ [byte]) = packBytes bytes <<< 8 ||| byte.toUInt64 := by
      simp only [packBytes, List.foldl_append, List.foldl_cons, List.foldl_nil]
    rw [hpack, toNat_shiftLeft_or _ _ (by rw [hword]; exact hlt), hword, List.reverse_append]
    rfl

variable (machine : Machine)

/-- The number that bytes make in the byte order of a machine. -/
def numberOf (bytes : List UInt8) : Nat :=
  match machine.byteOrder with
  | .little => littleNumber bytes
  | .big => littleNumber bytes.reverse

theorem toNat_unpack {bytes : List UInt8} (h : bytes.length ≤ 8) :
    (machine.unpack bytes).toNat = machine.numberOf bytes := by
  unfold unpack numberOf
  rw [List.take_of_length_le h]
  cases machine.byteOrder with
  | little =>
    simp only
    rw [toNat_packBytes _ (by rwa [List.length_reverse]), List.reverse_reverse]
  | big => exact toNat_packBytes bytes h

theorem numberOf_lt (bytes : List UInt8) : machine.numberOf bytes < 256 ^ bytes.length := by
  unfold numberOf
  split
  · exact littleNumber_lt bytes
  · simpa only [List.length_reverse] using littleNumber_lt bytes.reverse

/-- The first `size` bytes of a longer number make that number. Where the least significant byte
comes first, those behind them are zero; where the most significant one does, all are. -/
def FitsFirst (size number : Nat) : Prop :=
  match machine.byteOrder with
  | .little => number < 256 ^ size
  | .big => number = 0

/-- The number that the first `size` of so many bytes of a number make: its last digits where the
least significant byte comes first, its first digits where the most significant one does. -/
def leading (size length number : Nat) : Nat :=
  match machine.byteOrder with
  | .little => number % 256 ^ size
  | .big => number / 256 ^ (length - size)

theorem numberOf_take (bytes : List UInt8) (size : Nat) :
    machine.numberOf (bytes.take size) =
      machine.leading size bytes.length (machine.numberOf bytes) := by
  unfold numberOf leading
  cases machine.byteOrder with
  | little => exact littleNumber_take bytes size
  | big =>
    simp only
    rw [List.reverse_take, littleNumber_drop]

theorem leading_eq_iff {size length number : Nat} (h : size < length) :
    machine.leading size length number = number ↔ machine.FitsFirst size number := by
  unfold leading FitsFirst
  cases machine.byteOrder with
  | little => exact Nat.mod_eq_iff_lt (Nat.pow_pos (by decide)).ne'
  | big =>
    have hone : (256 : Nat) ^ (length - size) ≠ 1 := by
      rw [Ne, Nat.pow_eq_one]
      omega
    simp only [Nat.div_eq_self, hone, or_false]

theorem numberOf_take_eq_iff {bytes : List UInt8} {size : Nat} (h : size < bytes.length) :
    machine.numberOf (bytes.take size) = machine.numberOf bytes ↔
      machine.FitsFirst size (machine.numberOf bytes) := by
  rw [numberOf_take, leading_eq_iff machine h]

end Machine

/-! ### Numbers in memory -/

namespace Process

/-- A read gives as many bytes as it is asked for, and a shorter one the first of them. -/
structure ReadsRuns (process : Process) : Prop where
  length : ∀ {address : UInt64} {size : Nat} {bytes : List UInt8},
    process.read .exact address size = .ok bytes → bytes.length = size
  take : ∀ {address : UInt64} {size shorter : Nat} {bytes : List UInt8}, shorter ≤ size →
    process.read .exact address size = .ok bytes →
      process.read .exact address shorter = .ok (bytes.take shorter)

/-- The number that `size` bytes in memory make, if they can all be read. -/
def storedNumber? (process : Process) (address : UInt64) (size : Nat) : Option Nat :=
  (process.read .exact address size).toOption.map process.machine.numberOf

variable {process : Process} {address : UInt64} {size : Nat}

theorem toNat_readUInt (h : process.ReadsRuns) (hsize : size ≤ 8) :
    (process.readUInt address size).toOption.map UInt64.toNat =
      process.storedNumber? address size := by
  unfold readUInt storedNumber?
  cases hread : process.read .exact address size with
  | error cause => rfl
  | ok bytes =>
    have hlength := h.length hread
    exact congrArg some (process.machine.toNat_unpack (by omega))

/-- The numbers of the first bytes, where more of them can be read. -/
theorem toNat_readUInt_of_le (h : process.ReadsRuns) {bytes : List UInt8} {shorter : Nat}
    (hsize : size ≤ 8) (hle : shorter ≤ size)
    (hread : process.read .exact address size = .ok bytes) :
    (process.readUInt address shorter).map UInt64.toNat =
      .ok (process.machine.leading shorter size (process.machine.numberOf bytes)) := by
  have hlength := h.length hread
  have hnumber := process.machine.numberOf_take bytes shorter
  rw [hlength] at hnumber
  rw [readUInt, h.take hle hread, ← hnumber]
  refine congrArg Except.ok (process.machine.toNat_unpack ?_)
  rw [List.length_take]
  omega

theorem storedNumber?_lt (h : process.ReadsRuns) {number : Nat}
    (hnumber : process.storedNumber? address size = some number) : number < 256 ^ size := by
  unfold storedNumber? at hnumber
  cases hread : process.read .exact address size with
  | error cause => simp [hread, Except.toOption] at hnumber
  | ok bytes =>
    obtain rfl : process.machine.numberOf bytes = number := by
      simpa [hread, Except.toOption] using hnumber
    rw [← h.length hread]
    exact process.machine.numberOf_lt bytes

theorem toNat_pointer? (h : process.ReadsRuns) (hwidth : process.machine.pointerSize ≤ 8) :
    (process.pointer? address).map UInt64.toNat =
      process.storedNumber? address process.machine.pointerSize := by
  have hnumber : (process.readPointer address).toOption.map UInt64.toNat =
      process.storedNumber? address process.machine.pointerSize := toNat_readUInt h hwidth
  unfold pointer?
  cases hread : process.readPointer address with
  | error cause => rwa [hread] at hnumber
  | ok value =>
    rw [hread] at hnumber
    -- The number has no more bits than the mask leaves.
    have hlt : value.toNat < 2 ^ (8 * process.machine.pointerSize) := by
      rw [Nat.pow_mul]
      exact storedNumber?_lt h hnumber.symm
    have hbits : process.machine.pointerBits = 8 * process.machine.pointerSize := by
      rw [Machine.pointerBits, Nat.mod_eq_of_lt (Nat.lt_of_le_of_lt (Nat.mul_le_mul_right 8 hwidth)
        (by decide)), Nat.mul_comm]
    rw [← hnumber, Option.map_some, Machine.pointerMask, Bits.toNat_and_mask, hbits,
      Nat.min_eq_left (by omega), Nat.mod_eq_of_lt hlt]
    rfl

/-- What an instruction takes from memory is the number of its access, or of a pointer where that is
narrower. -/
theorem toNat_number?_of_min_le (h : process.ReadsRuns) (address : UInt64)
    (hnarrow : min size process.machine.pointerSize ≤ 8) :
    (process.number? address size).map UInt64.toNat =
      process.storedNumber? address (min size process.machine.pointerSize) := by
  unfold number?
  split
  · rw [Nat.min_eq_left (by omega)]
    exact toNat_readUInt h (by omega)
  · rw [Nat.min_eq_right (by omega)]
    exact toNat_pointer? h (by omega)

theorem toNat_number? (h : process.ReadsRuns) (hwidth : process.machine.pointerSize ≤ 8) :
    (process.number? address size).map UInt64.toNat =
      process.storedNumber? address (min size process.machine.pointerSize) :=
  toNat_number?_of_min_le h address (Nat.le_trans (Nat.min_le_right ..) hwidth)

/-- Where a number cannot be read, a longer one cannot be read either. -/
theorem storedNumber?_eq_none_of_le (h : process.ReadsRuns) {longer : Nat} (hle : size ≤ longer)
    (hnone : process.storedNumber? address size = none) :
    process.storedNumber? address longer = none := by
  unfold storedNumber? at *
  cases hread : process.read .exact address longer with
  | error cause => rfl
  | ok bytes =>
    rw [h.take hle hread] at hnone
    contradiction

/-- A narrower number is the whole one in two cases: nothing can be read, or the rest of the bytes
adds nothing. -/
theorem storedNumber?_eq_iff (h : process.ReadsRuns) {shorter : Nat} (hlt : shorter < size) :
    process.storedNumber? address shorter = process.storedNumber? address size ↔
      process.storedNumber? address shorter = none ∨
        ∃ number, process.storedNumber? address size = some number ∧
          process.machine.FitsFirst shorter number := by
  unfold storedNumber?
  cases hread : process.read .exact address size with
  | error cause => simp [Except.toOption]
  | ok bytes =>
    rw [h.take (Nat.le_of_lt hlt) hread]
    have hlength := h.length hread
    simpa [Except.toOption] using process.machine.numberOf_take_eq_iff (by omega)

end Process

namespace Snapshot

variable (snapshot : Snapshot)

theorem take_gather {address : UInt64} {wanted shorter : Nat} (h : shorter ≤ wanted) :
    (snapshot.gather address wanted).take shorter = snapshot.gather address shorter := by
  induction wanted using Nat.strongRecOn generalizing address shorter with
  | ind wanted ih =>
    generalize hbytes : (snapshot.readableFrom address).take wanted = bytes
    have hshort : (snapshot.readableFrom address).take shorter = bytes.take shorter := by
      rw [← hbytes, List.take_take, Nat.min_eq_left h]
    by_cases hempty : bytes = []
    · rw [gather_eq hbytes, gather_eq hshort]
      simp [hempty]
    by_cases hinside : shorter ≤ bytes.length
    · -- All that is wanted lies in the first region.
      have hle : shorter ≤ (snapshot.readableFrom address).length := by
        rw [← hbytes, List.length_take] at hinside
        omega
      rw [gather_eq hbytes, if_neg hempty, List.take_append_of_le_length hinside, gather_of_le hle,
        hshort]
    · have hpos := List.length_pos_iff.mpr hempty
      have hall : bytes.take shorter = bytes := List.take_of_length_le (by omega)
      rw [hall] at hshort
      rw [gather_eq hbytes, gather_eq hshort, if_neg hempty, if_neg hempty, List.take_append, hall,
        ih (wanted - bytes.length) (by omega) (by omega)]

theorem read_exact_eq_ok_iff {address : UInt64} {length : Nat} {bytes : List UInt8} :
    snapshot.read .exact address length = .ok bytes ↔
      bytes = snapshot.gather address length ∧ bytes.length = length := by
  simp only [read, reduceCtorEq, decide_false, Bool.false_and, Bool.false_eq_true, if_false]
  split
  · simp only [Except.ok.injEq]
    constructor
    · rintro rfl
      exact ⟨rfl, ‹_›⟩
    · exact fun h => h.1.symm
  · simp only [reduceCtorEq, false_iff, not_and]
    rintro rfl
    assumption

theorem readsRuns : snapshot.process.ReadsRuns where
  length := by
    intro address size bytes hread
    exact (snapshot.read_exact_eq_ok_iff.mp hread).2
  take := by
    intro address size shorter bytes hle hread
    obtain ⟨rfl, hlength⟩ := snapshot.read_exact_eq_ok_iff.mp hread
    refine snapshot.read_exact_eq_ok_iff.mpr ⟨snapshot.take_gather hle, ?_⟩
    rw [List.length_take, hlength, Nat.min_eq_left hle]

end Snapshot

/-! ### Numbers that are used -/

namespace Context

variable {σ : Type} [Emulator σ] {ctx : Context σ} {insn : Instruction} {place : UInt64}

theorem readMemory_stopped (hoff : ctx.emulator = none) (hstopped : ctx.stoppedAt insn = true)
    (size : Nat) : ctx.readMemory insn place size = ctx.process.number? place size := by
  simp only [readMemory, telescope, hoff, if_pos hstopped, Process.getElem?_chain_one]
  rfl

/-- An operand in memory is used at the width of its access, but for no more than a pointer: an
access that is wider is right only where nothing can be read or the number fits. -/
theorem usedValue_storedNumber (operand : Operand) (place : UInt64) (hoff : ctx.emulator = none)
    (hstopped : ctx.stoppedAt insn = true) (hmemory : operand.isMemory = true)
    (hpos : 0 < operand.size) (hwidth : ctx.machine.pointerSize ≤ 8)
    (hreads : ctx.process.ReadsRuns) :
    let used := (ctx.usedValue insn operand (some place)).map UInt64.toNat
    let stored := ctx.process.storedNumber? place
    used = stored (min operand.size ctx.machine.pointerSize) ∧
      (used = stored operand.size ↔
        operand.size ≤ ctx.machine.pointerSize ∨ stored ctx.machine.pointerSize = none ∨
          ∃ number, stored operand.size = some number ∧
            ctx.machine.FitsFirst ctx.machine.pointerSize number) := by
  intro used stored
  have hused : used = stored (min operand.size ctx.machine.pointerSize) := by
    simp only [used, stored, usedValue_of_memory hmemory, Option.bind_some,
      if_neg (Nat.ne_of_gt hpos), readMemory_stopped hoff hstopped]
    exact Process.toNat_number? hreads hwidth
  refine ⟨hused, ?_⟩
  rw [hused]
  by_cases hnarrow : operand.size ≤ ctx.machine.pointerSize
  · simp [hnarrow]
  · rw [Nat.min_eq_right (by omega), or_iff_right hnarrow]
    exact Process.storedNumber?_eq_iff hreads (by omega)

/-- A number of eight bytes that fits four is used as it is stored. -/
theorem usedValue_small_number :
    let region : Region := {
      start := 0x1000, data := [0x11, 0x22, 0x33, 0x44, 0, 0, 0, 0], readable := true
      writable := true, executable := false, objfile := "" }
    let snapshot : Snapshot := {
      machine := .ofArch .i386
      registers := NameMap.empty.insert "eip" 0x401000
      regions := AddressMap.empty.insert 0x1000 region }
    let operand : Operand := { kind := .memory { disp := 0x1000 }, size := 8 }
    let load : Instruction := {
      arch := .i386, mode := .standard, address := 0x401000, size := 6, mnemonic := "fild"
      operands := [operand] }
    let ctx : Context Empty := { process := snapshot.process, config := {}, emulator := none }
    ctx.stoppedAt load = true ∧ operand.isMemory = true ∧ ctx.machine.pointerSize = 4 ∧
      ctx.process.ReadsRuns ∧ ctx.process.storedNumber? 0x1000 8 = some 0x44332211 ∧
      (ctx.usedValue load operand (some 0x1000)).map UInt64.toNat =
        ctx.process.storedNumber? 0x1000 8 := by
  intro region snapshot operand load ctx
  have hstopped : ctx.stoppedAt load = true := by decide +kernel
  have hreads : ctx.process.ReadsRuns := snapshot.readsRuns
  have hstored : ctx.process.storedNumber? 0x1000 8 = some 0x44332211 := by decide +kernel
  have hfits : ctx.machine.FitsFirst ctx.machine.pointerSize 0x44332211 :=
    show 0x44332211 < 256 ^ 4 by decide
  have hused := usedValue_storedNumber operand 0x1000 rfl hstopped rfl (by decide) (by decide)
    hreads
  exact ⟨hstopped, rfl, rfl, hreads, hstored, hused.2.mpr (.inr (.inr ⟨_, hstored, hfits⟩))⟩

/-- A load of eight bytes uses the first four of them, also where the others cannot be read. -/
theorem usedValue_cuts_wide_access :
    let region (data : List UInt8) : Region := {
      start := 0x1000, data, readable := true, writable := true, executable := false
      objfile := "" }
    let snapshot (data : List UInt8) : Snapshot := {
      machine := .ofArch .i386
      registers := NameMap.empty.insert "eip" 0x401000
      regions := AddressMap.empty.insert 0x1000 (region data) }
    let operand : Operand := { kind := .memory { disp := 0x1000 }, size := 8 }
    let load : Instruction := {
      arch := .i386, mode := .standard, address := 0x401000, size := 6, mnemonic := "fild"
      operands := [operand] }
    let ctx (data : List UInt8) : Context Empty :=
      { process := (snapshot data).process, config := {}, emulator := none }
    let whole := ctx [0x11, 0x22, 0x33, 0x44, 0x55, 0x66, 0x77, 0x88]
    let half := ctx [0x11, 0x22, 0x33, 0x44]
    (whole.stoppedAt load = true ∧ Isa.x86.address whole load operand = some 0x1000 ∧
      whole.process.storedNumber? 0x1000 8 = some 0x8877665544332211 ∧
      whole.usedValue load operand (some 0x1000) = some 0x44332211) ∧
      half.stoppedAt load = true ∧ Isa.x86.address half load operand = some 0x1000 ∧
      half.process.storedNumber? 0x1000 8 = none ∧
      half.usedValue load operand (some 0x1000) = some 0x44332211 := by
  decide +kernel

end Context

end CodeWindow
