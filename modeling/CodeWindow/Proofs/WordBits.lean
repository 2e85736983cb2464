import CodeWindow.Operand
import Mathlib.Algebra.Divisibility.Basic
import Mathlib.Algebra.GroupWithZero.Nat
import Mathlib.Algebra.Ring.Int.Defs

/-! Words of a width as bit vectors. What is held in the low bits of a 64-bit word is a bit vector
of that width; masking cuts a word down to it, and shifts, rotations and extensions of words are
those of bit vectors. A word is also an integer modulo `2 ^ 64`. -/

namespace CodeWindow

namespace Bits

variable (value : UInt64) (amount : Nat) {width i : Nat}

/-! ### Masks -/

theorem toBitVec_shiftLeft_ofNat (h : amount < 64) :
    (value <<< UInt64.ofNat amount).toBitVec = value.toBitVec <<< amount := by
  have hamount : (UInt64.ofNat amount).toNat % 64 = amount := by
    rw [UInt64.toNat_ofNat']
    omega
  rw [UInt64.toBitVec_shiftLeft, BitVec.shiftLeft_eq', BitVec.toNat_umod]
  exact congrArg _ hamount

theorem toBitVec_shiftRight_ofNat (h : amount < 64) :
    (value >>> UInt64.ofNat amount).toBitVec = value.toBitVec >>> amount := by
  have hamount : (UInt64.ofNat amount).toNat % 64 = amount := by
    rw [UInt64.toNat_ofNat']
    omega
  rw [UInt64.toBitVec_shiftRight, BitVec.ushiftRight_eq', BitVec.toNat_umod]
  exact congrArg _ hamount

theorem toBitVec_one_shiftLeft (h : amount < 64) :
    ((1 : UInt64) <<< UInt64.ofNat amount).toBitVec = BitVec.twoPow 64 amount := by
  rw [toBitVec_shiftLeft_ofNat _ _ h, BitVec.twoPow_eq]
  rfl

/-- A bit of a word is set exactly if the word has it in common with the word of that bit alone. -/
theorem and_shiftLeft_ne_zero_iff (h : amount < 64) :
    value &&& 1 <<< UInt64.ofNat amount ≠ 0 ↔ value.toBitVec.getLsbD amount = true := by
  rw [ne_eq, ← UInt64.toBitVec_inj, UInt64.toBitVec_and, toBitVec_one_shiftLeft _ h,
    BitVec.and_twoPow]
  cases value.toBitVec.getLsbD amount with
  | false => simp
  | true =>
    have hne : BitVec.twoPow 64 amount ≠ 0#64 := by
      intro hzero
      have hbit := congrArg (BitVec.getLsbD · amount) hzero
      simp [h] at hbit
    simpa using hne

theorem toNat_mask (width : Nat) : (mask width).toNat = 2 ^ min width 64 - 1 := by
  unfold mask
  split
  · rename_i hwide
    rw [Nat.min_eq_right hwide]
    rfl
  · rename_i hnarrow
    have hbit : ((1 : UInt64) <<< UInt64.ofNat width).toNat = 2 ^ width := by
      rw [← UInt64.toNat_toBitVec, toBitVec_one_shiftLeft _ (by omega),
        BitVec.toNat_twoPow_of_lt (by omega)]
    have hle : (1 : UInt64) ≤ 1 <<< UInt64.ofNat width := by
      rw [UInt64.le_iff_toNat_le, hbit]
      exact Nat.one_le_two_pow
    rw [UInt64.toNat_sub_of_le _ _ hle, hbit, Nat.min_eq_left (by omega)]
    rfl

theorem toNat_and_mask (width : Nat) :
    (value &&& mask width).toNat = value.toNat % 2 ^ min width 64 := by
  rw [UInt64.toNat_and, toNat_mask, Nat.and_two_pow_sub_one_eq_mod]

theorem two_dvd_toNat_and_mask {width : Nat} (h : 2 ∣ value.toNat) :
    2 ∣ (value &&& mask width).toNat := by
  rw [toNat_and_mask]
  cases min width 64 with
  | zero =>
    rw [pow_zero, Nat.mod_one]
    exact Nat.dvd_zero 2
  | succ bits => exact (Nat.dvd_mod_iff (dvd_pow_self 2 (Nat.succ_ne_zero bits))).mpr h

theorem getLsbD_mask (hi : i < 64) : (mask width).toBitVec.getLsbD i = decide (i < width) := by
  rw [BitVec.getLsbD, UInt64.toNat_toBitVec, toNat_mask, Nat.testBit_two_pow_sub_one]
  exact decide_eq_decide.mpr (by omega)

/-- A masked word is a bit vector of the width. -/
theorem toBitVec_and_mask (width : Nat) :
    (value &&& mask width).toBitVec = (value.toBitVec.setWidth width).setWidth 64 := by
  apply BitVec.eq_of_getLsbD_eq
  intro i hi
  rw [UInt64.toBitVec_and, BitVec.getLsbD_and, getLsbD_mask hi]
  simp [hi, Bool.and_comm]

/-- Of two masks, the narrower one counts. -/
theorem and_mask_and_mask (first second : Nat) :
    value &&& mask first &&& mask second = value &&& mask (min first second) := by
  apply UInt64.toBitVec_inj.mp
  apply BitVec.eq_of_getLsbD_eq
  intro i hi
  simp only [UInt64.toBitVec_and, BitVec.getLsbD_and, getLsbD_mask hi, Bool.and_assoc,
    ← Bool.decide_and, Nat.lt_min]

/-- Without its two low bits a word is a multiple of four. -/
theorem toNat_and_not_three :
    (value &&& ~~~3).toNat = value.toNat / 4 * 4 := by
  have hmask : ∀ i < 64, (~~~3 : UInt64).toBitVec.getLsbD i = decide (2 ≤ i) := by decide
  have hbits : (value &&& ~~~3).toBitVec = value.toBitVec >>> 2 <<< 2 := by
    apply BitVec.eq_of_getLsbD_eq
    intro i hi
    rw [UInt64.toBitVec_and, BitVec.getLsbD_and, hmask i hi, BitVec.getLsbD_shiftLeft,
      BitVec.getLsbD_ushiftRight]
    by_cases hlow : 2 ≤ i
    · simp [hlow, hi, Nat.not_lt.mpr hlow]
    · simp [hlow, Nat.lt_of_not_le hlow]
  have hlt := value.toNat_lt
  rw [← UInt64.toNat_toBitVec, hbits, BitVec.toNat_shiftLeft, BitVec.toNat_ushiftRight,
    UInt64.toNat_toBitVec, Nat.shiftRight_eq_div_pow, Nat.shiftLeft_eq]
  omega

/-! ### Signs -/

/-- Bits above the width repeat the sign. -/
theorem getLsbD_signExtend_setWidth (bits : BitVec 64) (hwidth : 0 < width) (hi : i < 64) :
    ((bits.setWidth width).signExtend 64).getLsbD i = bits.getLsbD (min i (width - 1)) := by
  rw [BitVec.getLsbD_signExtend, BitVec.msb_setWidth]
  by_cases h : i < width
  · simp [h, hi, Nat.min_eq_left (show i ≤ width - 1 by omega)]
  · simp [h, hi, hwidth, Nat.min_eq_right (show width - 1 ≤ i by omega)]

/-- Bits shifted in from above repeat the sign. -/
theorem getLsbD_sshiftRight_min (bits : BitVec width) (hi : i < width) :
    (bits.sshiftRight amount).getLsbD i = bits.getLsbD (min (amount + i) (width - 1)) := by
  rw [BitVec.getLsbD_sshiftRight, BitVec.msb_eq_getLsbD_last]
  by_cases h : amount + i < width
  · simp [h, hi, Nat.min_eq_left (show amount + i ≤ width - 1 by omega)]
  · simp [h, hi, Nat.min_eq_right (show width - 1 ≤ amount + i by omega)]

/-- The sign of a word of a width is its last bit. -/
theorem and_signBit_ne_zero_iff (hpos : 0 < width) (h : width ≤ 64) :
    (value &&& mask width) &&& 1 <<< UInt64.ofNat (width - 1) ≠ 0 ↔
      value.toBitVec.getLsbD (width - 1) = true := by
  rw [and_shiftLeft_ne_zero_iff _ _ (by omega), UInt64.toBitVec_and, BitVec.getLsbD_and,
    getLsbD_mask (by omega), decide_eq_true (by omega), Bool.and_true]

/-- Reading in two's complement is sign extension. -/
theorem toBitVec_toSigned (h : width ≤ 64) :
    (toSigned value width).toBitVec = (value.toBitVec.setWidth width).signExtend 64 := by
  unfold toSigned
  split
  · rename_i hzero
    subst hzero
    rw [Subsingleton.elim (value.toBitVec.setWidth 0) 0]
    rfl
  rename_i hpos
  split
  · rename_i hwide
    obtain rfl : width = 64 := by omega
    rw [BitVec.setWidth_eq, BitVec.signExtend_eq]
    rfl
  apply BitVec.eq_of_getLsbD_eq
  intro i hi
  rw [getLsbD_signExtend_setWidth _ (by omega) hi]
  dsimp only
  split
  · rename_i hset
    rw [and_signBit_ne_zero_iff value (by omega) h] at hset
    rw [UInt64.toBitVec_toInt64, UInt64.toBitVec_or, UInt64.toBitVec_not, UInt64.toBitVec_and,
      BitVec.getLsbD_or, BitVec.getLsbD_not, BitVec.getLsbD_and, getLsbD_mask hi]
    by_cases hlow : i < width
    · simp [hlow, Nat.min_eq_left (show i ≤ width - 1 by omega)]
    · simp [hlow, hi, Nat.min_eq_right (show width - 1 ≤ i by omega), hset]
  · rename_i hclear
    rw [and_signBit_ne_zero_iff value (by omega) h, Bool.not_eq_true] at hclear
    rw [UInt64.toBitVec_toInt64, UInt64.toBitVec_and, BitVec.getLsbD_and, getLsbD_mask hi]
    by_cases hlow : i < width
    · simp [hlow, Nat.min_eq_left (show i ≤ width - 1 by omega)]
    · simp [hlow, Nat.min_eq_right (show width - 1 ≤ i by omega), hclear]

/-! ### Shifts -/

theorem toBitVec_shiftLeft : (shiftLeft value amount).toBitVec = value.toBitVec <<< amount := by
  unfold shiftLeft
  split
  · exact toBitVec_shiftLeft_ofNat value amount ‹_›
  · rw [BitVec.shiftLeft_eq_zero (by omega)]
    rfl

theorem toBitVec_shiftRight : (shiftRight value amount).toBitVec = value.toBitVec >>> amount := by
  unfold shiftRight
  split
  · exact toBitVec_shiftRight_ofNat value amount ‹_›
  · rw [BitVec.ushiftRight_eq_zero (by omega)]
    rfl

theorem setWidth_ushiftRight (bits : BitVec width) (h : width ≤ 64) :
    bits.setWidth 64 >>> amount = (bits >>> amount).setWidth 64 := by
  apply BitVec.eq_of_toNat_eq
  have hlt : ∀ bits : BitVec width, bits.toNat < 2 ^ 64 := fun bits =>
    Nat.lt_of_lt_of_le bits.isLt (Nat.pow_le_pow_right (by omega) h)
  rw [BitVec.toNat_ushiftRight, BitVec.toNat_setWidth, BitVec.toNat_setWidth,
    Nat.mod_eq_of_lt (hlt _), Nat.mod_eq_of_lt (hlt _), BitVec.toNat_ushiftRight]

theorem toBitVec_lsl (h : width ≤ 64) :
    (lsl value amount width).toBitVec = (value.toBitVec.setWidth width <<< amount).setWidth 64 := by
  rw [lsl, toBitVec_and_mask, toBitVec_shiftLeft, BitVec.setWidth_shiftLeft_of_le h]

theorem toBitVec_lsr (h : width ≤ 64) :
    (lsr value amount width).toBitVec = (value.toBitVec.setWidth width >>> amount).setWidth 64 := by
  rw [lsr, toBitVec_shiftRight, toBitVec_and_mask, setWidth_ushiftRight _ _ h]

theorem toBitVec_asr (h : width ≤ 64) :
    (asr value amount width).toBitVec =
      ((value.toBitVec.setWidth width).sshiftRight amount).setWidth 64 := by
  have hamount : ((Int64.ofNat (min amount 63)).toBitVec.smod 64).toNat = min amount 63 := by
    have hsmall : ∀ n < 64, ((BitVec.ofNat 64 n).smod 64).toNat = n := by decide
    rw [Int64.toBitVec_ofNat', hsmall _ (by omega)]
  rw [asr, toBitVec_and_mask, Int64.toBitVec_toUInt64, Int64.toBitVec_shiftRight,
    BitVec.sshiftRight_eq', hamount, toBitVec_toSigned _ h]
  congr 1
  apply BitVec.eq_of_getLsbD_eq
  intro i hi
  rw [BitVec.getLsbD_setWidth, getLsbD_sshiftRight_min _ _ (by omega),
    getLsbD_signExtend_setWidth _ (by omega) (by omega), getLsbD_sshiftRight_min _ _ hi,
    BitVec.getLsbD_setWidth, decide_eq_true hi, decide_eq_true (by omega), Bool.true_and,
    Bool.true_and]
  congr 1
  omega

theorem toBitVec_ror (h : width ≤ 64) :
    (ror value amount width).toBitVec =
      ((value.toBitVec.setWidth width).rotateRight amount).setWidth 64 := by
  unfold ror
  split
  · rename_i hzero
    subst hzero
    rw [Subsingleton.elim ((value.toBitVec.setWidth 0).rotateRight amount) 0]
    rfl
  rename_i hpos
  have hlt : amount % width < width := Nat.mod_lt _ (by omega)
  dsimp only
  split
  · rename_i hturn
    rw [toBitVec_and_mask, BitVec.rotateRight_def, hturn, BitVec.ushiftRight_zero, Nat.sub_zero,
      BitVec.shiftLeft_eq_zero (Nat.le_refl width), BitVec.or_zero]
  · rename_i hturn
    rw [toBitVec_and_mask, UInt64.toBitVec_or, toBitVec_shiftRight_ofNat _ _ (by omega),
      toBitVec_shiftLeft_ofNat _ _ (by omega), toBitVec_and_mask, setWidth_ushiftRight _ _ h,
      BitVec.setWidth_or, BitVec.setWidth_shiftLeft_of_le h, BitVec.rotateRight_def,
      BitVec.setWidth_setWidth_of_le _ h, BitVec.setWidth_setWidth_of_le _ h, BitVec.setWidth_eq,
      BitVec.setWidth_eq]

/-! ### Integers -/

@[simp] theorem ofInt_toNat : UInt64.ofInt value.toNat = value := by
  apply UInt64.toNat_inj.mp
  have hlt := value.toNat_lt
  rw [UInt64.ofInt, UInt64.toNat_ofNat']
  omega

theorem toNat_ofInt (number : Int) : ((UInt64.ofInt number).toNat : Int) = number % 2 ^ 64 := by
  rw [UInt64.ofInt, UInt64.toNat_ofNat']
  omega

/-- A masked integer is reduced to the width. -/
theorem toNat_ofInt_and_mask (number : Int) (width : Nat) :
    ((UInt64.ofInt number &&& mask width).toNat : Int) = number % 2 ^ min width 64 := by
  rw [toNat_and_mask, Int.natCast_mod, toNat_ofInt]
  push_cast
  exact Int.emod_emod_of_dvd _ (pow_dvd_pow 2 (Nat.min_le_right width 64))

@[simp] theorem ofInt_toInt (number : Int64) : UInt64.ofInt number.toInt = number.toUInt64 := by
  apply UInt64.toNat_inj.mp
  have hword := toNat_ofInt number.toInt
  have hsigned : number.toInt = number.toBitVec.toInt := rfl
  have hunsigned : number.toUInt64.toNat = number.toBitVec.toNat := rfl
  have hlt := number.toBitVec.isLt
  rw [BitVec.toInt_eq_toNat_cond] at hsigned
  split at hsigned <;> omega

end Bits

/-! ### Operators of operands -/

/-- A shifted bit vector. -/
def Shift.onBits (shift : Shift) {width : Nat} (bits : BitVec width) : BitVec width :=
  match shift.kind with
  | .lsl => bits <<< shift.amount
  | .lsr => bits >>> shift.amount
  | .asr => bits.sshiftRight shift.amount
  | .ror => bits.rotateRight shift.amount

theorem Shift.toBitVec_apply (shift : Shift) (value : UInt64) {width : Nat} (h : width ≤ 64) :
    (shift.apply value width).toBitVec =
      (shift.onBits (value.toBitVec.setWidth width)).setWidth 64 := by
  rcases shift with ⟨kind, amount⟩
  cases kind with
  | lsl => exact Bits.toBitVec_lsl value amount h
  | lsr => exact Bits.toBitVec_lsr value amount h
  | asr => exact Bits.toBitVec_asr value amount h
  | ror => exact Bits.toBitVec_ror value amount h

namespace Extend

/-- The number of low bits that an extension takes. -/
def length : Extend → Nat
  | uxtb | sxtb => 8
  | uxth | sxth => 16
  | uxtw | sxtw => 32
  | uxtx | sxtx => 64

/-- An extension repeats the sign. -/
def isSigned : Extend → Bool
  | sxtb | sxth | sxtw | sxtx => true
  | uxtb | uxth | uxtw | uxtx => false

/-- A bit vector extended to a width. -/
def onBits (extend : Extend) {length : Nat} (bits : BitVec length) (width : Nat) : BitVec width :=
  if extend.isSigned then bits.signExtend width else bits.setWidth width

theorem toBitVec_apply (extend : Extend) (value : UInt64) :
    (extend.apply value).toBitVec =
      extend.onBits (value.toBitVec.setWidth extend.length) 64 := by
  cases extend with
  | uxtb => exact Bits.toBitVec_and_mask value 8
  | uxth => exact Bits.toBitVec_and_mask value 16
  | uxtw => exact Bits.toBitVec_and_mask value 32
  | uxtx => simp [apply, onBits, isSigned, length]
  | sxtb => exact Bits.toBitVec_toSigned value (by decide)
  | sxth => exact Bits.toBitVec_toSigned value (by decide)
  | sxtw => exact Bits.toBitVec_toSigned value (by decide)
  | sxtx => simp [apply, onBits, isSigned, length]

end Extend

end CodeWindow
