import CodeWindow.Proofs.WordBits
import Mathlib.Data.Int.ModEq

/-! Words of a width as numbers. With its sign a word is the one signed number of the width that it
is congruent to. A left shift multiplies by a power of two, and right shifts divide by it and round
down. A rotation carries the bits of a word around, so amounts of rotation add up modulo the
width. -/

namespace CodeWindow

/-! ### Signed numbers of a width -/

/-- The signed integer of a width that a number is congruent to. -/
structure SignedResidue (width : Nat) (number residue : Int) : Prop where
  le : -2 ^ (width - 1) ≤ residue
  lt : residue < 2 ^ (width - 1)
  congruent : residue ≡ number [ZMOD 2 ^ width]

theorem signedResidue_iff {width : Nat} (hpos : 0 < width) {number residue : Int} :
    SignedResidue width number residue ↔ number.bmod (2 ^ width) = residue := by
  obtain ⟨bits, rfl⟩ := Nat.exists_eq_succ_of_ne_zero (Nat.ne_of_gt hpos)
  have hpower : ((2 ^ (bits + 1) : Nat) : Int) = 2 * 2 ^ bits := by
    push_cast
    exact pow_succ' 2 bits
  have hcongruent : residue ≡ number [ZMOD 2 ^ (bits + 1)] ↔
      ((2 ^ (bits + 1) : Nat) : Int) ∣ residue - number := by
    rw [Int.modEq_comm, Int.modEq_iff_dvd, hpower, pow_succ']
  rw [Int.bmod_eq_iff (Nat.two_pow_pos _), ← hcongruent, hpower]
  constructor
  · rintro ⟨hle, hlt, hcongruent⟩
    rw [Nat.succ_sub_one] at hle hlt
    exact ⟨by omega, by omega, hcongruent⟩
  · rintro ⟨hle, hlt, hcongruent⟩
    refine ⟨?_, ?_, hcongruent⟩ <;> rw [Nat.succ_sub_one] <;> omega

namespace Bits

theorem toInt_toSigned (value : UInt64) {width : Nat} (h : width ≤ 64) :
    (toSigned value width).toInt = (value.toNat : Int).bmod (2 ^ width) := by
  rw [← Int64.toInt_toBitVec, toBitVec_toSigned _ h, BitVec.toInt_signExtend_of_le h,
    BitVec.toInt_setWidth, UInt64.toNat_toBitVec]

theorem toInt_toSigned_ofInt (number : Int) {width : Nat} (h : width ≤ 64) :
    (toSigned (UInt64.ofInt number &&& mask width) width).toInt = number.bmod (2 ^ width) := by
  rw [toInt_toSigned _ h, toNat_ofInt_and_mask, Nat.min_eq_left h]
  have := Int.emod_bmod number (2 ^ width)
  push_cast at this
  exact this

variable (value : UInt64) (amount : Nat) {width i : Nat}

/-! ### Shifts -/

theorem toNat_lsl (h : width ≤ 64) :
    (lsl value amount width).toNat = value.toNat * 2 ^ amount % 2 ^ width := by
  rw [← UInt64.toNat_toBitVec, toBitVec_lsl _ _ h, BitVec.toNat_setWidth_of_le h,
    BitVec.toNat_shiftLeft, BitVec.toNat_setWidth, UInt64.toNat_toBitVec, Nat.shiftLeft_eq,
    Nat.mod_mul_mod]

theorem toNat_lsr (h : width ≤ 64) :
    (lsr value amount width).toNat = value.toNat % 2 ^ width / 2 ^ amount := by
  rw [← UInt64.toNat_toBitVec, toBitVec_lsr _ _ h, BitVec.toNat_setWidth_of_le h,
    BitVec.toNat_ushiftRight, BitVec.toNat_setWidth, UInt64.toNat_toBitVec,
    Nat.shiftRight_eq_div_pow]

/-- A bit vector is the residue of the signed number that it stands for. -/
theorem natCast_toNat (bits : BitVec width) : (bits.toNat : Int) = bits.toInt % 2 ^ width := by
  have hlt := bits.isLt
  have hmod : bits.toInt % ((2 ^ width : Nat) : Int) = bits.toNat := by
    rw [BitVec.toInt_eq_toNat_bmod, Int.bmod_emod, ← Int.natCast_mod, Nat.mod_eq_of_lt hlt]
  rw [← hmod]
  push_cast
  rfl

theorem toNat_asr (h : width ≤ 64) :
    ((asr value amount width).toNat : Int) =
      (toSigned value width).toInt.fdiv (2 ^ amount) % 2 ^ width := by
  have hsigned : (value.toBitVec.setWidth width).toInt = (toSigned value width).toInt := by
    rw [toInt_toSigned _ h, BitVec.toInt_setWidth, UInt64.toNat_toBitVec]
  rw [← UInt64.toNat_toBitVec, toBitVec_asr _ _ h, BitVec.toNat_setWidth_of_le h, natCast_toNat,
    BitVec.toInt_sshiftRight, hsigned, Int.shiftRight_eq_div_pow,
    Int.fdiv_eq_ediv_of_nonneg _ (Int.le_of_lt (Int.pow_pos (by decide)))]
  push_cast
  rfl

/-! ### Rotations -/

theorem toNat_ror_lt (h : width ≤ 64) : (ror value amount width).toNat < 2 ^ width := by
  rw [← UInt64.toNat_toBitVec, toBitVec_ror _ _ h, BitVec.toNat_setWidth_of_le h]
  exact BitVec.isLt _

/-- A rotation carries the bits down by its amount, and the lowest ones around to the top. -/
theorem getLsbD_ror (h : width ≤ 64) :
    (ror value amount width).toBitVec.getLsbD i =
      (decide (i < width) && value.toBitVec.getLsbD ((i + amount) % width)) := by
  rw [toBitVec_ror _ _ h, BitVec.getLsbD_setWidth]
  by_cases hi : i < width
  · have hturn : amount % width < width := Nat.mod_lt _ (by omega)
    have hplace : (i + amount) % width =
        if i < width - amount % width then amount % width + i
        else i - (width - amount % width) := by
      rw [← Nat.add_mod_mod]
      split
      · rw [Nat.mod_eq_of_lt (by omega), Nat.add_comm]
      · rw [Nat.mod_eq_sub_mod (by omega), Nat.mod_eq_of_lt (by omega)]
        omega
    -- Bits above the amount come down, and those below it come around.
    rw [BitVec.getLsbD_rotateRight, hplace, decide_eq_true hi, decide_eq_true (by omega)]
    split
    · rename_i hlow
      simp [hlow, show amount % width + i < width by omega]
    · rename_i hhigh
      simp [hhigh, show i - (width - amount % width) < width by omega]
  · rw [BitVec.getLsbD_of_ge _ _ (by omega), decide_eq_false hi, Bool.and_false, Bool.false_and]

theorem ror_ror (h : width ≤ 64) (first second : Nat) :
    ror (ror value first width) second width = ror value ((first + second) % width) width := by
  apply UInt64.toBitVec_inj.mp
  apply BitVec.eq_of_getLsbD_eq
  intro i _
  simp only [getLsbD_ror _ _ h]
  -- Both sides take the bit from the same place of the value.
  by_cases hi : i < width
  · have hplace : ((i + second) % width + first) % width =
        (i + (first + second) % width) % width := by
      rw [Nat.mod_add_mod, Nat.add_mod_mod, Nat.add_assoc, Nat.add_comm second first]
    rw [hplace, decide_eq_true (Nat.mod_lt _ (by omega)), Bool.true_and]
  · rw [decide_eq_false hi, Bool.false_and, Bool.false_and]

theorem toNat_ror_of_dvd (hpos : 0 < width) (h : width ≤ 64) (hturns : width ∣ amount) :
    (ror value amount width).toNat = value.toNat % 2 ^ width := by
  have hsame : ror value amount width = value &&& mask width := by
    unfold ror
    rw [if_neg (by omega)]
    exact if_pos (Nat.mod_eq_zero_of_dvd hturns)
  rw [hsame, toNat_and_mask, Nat.min_eq_left h]

theorem dvd_add_sub_mod (hpos : 0 < width) : width ∣ amount + (width - amount % width) := by
  have hturn := Nat.mod_lt amount hpos
  refine ⟨amount / width + 1, ?_⟩
  have hwhole := Nat.div_add_mod amount width
  rw [Nat.mul_add]
  omega

/-- A function turns the words of a width to the right if it gives words of the width, moves each
bit down by the amount and around the end, adds up amounts modulo the width, changes nothing over a
whole turn, and is undone by the rest of the turn. -/
structure ActsByRotation (width : Nat) (turned : UInt64 → Nat → UInt64) : Prop where
  lt : ∀ value amount, (turned value amount).toNat < 2 ^ width
  testBit : ∀ value amount i, i < width →
    (turned value amount).toNat.testBit i = value.toNat.testBit ((i + amount) % width)
  add : ∀ value first second,
    turned (turned value first) second = turned value ((first + second) % width)
  wholeTurn : ∀ value, (turned value width).toNat = value.toNat % 2 ^ width
  back : ∀ value amount,
    (turned (turned value amount) (width - amount % width)).toNat = value.toNat % 2 ^ width
  forth : ∀ value amount,
    (turned (turned value (width - amount % width)) amount).toNat = value.toNat % 2 ^ width

theorem ror_actsByRotation (hpos : 0 < width) (h : width ≤ 64) :
    ActsByRotation width fun value amount => ror value amount width where
  lt := fun value amount => toNat_ror_lt value amount h
  testBit := by
    intro value amount i hi
    have hbit : (ror value amount width).toBitVec.getLsbD i = _ := getLsbD_ror value amount h
    rw [decide_eq_true hi, Bool.true_and] at hbit
    exact hbit
  add := fun value first second => ror_ror value h first second
  wholeTurn := fun value => toNat_ror_of_dvd value width hpos h (dvd_refl width)
  back := by
    intro value amount
    rw [ror_ror _ h, toNat_ror_of_dvd _ _ hpos h]
    exact (Nat.dvd_mod_iff (dvd_refl width)).mpr (dvd_add_sub_mod amount hpos)
  forth := by
    intro value amount
    rw [ror_ror _ h, Nat.add_comm, toNat_ror_of_dvd _ _ hpos h]
    exact (Nat.dvd_mod_iff (dvd_refl width)).mpr (dvd_add_sub_mod amount hpos)

/-! ### Words of a width -/

/-- Words of a width are read as signed numbers, multiplied and divided by powers of two, and
rotated: whatever else is held in the value, and however great the amount. -/
theorem arithmetic_at_width (hpos : 0 < width) (h : width ≤ 64) :
    (∀ value : UInt64, SignedResidue width value.toNat (toSigned value width).toInt) ∧
      (∀ value amount,
        (lsl value amount width).toNat = value.toNat * 2 ^ amount % 2 ^ width ∧
        (lsr value amount width).toNat = value.toNat % 2 ^ width / 2 ^ amount ∧
        ((asr value amount width).toNat : Int) =
          (toSigned value width).toInt.fdiv (2 ^ amount) % 2 ^ width) ∧
      ActsByRotation width fun value amount => ror value amount width := by
  refine ⟨fun value => ?_, fun value amount => ?_, ror_actsByRotation hpos h⟩
  · exact (signedResidue_iff hpos).mpr (toInt_toSigned value h).symm
  · exact ⟨toNat_lsl value amount h, toNat_lsr value amount h, toNat_asr value amount h⟩

/-- At 63 bits the sign is bit 62; it fills the word when the amount is greater than the width, and
64 places are one place of rotation. -/
theorem arithmetic_at_odd_width :
    (0 < 63 ∧ 63 ≤ 64) ∧
      (toSigned 0xC000000000000001 63).toInt = -0x3FFFFFFFFFFFFFFF ∧
      asr 0xC000000000000001 64 63 = 0x7FFFFFFFFFFFFFFF ∧
      ror 0xC000000000000001 64 63 = 0x6000000000000000 ∧
      SignedResidue 63 0xC000000000000001 (toSigned 0xC000000000000001 63).toInt ∧
      ActsByRotation 63 fun value amount => ror value amount 63 :=
  have hwhole := arithmetic_at_width (show 0 < 63 by decide) (show 63 ≤ 64 by decide)
  ⟨by decide, by decide, by decide, by decide, hwhole.1 0xC000000000000001, hwhole.2.2⟩

end Bits

end CodeWindow
