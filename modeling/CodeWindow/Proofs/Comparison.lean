import CodeWindow.Emulator.Scripted
import CodeWindow.Isa
import CodeWindow.Proofs.WordBits
import Mathlib.Data.BitVec

/-! Conditions behind a comparison. A processor compares two numbers by subtracting one from the
other, and the flags of the subtraction say which of the two is less, as unsigned and as signed
numbers. The x86 family sets the carry flag when the subtraction borrows, ARM when it does not. -/

namespace CodeWindow.Isa

/-! ### Comparisons -/

/-- The ways in which numbers of a width compare. -/
inductive Comparison where
  | equal
  | notEqual
  | below
  | aboveEqual
  | belowEqual
  | above
  | less
  | greaterEqual
  | lessEqual
  | greater
  deriving DecidableEq

namespace Comparison

/-- The outcome of a comparison: the first six take the numbers as unsigned, the others as
signed. -/
def outcome {width : Nat} (a b : BitVec width) : Comparison → Bool
  | equal => a = b
  | notEqual => a ≠ b
  | below => a.toNat < b.toNat
  | aboveEqual => b.toNat ≤ a.toNat
  | belowEqual => a.toNat ≤ b.toNat
  | above => b.toNat < a.toNat
  | less => a.toInt < b.toInt
  | greaterEqual => b.toInt ≤ a.toInt
  | lessEqual => a.toInt ≤ b.toInt
  | greater => b.toInt < a.toInt

/-- The outcome of a comparison, given whether two numbers are equal, whether the first is below
the second, and whether it is less than the second. -/
def verdict (same lower smaller : Bool) : Comparison → Bool
  | equal => same
  | notEqual => !same
  | below => lower
  | aboveEqual => !lower
  | belowEqual => lower || same
  | above => !(lower || same)
  | less => smaller
  | greaterEqual => !smaller
  | lessEqual => smaller || same
  | greater => !(smaller || same)

/-- The endings of x86 mnemonics that stand for a comparison. -/
def x86Endings : Comparison → List String
  | equal => ["e", "z"]
  | notEqual => ["ne", "nz"]
  | below => ["b", "c", "nae"]
  | aboveEqual => ["ae", "nb", "nc"]
  | belowEqual => ["be", "na"]
  | above => ["a", "nbe"]
  | less => ["l", "nge"]
  | greaterEqual => ["ge", "nl"]
  | lessEqual => ["le", "ng"]
  | greater => ["g", "nle"]

/-- The endings of ARM mnemonics that stand for a comparison. -/
def armEndings : Comparison → List String
  | equal => ["eq"]
  | notEqual => ["ne"]
  | below => ["lo", "cc"]
  | aboveEqual => ["hs", "cs"]
  | belowEqual => ["ls"]
  | above => ["hi"]
  | less => ["lt"]
  | greaterEqual => ["ge"]
  | lessEqual => ["le"]
  | greater => ["gt"]

/-- The x86 condition code of a comparison. -/
def x86Code : Comparison → X86.ConditionCode
  | equal => .equal
  | notEqual => .notEqual
  | below => .below
  | aboveEqual => .aboveEqual
  | belowEqual => .belowEqual
  | above => .above
  | less => .less
  | greaterEqual => .greaterEqual
  | lessEqual => .lessEqual
  | greater => .greater

/-- The ARM condition code of a comparison. -/
def armCode : Comparison → Arm.ConditionCode
  | equal => .equal
  | notEqual => .notEqual
  | below => .carryClear
  | aboveEqual => .carrySet
  | belowEqual => .lowerSame
  | above => .higher
  | less => .less
  | greaterEqual => .greaterEqual
  | lessEqual => .lessEqual
  | greater => .greater

variable (comparison : Comparison)

/-- Any two numbers are equal, below one another or above, and less than one another or greater. -/
theorem outcome_eq_verdict {width : Nat} (a b : BitVec width) :
    comparison.outcome a b =
      comparison.verdict (equal.outcome a b) (below.outcome a b) (less.outcome a b) := by
  rcases eq_or_ne a b with rfl | hne
  · cases comparison <;> simp [outcome, verdict]
  · have hnat : a.toNat ≠ b.toNat := fun h => hne (BitVec.eq_of_toNat_eq h)
    have hint : a.toInt ≠ b.toInt := fun h => hne (BitVec.toInt_inj.mp h)
    rw [Bool.eq_iff_iff]
    cases comparison <;> simp [outcome, verdict, hne] <;> omega

theorem ofSuffix?_eq_some_x86Code (ending : String) :
    X86.ConditionCode.ofSuffix? ending = some comparison.x86Code ↔
      ending ∈ comparison.x86Endings := by
  constructor
  · intro h
    unfold X86.ConditionCode.ofSuffix? at h
    split at h <;> cases comparison <;> first | exact absurd h (by decide) | decide +kernel
  · revert ending
    cases comparison <;> decide +kernel

theorem ofSuffix?_eq_some_armCode (ending : String) :
    Arm.ConditionCode.ofSuffix? ending = some comparison.armCode ↔
      ending ∈ comparison.armEndings := by
  constructor
  · intro h
    unfold Arm.ConditionCode.ofSuffix? at h
    split at h <;> cases comparison <;> first | exact absurd h (by decide) | decide +kernel
  · revert ending
    cases comparison <;> decide +kernel

theorem conditionSuffix?_x86Endings :
    ∀ ending ∈ comparison.x86Endings, ∀ start ∈ ["j", "cmov"],
      X86.conditionSuffix? (start ++ ending) = some ending := by
  cases comparison <;> decide +kernel

theorem afterStart?_armEndings :
    ∀ ending ∈ comparison.armEndings, Text.afterStart? "b." ("b." ++ ending) = some ending := by
  cases comparison <;> decide +kernel

theorem branchCode?_armEndings :
    ∀ ending ∈ comparison.armEndings, ∀ branch ∈ Arm.conditionalBranches,
      Arm.branchCode? (branch ++ ending) = some comparison.armCode := by
  cases comparison <;> decide +kernel

theorem holds_x86Code (flags : UInt64) :
    comparison.x86Code.holds flags =
      comparison.verdict (X86.ConditionCode.zeroFlag flags) (X86.ConditionCode.carryFlag flags)
        (X86.ConditionCode.signFlag flags != X86.ConditionCode.overflowFlag flags) := by
  cases comparison <;> simp only [x86Code, verdict, X86.ConditionCode.holds]
  all_goals
    cases X86.ConditionCode.zeroFlag flags <;> cases X86.ConditionCode.signFlag flags <;>
      cases X86.ConditionCode.overflowFlag flags <;> rfl

theorem holds_armCode (flags : UInt64) :
    comparison.armCode.holds flags =
      comparison.verdict (Arm.ConditionCode.zero flags) (!Arm.ConditionCode.carry flags)
        (Arm.ConditionCode.negative flags != Arm.ConditionCode.overflowed flags) := by
  cases comparison <;> simp only [armCode, verdict, Arm.ConditionCode.holds]
  all_goals
    cases Arm.ConditionCode.zero flags <;> cases Arm.ConditionCode.carry flags <;>
      cases Arm.ConditionCode.negative flags <;> cases Arm.ConditionCode.overflowed flags <;> rfl

end Comparison

/-! ### Subtractions -/

section

variable {width : Nat} {flags : UInt64} {a b : BitVec width}

/-- The difference of two signed numbers is beyond their width. -/
def overflows (a b : BitVec width) : Bool := (a - b).toInt ≠ a.toInt - b.toInt

/-- The flags of the x86 family after `b` is subtracted from `a`; the other bits are arbitrary. -/
structure X86.Subtracted (flags : UInt64) (a b : BitVec width) : Prop where
  /-- The subtraction borrows. -/
  carry : flags.toBitVec.getLsbD 0 = decide (a.toNat < b.toNat)
  zero : flags.toBitVec.getLsbD 6 = decide (a - b = 0)
  sign : flags.toBitVec.getLsbD 7 = (a - b).msb
  overflow : flags.toBitVec.getLsbD 11 = overflows a b

/-- The flags of ARM after `b` is subtracted from `a`; the other bits are arbitrary. -/
structure Arm.Subtracted (flags : UInt64) (a b : BitVec width) : Prop where
  negative : flags.toBitVec.getLsbD 31 = (a - b).msb
  zero : flags.toBitVec.getLsbD 30 = decide (a - b = 0)
  /-- The subtraction does not borrow. -/
  carry : flags.toBitVec.getLsbD 29 = decide (b.toNat ≤ a.toNat)
  overflow : flags.toBitVec.getLsbD 28 = overflows a b

theorem equal_of_sub (a b : BitVec width) :
    decide (a - b = 0) = Comparison.equal.outcome a b :=
  decide_eq_decide.mpr sub_eq_zero

/-- The sign of the difference is right unless the difference is beyond the width, and wrong if it
is. -/
theorem less_of_sub (a b : BitVec width) :
    ((a - b).msb != overflows a b) = Comparison.less.outcome a b := by
  have ha := a.le_two_mul_toInt
  have ha' := a.two_mul_toInt_lt
  have hb := b.le_two_mul_toInt
  have hb' := b.two_mul_toInt_lt
  have hcast : ((2 ^ width : Nat) : Int) = 2 ^ width := by push_cast; rfl
  have hsub := BitVec.toInt_sub (x := a) (y := b)
  suffices h : ¬ ((a - b).toInt < 0 ↔ (a - b).toInt ≠ a.toInt - b.toInt) ↔ a.toInt < b.toInt by
    rw [BitVec.msb_eq_toInt, overflows, Comparison.outcome, Bool.eq_iff_iff, bne_iff_ne, ne_eq,
      decide_eq_decide, decide_eq_true_iff]
    exact h
  -- The difference is below the numbers of the width, one of them, or above them.
  rcases lt_or_ge (2 * (a.toInt - b.toInt)) (-2 ^ width) with hlow | hlow
  · have hwrapped : (a - b).toInt = a.toInt - b.toInt + 2 ^ width := by
      rw [hsub, ← Int.add_bmod_right, Int.bmod_eq_of_le_mul_two] <;> omega
    omega
  rcases lt_or_ge (2 * (a.toInt - b.toInt)) (2 ^ width) with hhigh | hhigh
  · have hexact : (a - b).toInt = a.toInt - b.toInt := by
      rw [hsub, Int.bmod_eq_of_le_mul_two] <;> omega
    omega
  · have hwrapped : (a - b).toInt = a.toInt - b.toInt - 2 ^ width := by
      rw [hsub, ← Int.sub_bmod_right, Int.bmod_eq_of_le_mul_two] <;> omega
    omega

/-! ### Flags -/

theorem X86.ConditionCode.flag_eq (flags : UInt64) {bit : Nat} (h : bit < 64) :
    flag flags bit = flags.toBitVec.getLsbD bit := by
  rw [flag, Bool.eq_iff_iff, decide_eq_true_iff]
  exact Bits.and_shiftLeft_ne_zero_iff flags bit h

theorem Arm.ConditionCode.flag_eq (flags : UInt64) {bit : Nat} (h : bit < 64) :
    flag flags bit = flags.toBitVec.getLsbD bit := by
  have hbit : (flags >>> UInt64.ofNat bit &&& 1).toNat = flags.toNat / 2 ^ bit % 2 := by
    rw [UInt64.toNat_and, ← UInt64.toNat_toBitVec (flags >>> UInt64.ofNat bit),
      Bits.toBitVec_shiftRight_ofNat _ _ h, BitVec.toNat_ushiftRight, Nat.shiftRight_eq_div_pow]
    exact Nat.and_one_is_mod _
  rw [BitVec.getLsbD, Nat.testBit_eq_decide_div_mod_eq, UInt64.toNat_toBitVec, ← hbit, flag,
    Bool.eq_iff_iff, beq_iff_eq, decide_eq_true_iff, ← UInt64.toNat_inj]
  rfl

/-- After a subtraction, the x86 condition code of a comparison is true exactly if the comparison
is. -/
theorem X86.Subtracted.holds_x86Code (h : X86.Subtracted flags a b) (comparison : Comparison) :
    comparison.x86Code.holds flags = comparison.outcome a b := by
  have hcarry : X86.ConditionCode.carryFlag flags = Comparison.below.outcome a b :=
    (X86.ConditionCode.flag_eq flags (by decide)).trans h.carry
  have hzero : X86.ConditionCode.zeroFlag flags = Comparison.equal.outcome a b :=
    (X86.ConditionCode.flag_eq flags (by decide)).trans (h.zero.trans (equal_of_sub a b))
  have hsign : X86.ConditionCode.signFlag flags = (a - b).msb :=
    (X86.ConditionCode.flag_eq flags (by decide)).trans h.sign
  have hoverflow : X86.ConditionCode.overflowFlag flags = overflows a b :=
    (X86.ConditionCode.flag_eq flags (by decide)).trans h.overflow
  rw [comparison.holds_x86Code, hcarry, hzero, hsign, hoverflow, less_of_sub,
    ← comparison.outcome_eq_verdict]

/-- After a subtraction, the ARM condition code of a comparison is true exactly if the comparison
is. -/
theorem Arm.Subtracted.holds_armCode (h : Arm.Subtracted flags a b) (comparison : Comparison) :
    comparison.armCode.holds flags = comparison.outcome a b := by
  have hcarry : (!Arm.ConditionCode.carry flags) = Comparison.below.outcome a b := by
    rw [Arm.ConditionCode.carry, Arm.ConditionCode.flag_eq flags (by decide), h.carry,
      ← decide_not]
    exact decide_eq_decide.mpr Nat.not_le
  have hzero : Arm.ConditionCode.zero flags = Comparison.equal.outcome a b :=
    (Arm.ConditionCode.flag_eq flags (by decide)).trans (h.zero.trans (equal_of_sub a b))
  have hnegative : Arm.ConditionCode.negative flags = (a - b).msb :=
    (Arm.ConditionCode.flag_eq flags (by decide)).trans h.negative
  have hoverflow : Arm.ConditionCode.overflowed flags = overflows a b :=
    (Arm.ConditionCode.flag_eq flags (by decide)).trans h.overflow
  rw [comparison.holds_armCode, hcarry, hzero, hnegative, hoverflow, less_of_sub,
    ← comparison.outcome_eq_verdict]

/-- Behind a subtraction of two numbers of any width, the endings of a comparison, under all their
names, say what the comparison of the numbers says. -/
theorem condition_codes_decide_comparison (a b : BitVec width) (flags : UInt64)
    (comparison : Comparison) :
    (X86.Subtracted flags a b →
      ∀ ending ∈ comparison.x86Endings,
        (X86.ConditionCode.ofSuffix? ending).map (·.holds flags) =
          some (comparison.outcome a b)) ∧
    (Arm.Subtracted flags a b →
      ∀ ending ∈ comparison.armEndings,
        (Arm.ConditionCode.ofSuffix? ending).map (·.holds flags) =
          some (comparison.outcome a b)) := by
  constructor
  · intro hsub ending hending
    rw [(comparison.ofSuffix?_eq_some_x86Code ending).mpr hending]
    exact congrArg some (hsub.holds_x86Code comparison)
  · intro hsub ending hending
    rw [(comparison.ofSuffix?_eq_some_armCode ending).mpr hending]
    exact congrArg some (hsub.holds_armCode comparison)

/-- The least byte is less than one and above one; their difference is positive. -/
theorem condition_codes_of_least_byte :
    X86.Subtracted 0xa02 0x80#8 1#8 ∧ Arm.Subtracted 0x30000010 0x80#8 1#8 ∧
      (X86.ConditionCode.ofSuffix? "nge").map (·.holds 0xa02) = some true ∧
      (Arm.ConditionCode.ofSuffix? "lt").map (·.holds 0x30000010) = some true ∧
      (X86.ConditionCode.ofSuffix? "nbe").map (·.holds 0xa02) = some true ∧
      (Arm.ConditionCode.ofSuffix? "hi").map (·.holds 0x30000010) = some true := by
  have hx86 : X86.Subtracted 0xa02 0x80#8 1#8 := ⟨rfl, rfl, rfl, rfl⟩
  have harm : Arm.Subtracted 0x30000010 0x80#8 1#8 := ⟨rfl, rfl, rfl, rfl⟩
  have hless := condition_codes_decide_comparison 0x80#8 1#8
  exact ⟨hx86, harm, (hless 0xa02 .less).1 hx86 "nge" (by decide),
    (hless 0x30000010 .less).2 harm "lt" (by decide),
    (hless 0xa02 .above).1 hx86 "nbe" (by decide),
    (hless 0x30000010 .above).2 harm "hi" (by decide)⟩

end

/-! ### Instructions behind a comparison -/

section

variable {σ : Type} [Emulator σ] {ctx : Context σ} {insn : Instruction} {comparison : Comparison}
  {ending : String} {width : Nat} {flags : UInt64} {a b : BitVec width}

/-- A conditional jump or move takes effect exactly if the comparison of its ending holds. -/
theorem X86.condition_of_subtracted (hflags : X86.flags? ctx insn = some flags)
    (hsub : X86.Subtracted flags a b) (hending : ending ∈ comparison.x86Endings) {start : String}
    (hstart : start ∈ ["j", "cmov"]) (hmnemonic : insn.mnemonic = start ++ ending) :
    X86.condition ctx insn = .ofBool (comparison.outcome a b) := by
  have hsuffix := comparison.conditionSuffix?_x86Endings ending hending start hstart
  have hcode := (comparison.ofSuffix?_eq_some_x86Code ending).mpr hending
  simp only [X86.condition, hmnemonic, hsuffix, hflags, hcode]
  exact congrArg Condition.ofBool (hsub.holds_x86Code comparison)

/-- A conditional branch of AArch64 is taken exactly if the comparison of its ending holds. -/
theorem Aarch64.condition_of_subtracted
    (hflags : Aarch64.readRegister ctx insn Aarch64.flagsRegister = some flags)
    (hsub : Arm.Subtracted flags a b) (hending : ending ∈ comparison.armEndings)
    (hmnemonic : insn.mnemonic = "b." ++ ending) :
    Aarch64.condition ctx insn = .ofBool (comparison.outcome a b) := by
  have hsuffix := comparison.afterStart?_armEndings ending hending
  have hcode := (comparison.ofSuffix?_eq_some_armCode ending).mpr hending
  simp only [Aarch64.condition, hmnemonic, hsuffix, Aarch64.flagsOutcome, hflags, hcode]
  exact congrArg Condition.ofBool (hsub.holds_armCode comparison)

/-- A conditional branch of 32-bit ARM is taken exactly if the comparison of its ending holds. -/
theorem Arm.condition_of_subtracted
    (hflags : Arm.readRegister ctx insn (Arm.flagsRegister ctx) = some flags)
    (hsub : Arm.Subtracted flags a b) (hending : ending ∈ comparison.armEndings) {branch : String}
    (hbranch : branch ∈ Arm.conditionalBranches) (hmnemonic : insn.baseMnemonic = branch ++ ending)
    (hjump : insn.isJumpLike) :
    Arm.condition ctx insn = .ofBool (comparison.outcome a b) := by
  have hcode : Arm.branchCode? insn.baseMnemonic = some comparison.armCode := by
    rw [hmnemonic]
    exact comparison.branchCode?_armEndings ending hending branch hbranch
  -- The mnemonics that compare a register with zero end in no condition code.
  have hnone : ∀ mnemonic ∈ ["cbz", "cbnz"], Arm.branchCode? mnemonic = none := by decide +kernel
  have hzero : insn.baseMnemonic ≠ "cbz" := by
    intro heq
    rw [heq, hnone "cbz" (by decide)] at hcode
    cases hcode
  have hnonzero : insn.baseMnemonic ≠ "cbnz" := by
    intro heq
    rw [heq, hnone "cbnz" (by decide)] at hcode
    cases hcode
  simp only [Arm.condition, hjump, Arm.flagsOutcome, hcode, hflags]
  exact congrArg Condition.ofBool (hsub.holds_armCode comparison)

end

end CodeWindow.Isa
