import CodeWindow.Text.Numeral
import Mathlib.Algebra.GroupWithZero.Nat
import Mathlib.Tactic.SplitIfs

/-! Numerals and the numbers they stand for. A bounded reader gives the number that the digits make
by themselves, and refuses it where it reaches the bound; the digits of a number make that number
again. -/

namespace CodeWindow.Text

/-! ### Digits -/

/-- The hexadecimal digits, of either case. -/
def IsHexDigit (c : Char) : Prop :=
  ('0' ≤ c ∧ c ≤ '9') ∨ ('a' ≤ c ∧ c ≤ 'f') ∨ ('A' ≤ c ∧ c ≤ 'F')

instance (c : Char) : Decidable (IsHexDigit c) := inferInstanceAs (Decidable (_ ∨ _))

theorem le_iff_toNat {a b : Char} : a ≤ b ↔ a.toNat ≤ b.toNat := by
  rw [Char.le_def, UInt32.le_iff_toNat_le, Char.toNat_val, Char.toNat_val]

theorem IsHexDigit.lt {c : Char} (h : IsHexDigit c) : c.toNat < 0x80 := by
  simp only [IsHexDigit, le_iff_toNat] at h
  have hbounds : '9'.toNat = 57 ∧ 'f'.toNat = 102 ∧ 'F'.toNat = 70 := by decide
  omega

theorem isSome_digit?_iff {c : Char} : (digit? 16 c).isSome = true ↔ IsHexDigit c := by
  simp only [digit?, IsHexDigit, le_iff_toNat, Bool.and_eq_true, decide_eq_true_eq]
  have hbounds : '0'.toNat = 48 ∧ '9'.toNat = 57 ∧ 'a'.toNat = 97 ∧ 'f'.toNat = 102 ∧
      'z'.toNat = 122 ∧ 'A'.toNat = 65 ∧ 'F'.toNat = 70 ∧ 'Z'.toNat = 90 := by decide
  split_ifs <;> simp only [Option.isSome_some, Option.isSome_none, Bool.false_eq_true, true_iff,
    false_iff] <;> omega

/-- The digits by their code points: those below ten, and the small and the capital letters. -/
theorem digit?_eq_some_iff {base d : Nat} {c : Char} :
    digit? base c = some d ↔ d < base ∧
      (c.toNat = 48 + d ∧ d < 10 ∨ 10 ≤ d ∧ d < 36 ∧ (c.toNat = 87 + d ∨ c.toNat = 55 + d)) := by
  have hbounds : '0'.toNat = 48 ∧ '9'.toNat = 57 ∧ 'a'.toNat = 97 ∧ 'z'.toNat = 122 ∧
      'A'.toNat = 65 ∧ 'Z'.toNat = 90 := by decide
  simp only [digit?, le_iff_toNat, Bool.and_eq_true, decide_eq_true_eq, hbounds,
    Option.ite_none_right_eq_some, Option.some_inj]
  split_ifs <;> omega

theorem digit?_lt {base d : Nat} {c : Char} (h : digit? base c = some d) : d < base :=
  (digit?_eq_some_iff.mp h).1

theorem digit?_digitChar {base d : Nat} (hbase : base ≤ 16) (h : d < base) :
    digit? base d.digitChar = some d := by
  have hsixteen : ∀ d < 16, ∀ base ≤ 16, d < base → digit? base d.digitChar = some d := by decide
  exact hsixteen d (by omega) base hbase h

/-! ### Numbers of digits -/

/-- The number that digits continue from a value. -/
def numberFrom? (base : Nat) : Nat → List Char → Option Nat
  | value, [] => some value
  | value, c :: rest =>
    match digit? base c with
    | some d => numberFrom? base (value * base + d) rest
    | none => none

variable {base bound value number : Nat} {digits : List Char}

theorem numberFrom?_append (first second : List Char) :
    numberFrom? base value (first ++ second) =
      (numberFrom? base value first).bind fun value => numberFrom? base value second := by
  induction first generalizing value with
  | nil => rfl
  | cons c rest ih =>
    rw [List.cons_append, numberFrom?, numberFrom?]
    cases digit? base c with
    | none => rfl
    | some d => exact ih

theorem le_of_numberFrom? (hbase : 0 < base) (h : numberFrom? base value digits = some number) :
    value ≤ number := by
  induction digits generalizing value with
  | nil => exact Nat.le_of_eq (Option.some_inj.mp h)
  | cons c rest ih =>
    rw [numberFrom?] at h
    cases hdigit : digit? base c with
    | none =>
      rw [hdigit] at h
      contradiction
    | some d =>
      rw [hdigit] at h
      have hle := ih h
      have hmul := Nat.le_mul_of_pos_right value hbase
      omega

theorem isSome_numberFrom?_iff :
    (numberFrom? base value digits).isSome = true ↔
      ∀ c ∈ digits, (digit? base c).isSome = true := by
  induction digits generalizing value with
  | nil => simp [numberFrom?]
  | cons c rest ih =>
    rw [numberFrom?, List.forall_mem_cons]
    cases digit? base c with
    | none => simp
    | some d => simpa using ih

theorem lt_of_numberFrom? (h : numberFrom? base value digits = some number) :
    number < (value + 1) * base ^ digits.length := by
  induction digits generalizing value with
  | nil =>
    obtain rfl := Option.some_inj.mp h
    simp
  | cons c rest ih =>
    rw [numberFrom?] at h
    cases hdigit : digit? base c with
    | none =>
      rw [hdigit] at h
      contradiction
    | some d =>
      rw [hdigit] at h
      have hd := digit?_lt hdigit
      calc number < (value * base + d + 1) * base ^ rest.length := ih h
        _ ≤ (value + 1) * base * base ^ rest.length := by
          refine Nat.mul_le_mul_right _ ?_
          rw [Nat.add_mul, Nat.one_mul]
          omega
        _ = (value + 1) * base ^ (c :: rest).length := by
          rw [List.length_cons, Nat.pow_succ', Nat.mul_assoc]

/-- Reading under a bound gives the number of the digits, if it is below the bound. -/
theorem readDigits_eq_ok_iff (hbase : 0 < base) :
    readDigits base bound value digits = .ok number ↔
      numberFrom? base value digits = some number ∧ (digits = [] ∨ number < bound) := by
  induction digits generalizing value with
  | nil => simp [readDigits, numberFrom?]
  | cons c rest ih =>
    rw [readDigits, numberFrom?]
    cases digit? base c with
    | none => simp
    | some d =>
      simp only [reduceCtorEq, false_or]
      split
      · rename_i hlt
        rw [ih]
        refine and_congr_right fun hnumber => ⟨?_, Or.inr⟩
        rintro (rfl | hbound)
        · exact Option.some_inj.mp hnumber ▸ hlt
        · exact hbound
      · rename_i hge
        simp only [reduceCtorEq, false_iff, not_and]
        intro hnumber
        have hle := le_of_numberFrom? hbase hnumber
        omega

theorem readNumeral_of_numberFrom? (hbase : 0 < base) (hne : digits ≠ [])
    (hnumber : numberFrom? base 0 digits = some number) (hlt : number < bound) :
    readNumeral base bound digits = .ok number := by
  have hdigits : readDigits base bound 0 digits = .ok number :=
    (readDigits_eq_ok_iff hbase).mpr ⟨hnumber, .inr hlt⟩
  have hplus : '+' ∉ digits := by
    intro hmem
    have hdigit := isSome_numberFrom?_iff.mp (hnumber ▸ Option.isSome_some) '+' hmem
    simp [digit?] at hdigit
  unfold readNumeral
  split
  · contradiction
  · simp at hplus
  · simp at hplus
  · exact hdigits

/-- The digits of a number make that number. -/
theorem numberFrom?_toDigits (hone : 1 < base) (hbase : base ≤ 16) (n : Nat) :
    numberFrom? base 0 (Nat.toDigits base n) = some n := by
  induction n using Nat.strongRecOn with
  | ind n ih =>
    have hlast : ∀ value d, d < base →
        numberFrom? base value [d.digitChar] = some (value * base + d) := by
      intro value d hd
      simp only [numberFrom?, digit?_digitChar hbase hd]
    rw [Nat.toDigits_eq_if hone]
    split
    · rename_i hlt
      rw [hlast 0 n hlt, Nat.zero_mul, Nat.zero_add]
    · rename_i hge
      rw [numberFrom?_append, ih (n / base) (Nat.div_lt_self (by omega) hone), Option.bind_some,
        hlast _ _ (Nat.mod_lt n (by omega)), Nat.mul_comm, Nat.div_add_mod]

end CodeWindow.Text
