import CodeWindow.Note
import CodeWindow.Proofs.Numerals

/-! Numbers in shown texts. A numeral gives its number back. An address is shown as a numeral, with
nothing or a space behind it, so the text gives the address back. A text of links starts with the
first of them. -/

namespace CodeWindow

/-! ### Numerals of numbers -/

namespace Text

variable {base bound n : Nat}

theorem not_mem_toDigits (hone : 1 < base) (hbase : base ≤ 16) {c : Char}
    (h : digit? base c = none) : c ∉ Nat.toDigits base n := by
  intro hmem
  have hnumber : (numberFrom? base 0 (Nat.toDigits base n)).isSome = true := by
    rw [numberFrom?_toDigits hone hbase, Option.isSome_some]
  have hdigit := isSome_numberFrom?_iff.mp hnumber c hmem
  rw [h] at hdigit
  contradiction

theorem readNumeral_toDigits (hone : 1 < base) (hbase : base ≤ 16) (hlt : n < bound) :
    readNumeral base bound (Nat.toDigits base n) = .ok n :=
  readNumeral_of_numberFrom? (by omega) Nat.toDigits_ne_nil (numberFrom?_toDigits hone hbase n) hlt

theorem toList_hex (n : Nat) : (hex n).toList = '0' :: 'x' :: Nat.toDigits 16 n := by
  simp [hex, hexDigits]

theorem toList_decimal (n : Nat) : (decimal n).toList = Nat.toDigits 10 n := by
  simp [decimal]

theorem readMarkedNumeral_hex (hlt : n < bound) :
    readMarkedNumeral bound (hex n).toList = .ok n := by
  rw [toList_hex]
  exact readNumeral_toDigits (by decide) (by decide) hlt

theorem readMarkedNumeral_decimal (hlt : n < bound) :
    readMarkedNumeral bound (decimal n).toList = .ok n := by
  have hmark : 'x' ∉ Nat.toDigits 10 n ∧ 'X' ∉ Nat.toDigits 10 n := by
    constructor
    · exact not_mem_toDigits (by decide) (by decide) (by decide)
    · exact not_mem_toDigits (by decide) (by decide) (by decide)
  rw [toList_decimal]
  unfold readMarkedNumeral
  split
  · rename_i h
    have hmem : 'x' ∈ Nat.toDigits 10 n := by rw [h]; simp
    exact absurd hmem hmark.1
  · rename_i h
    have hmem : 'X' ∈ Nat.toDigits 10 n := by rw [h]; simp
    exact absurd hmem hmark.2
  · exact readNumeral_toDigits (by decide) (by decide) hlt

/-- The number that digits make, of which there is at least one. -/
def digitNumber? (base : Nat) (digits : List Char) : Option Nat :=
  if digits.isEmpty then none else numberFrom? base 0 digits

/-- The number that a numeral stands for: hexadecimal digits after `0x`, or decimal ones. -/
def natNumeral? : List Char → Option Nat
  | '0' :: 'x' :: digits => digitNumber? 16 digits
  | digits => digitNumber? 10 digits

theorem digitNumber?_toDigits (hone : 1 < base) (hbase : base ≤ 16) (n : Nat) :
    digitNumber? base (Nat.toDigits base n) = some n := by
  rw [digitNumber?, if_neg (by simp [Nat.toDigits_ne_nil]), numberFrom?_toDigits hone hbase]

theorem natNumeral?_hex (n : Nat) : natNumeral? (hex n).toList = some n := by
  rw [toList_hex]
  exact digitNumber?_toDigits (by decide) (by decide) n

theorem natNumeral?_decimal (n : Nat) : natNumeral? (decimal n).toList = some n := by
  have hmark : 'x' ∉ Nat.toDigits 10 n := not_mem_toDigits (by decide) (by decide) (by decide)
  rw [toList_decimal]
  unfold natNumeral?
  split
  · rename_i h
    exact absurd (by simp [h]) hmark
  · exact digitNumber?_toDigits (by decide) (by decide) n

theorem space_not_mem_hex : ' ' ∉ (hex n).toList := by
  have hdigits : ' ' ∉ Nat.toDigits 16 n := not_mem_toDigits (by decide) (by decide) (by decide)
  simpa [toList_hex] using hdigits

theorem space_not_mem_decimal : ' ' ∉ (decimal n).toList := by
  rw [toList_decimal]
  exact not_mem_toDigits (by decide) (by decide) (by decide)

end Text

/-! ### Numbers of texts -/

namespace Rendering

/-- The number that the first word of a text stands for, in hexadecimal after `0x`. -/
def firstNumber? (text : String) : Option Nat :=
  (Text.readMarkedNumeral UInt64.size (text.toList.takeWhile (· != ' '))).toOption

/-- A text that may stand behind a word: it starts with a space, unless it is empty. -/
def Apart (text : String) : Prop := ∀ c ∈ text.toList.head?, c = ' '

theorem Apart.append {first second : String} (hfirst : Apart first) (hsecond : Apart second) :
    Apart (first ++ second) := by
  unfold Apart at *
  rw [String.toList_append]
  cases hlist : first.toList with
  | nil => exact hsecond
  | cons c rest =>
    rw [hlist] at hfirst
    exact hfirst

variable {symbolAt : UInt64 → Option String} {value : UInt64} {rest : String}

/-- What has nothing or a space behind it is the first word. -/
theorem firstNumber?_append {word : String} (hword : ' ' ∉ word.toList) (hrest : Apart rest) :
    firstNumber? (word ++ rest) =
      (Text.readMarkedNumeral UInt64.size word.toList).toOption := by
  have hinside : ∀ c ∈ word.toList, (c != ' ') = true := fun c hc =>
    bne_iff_ne.mpr (ne_of_mem_of_not_mem hc hword)
  have hbehind : rest.toList.takeWhile (· != ' ') = [] := by
    unfold Apart at hrest
    cases hlist : rest.toList with
    | nil => rfl
    | cons c tail =>
      rw [hlist] at hrest
      simp [hrest c rfl]
  rw [firstNumber?, String.toList_append, List.takeWhile_append_of_pos hinside, hbehind,
    List.append_nil]

theorem firstNumber?_hexAddress (hrest : Apart rest) :
    firstNumber? (hexAddress value ++ rest) = some value.toNat := by
  rw [hexAddress, firstNumber?_append Text.space_not_mem_hex hrest,
    Text.readMarkedNumeral_hex value.toNat_lt]
  rfl

/-- A text that starts with an address gives it back. -/
theorem firstNumber?_addressAndSymbol (hrest : Apart rest) :
    firstNumber? (addressAndSymbol symbolAt value ++ rest) = some value.toNat := by
  unfold addressAndSymbol
  cases symbolAt value with
  | some name =>
    have hname : Apart (" (" ++ (name ++ (")" ++ rest))) := by simp [Apart]
    simpa only [String.append_assoc] using firstNumber?_hexAddress hname
  | none =>
    simp only [plainAddress]
    split
    · exact firstNumber?_hexAddress hrest
    · rw [firstNumber?_append Text.space_not_mem_decimal hrest,
        Text.readMarkedNumeral_decimal value.toNat_lt]
      rfl

theorem addressAndSymbol_inj {other : UInt64}
    (h : addressAndSymbol symbolAt value = addressAndSymbol symbolAt other) : value = other := by
  have hempty : Apart "" := by simp [Apart]
  have hnumber : firstNumber? (addressAndSymbol symbolAt value ++ "") = some value.toNat :=
    firstNumber?_addressAndSymbol hempty
  rw [h, firstNumber?_addressAndSymbol hempty] at hnumber
  exact UInt64.toNat_inj.mp (Option.some_inj.mp hnumber).symm

end Rendering

/-! ### Numbers of chains -/

namespace Chain

variable {process : Process} {value : UInt64} {links : List UInt64} {limit maxLength : Nat}
  {canDereference : Bool}

open Rendering (Apart addressAndSymbol firstNumber?)

theorem exists_renderLinks_cons (process : Process) (value : UInt64) (links : List UInt64)
    (canDereference : Bool) (maxLength : Nat) :
    ∃ rest others, Apart rest ∧
      renderLinks process canDereference maxLength (value :: links) =
        (addressAndSymbol process.symbolAt value ++ rest) :: others := by
  have hempty : Apart "" := by simp [Apart]
  cases links with
  | cons next links =>
    exact ⟨"", renderLinks process canDereference maxLength (next :: links), hempty, by
      rw [String.append_empty]; rfl⟩
  | nil =>
    simp only [renderLinks, renderLast]
    split
    · rename_i string _
      refine ⟨stringArrow ++ string, [], ?_, by rw [String.append_assoc]⟩
      simp [Apart, stringArrow]
    · exact ⟨"", [], hempty, by rw [String.append_empty]⟩

theorem exists_intercalate_arrow (first : String) (others : List String) :
    ∃ rest, Apart rest ∧ arrow.intercalate (first :: others) = first ++ rest := by
  cases others with
  | nil => exact ⟨"", by simp [Apart], by simp⟩
  | cons next others =>
    refine ⟨arrow ++ arrow.intercalate (next :: others), by simp [Apart, arrow], ?_⟩
    rw [String.intercalate_cons_cons, String.append_assoc]

/-- The text of a chain starts with its first link, if it shows any. -/
theorem firstNumber?_render (hlimit : oneMore limit ≠ 0) :
    firstNumber? (render process (value :: links) limit canDereference maxLength) =
      some value.toNat := by
  obtain ⟨count, hcount⟩ := Nat.exists_eq_succ_of_ne_zero hlimit
  obtain ⟨rest, others, hrest, hlinks⟩ :=
    exists_renderLinks_cons process value (links.take count) canDereference maxLength
  have hshown : ∃ others, render process (value :: links) limit canDereference maxLength =
      arrow.intercalate ((addressAndSymbol process.symbolAt value ++ rest) :: others) := by
    unfold render
    rw [hcount, List.take_succ_cons, hlinks]
    simp only
    split
    · exact ⟨others ++ ["..."], rfl⟩
    · exact ⟨others, rfl⟩
  obtain ⟨others, hshown⟩ := hshown
  obtain ⟨behind, hbehind, htext⟩ := exists_intercalate_arrow
    (addressAndSymbol process.symbolAt value ++ rest) others
  rw [hshown, htext, String.append_assoc]
  exact Rendering.firstNumber?_addressAndSymbol (hrest.append hbehind)

end Chain

end CodeWindow
