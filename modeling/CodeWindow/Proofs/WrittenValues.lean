import CodeWindow.Proofs.RegionData
import CodeWindow.Proofs.ShownNumber

/-! Values of a snapshot read back from the texts they are written as: numbers as addresses are
shown, or in hexadecimal of either case, with blanks around them, and bytes as pairs of digits with
blanks anywhere between the digits. -/

namespace CodeWindow

namespace Text

/-! ### Letter case -/

/-- The case of a digit does not count. -/
theorem digit?_toLower (base : Nat) (c : Char) : digit? base c.toLower = digit? base c := by
  unfold Char.toLower
  split
  · rename_i hupper
    have hle : 65 ≤ c.toNat := UInt32.le_iff_toNat_le.mp hupper.1
    have hge : c.toNat ≤ 90 := UInt32.le_iff_toNat_le.mp hupper.2
    generalize hlower : Char.mk _ _ = lower
    have hvalue : lower.toNat = c.toNat + 32 := by
      rw [← hlower, ← Char.toNat_val, UInt32.toNat_add, Char.toNat_val]
      exact Nat.mod_eq_of_lt (show c.toNat + 32 < 2 ^ 32 by omega)
    ext d
    rw [digit?_eq_some_iff, digit?_eq_some_iff, hvalue]
    omega
  · rfl

theorem numberFrom?_map_toLower (base value : Nat) (digits : List Char) :
    numberFrom? base value (digits.map Char.toLower) = numberFrom? base value digits := by
  induction digits generalizing value with
  | nil => rfl
  | cons c digits ih =>
    rw [List.map_cons, numberFrom?, numberFrom?, digit?_toLower]
    cases digit? base c with
    | none => rfl
    | some d => exact ih _

/-- Zeros in front of a number do not count. -/
theorem numberFrom?_replicate_zero (base count : Nat) (hbase : 0 < base) (digits : List Char) :
    numberFrom? base 0 (List.replicate count '0' ++ digits) = numberFrom? base 0 digits := by
  have hzero : digit? base '0' = some 0 := by simp [digit?, hbase]
  induction count with
  | zero => rfl
  | succ count ih =>
    rw [List.replicate_succ, List.cons_append, numberFrom?, hzero]
    simpa using ih

/-! ### Blanks around a text -/

theorem isBlank_of_digit? {base : Nat} {c : Char} (h : (digit? base c).isSome = true) :
    isBlank c = false := by
  obtain ⟨d, hd⟩ := Option.isSome_iff_exists.mp h
  rw [digit?_eq_some_iff] at hd
  simp only [isBlank, Bool.or_eq_false_iff, Bool.and_eq_false_imp, decide_eq_true_eq,
    decide_eq_false_iff_not, Nat.not_le, beq_eq_false_iff_ne]
  omega

theorem dropWhile_append {before rest : List Char} (hbefore : ∀ c ∈ before, isBlank c = true)
    (hrest : ∀ c ∈ rest.head?, isBlank c = false) : (before ++ rest).dropWhile isBlank = rest := by
  rw [List.dropWhile_append_of_pos hbefore]
  cases rest with
  | nil => rfl
  | cons c rest => exact List.dropWhile_cons_of_neg (by simp [hrest c rfl])

/-- Trimming takes away just the blanks around a text that has none itself. -/
theorem trim_append {before middle after : List Char} (hbefore : ∀ c ∈ before, isBlank c = true)
    (hne : middle ≠ []) (hmiddle : ∀ c ∈ middle, isBlank c = false)
    (hafter : ∀ c ∈ after, isBlank c = true) : trim (before ++ middle ++ after) = middle := by
  have hfront : (before ++ (middle ++ after)).dropWhile isBlank = middle ++ after := by
    refine dropWhile_append hbefore fun c hc => ?_
    rw [List.head?_append_of_ne_nil _ hne] at hc
    exact hmiddle c (List.mem_of_mem_head? hc)
  have hback : (after.reverse ++ middle.reverse).dropWhile isBlank = middle.reverse := by
    refine dropWhile_append (fun c hc => hafter c (List.mem_reverse.mp hc)) fun c hc => ?_
    exact hmiddle c (List.mem_reverse.mp (List.mem_of_mem_head? hc))
  rw [trim, List.append_assoc, hfront, List.reverse_append, hback, List.reverse_reverse]

/-! ### Numerals -/

/-- There are no blanks in what is read as a numeral. -/
theorem isBlank_of_readNumeral {base bound number : Nat} {digits : List Char} (hbase : 0 < base)
    (h : readNumeral base bound digits = .ok number) : ∀ c ∈ digits, isBlank c = false := by
  have hdigits : ∀ {digits}, readDigits base bound 0 digits = .ok number →
      ∀ c ∈ digits, isBlank c = false := by
    intro digits hread c hc
    have hnumber := ((readDigits_eq_ok_iff hbase).mp hread).1
    exact isBlank_of_digit? (isSome_numberFrom?_iff.mp (hnumber ▸ Option.isSome_some) c hc)
  unfold readNumeral at h
  split at h
  · contradiction
  · contradiction
  · intro c hc
    rcases List.mem_cons.mp hc with rfl | hc
    · rfl
    · exact hdigits h c hc
  · exact hdigits h

theorem isBlank_of_readMarkedNumeral {bound number : Nat} {numeral : List Char}
    (h : readMarkedNumeral bound numeral = .ok number) : ∀ c ∈ numeral, isBlank c = false := by
  unfold readMarkedNumeral at h
  split at h
  · have hdigits := isBlank_of_readNumeral (by decide) h
    simpa using ⟨rfl, rfl, hdigits⟩
  · have hdigits := isBlank_of_readNumeral (by decide) h
    simpa using ⟨rfl, rfl, hdigits⟩
  · exact isBlank_of_readNumeral (by decide) h

end Text

namespace Snapshot

open Text

/-- The numerals of a word: the text of it as an address, and its hexadecimal digits of either case
behind a mark, with or without zeros in front. -/
inductive IsNumeral (word : UInt64) : List Char → Prop
  | shown : IsNumeral word (Rendering.plainAddress word).toList
  | hexadecimal {mark : Char} {digits : List Char} (zeros : Nat) : mark = 'x' ∨ mark = 'X' →
      digits.map Char.toLower = List.replicate zeros '0' ++ Nat.toDigits 16 word.toNat →
      IsNumeral word ('0' :: mark :: digits)

namespace IsNumeral

variable {word : UInt64} {numeral : List Char}

theorem readMarkedNumeral (h : IsNumeral word numeral) :
    readMarkedNumeral UInt64.size numeral = .ok word.toNat := by
  cases h with
  | shown =>
    unfold Rendering.plainAddress
    split
    · exact readMarkedNumeral_hex word.toNat_lt
    · exact readMarkedNumeral_decimal word.toNat_lt
  | @hexadecimal mark digits zeros hmark hdigits =>
    have hnumber : numberFrom? 16 0 digits = some word.toNat := by
      rw [← numberFrom?_map_toLower, hdigits, numberFrom?_replicate_zero _ _ (by decide),
        numberFrom?_toDigits (by decide) (by decide)]
    have hne : digits ≠ [] := by
      rintro rfl
      have hnil := (List.append_eq_nil_iff.mp hdigits.symm).2
      exact Nat.toDigits_ne_nil hnil
    have hread := readNumeral_of_numberFrom? (by decide) hne hnumber word.toNat_lt
    rcases hmark with rfl | rfl
    · exact hread
    · exact hread

theorem ne_nil (h : IsNumeral word numeral) : numeral ≠ [] := by
  rintro rfl
  have hread := h.readMarkedNumeral
  contradiction

end IsNumeral

/-- A text writes a word: it is a numeral of the word with blanks around it. -/
def WritesWord (word : UInt64) (text : String) : Prop :=
  ∃ before numeral after, text.toList = before ++ numeral ++ after ∧ IsNumeral word numeral ∧
    (∀ c ∈ before, isBlank c = true) ∧ ∀ c ∈ after, isBlank c = true

theorem readNumber_of_writesWord {word : UInt64} {text : String} (h : WritesWord word text) :
    readNumber text = .ok word := by
  obtain ⟨before, numeral, after, htext, hnumeral, hbefore, hafter⟩ := h
  have hread := hnumeral.readMarkedNumeral
  unfold readNumber
  rw [htext, trim_append hbefore hnumeral.ne_nil (isBlank_of_readMarkedNumeral hread) hafter]
  simp only [hread, UInt64.ofNat_toNat]

theorem writesWord_plainAddress (word : UInt64) : WritesWord word (Rendering.plainAddress word) :=
  ⟨[], _, [], by rw [List.nil_append, List.append_nil], .shown, by simp, by simp⟩

/-! ### Bytes -/

/-- A byte in two hexadecimal digits. -/
def hexPair (byte : UInt8) : List Char :=
  [(byte.toNat / 16).digitChar, (byte.toNat % 16).digitChar]

theorem numberFrom?_hexPair (byte : UInt8) : numberFrom? 16 0 (hexPair byte) = some byte.toNat := by
  have hbyte := byte.toNat_lt
  simp only [hexPair, numberFrom?, digit?_digitChar (Nat.le_refl 16)
    (show byte.toNat / 16 < 16 by omega), digit?_digitChar (Nat.le_refl 16)
    (show byte.toNat % 16 < 16 by omega), Option.some_inj]
  omega

/-- Two digits of either case that a byte is written in. -/
theorem readHexPair_of_toLower {first second : Char} {byte : UInt8}
    (h : [first, second].map Char.toLower = hexPair byte) :
    first.toNat < 0x80 ∧ second.toNat < 0x80 ∧
      readHexPair (UInt8.ofNat first.toNat) (UInt8.ofNat second.toNat) = .ok byte := by
  have hnumber : numberFrom? 16 0 [first, second] = some byte.toNat := by
    rw [← numberFrom?_map_toLower, h, numberFrom?_hexPair]
  have hdigit : ∀ c ∈ [first, second], IsHexDigit c := fun c hc =>
    isSome_digit?_iff.mp (isSome_numberFrom?_iff.mp (hnumber ▸ Option.isSome_some) c hc)
  have hfirst : first.toNat < 0x80 := (hdigit first (by simp)).lt
  have hsecond : second.toNat < 0x80 := (hdigit second (by simp)).lt
  have hread : Text.readNumeral 16 256 [charOf (UInt8.ofNat first.toNat),
      charOf (UInt8.ofNat second.toNat)] = .ok byte.toNat := by
    rw [charOf_ofNat hfirst, charOf_ofNat hsecond]
    exact readNumeral_of_numberFrom? (by decide) (by simp) hnumber byte.toNat_lt
  refine ⟨hfirst, hsecond, ?_⟩
  unfold charOf at hread
  rw [readHexPair, hread]
  simp only [UInt8.ofNat_toNat]

/-- Digits of either case that bytes are written in. -/
theorem readHexPairs_of_toLower {bytes : List UInt8} {digits : List Char}
    (h : digits.map Char.toLower = bytes.flatMap hexPair) :
    (digits.flatMap String.utf8EncodeChar).length = 2 * bytes.length ∧
      readHexPairs (digits.flatMap String.utf8EncodeChar) = .ok bytes := by
  induction bytes generalizing digits with
  | nil =>
    obtain rfl := List.map_eq_nil_iff.mp h
    exact ⟨rfl, rfl⟩
  | cons byte bytes ih =>
    obtain ⟨first, rest, rfl, hfirst, h⟩ := List.map_eq_cons_iff.mp h
    obtain ⟨second, rest, rfl, hsecond, h⟩ := List.map_eq_cons_iff.mp h
    have hpair : [first, second].map Char.toLower = hexPair byte := by
      simp only [List.map_cons, hfirst, hsecond, List.map_nil]
      rfl
    obtain ⟨hfirst, hsecond, hread⟩ := readHexPair_of_toLower hpair
    obtain ⟨hlength, hrest⟩ := ih h
    have hbytes : (first :: second :: rest).flatMap String.utf8EncodeChar =
        UInt8.ofNat first.toNat :: UInt8.ofNat second.toNat ::
          rest.flatMap String.utf8EncodeChar := by
      rw [List.flatMap_cons, List.flatMap_cons, utf8EncodeChar_of_lt hfirst,
        utf8EncodeChar_of_lt hsecond]
      rfl
    rw [hbytes]
    refine ⟨?_, ?_⟩
    · simp only [List.length_cons, hlength]
      omega
    · simp only [readHexPairs, hread, hrest]

/-- A text writes bytes: without its ASCII blanks it is the digits of the bytes, of either case. -/
def WritesBytes (bytes : List UInt8) (text : String) : Prop :=
  (dataDigits text).map Char.toLower = bytes.flatMap hexPair

theorem readHexBytes_of_writesBytes {bytes : List UInt8} {text : String}
    (h : WritesBytes bytes text) : readHexBytes text = .ok bytes := by
  obtain ⟨hlength, hread⟩ := readHexPairs_of_toLower h
  unfold readHexBytes
  rw [filter_textBytes]
  simp only [hlength, Nat.mul_mod_right, ne_eq, not_true_eq_false, if_false, hread]

/-- Numbers and bytes are read back from the texts that they are written as: a word from the text of
it as an address and from each of its numerals with blanks around it, and bytes from their digits
with ASCII blanks anywhere. -/
theorem read_written :
    (∀ word : UInt64, readNumber (Rendering.plainAddress word) = .ok word) ∧
    (∀ (word : UInt64) (text : String), WritesWord word text → readNumber text = .ok word) ∧
    (∀ (bytes : List UInt8) (text : String), WritesBytes bytes text →
      readHexBytes text = .ok bytes) :=
  ⟨fun word => readNumber_of_writesWord (writesWord_plainAddress word),
    fun _ _ => readNumber_of_writesWord, fun _ _ => readHexBytes_of_writesBytes⟩

/-- A number with blanks around it and a zero in front, and bytes with blanks in their pairs. -/
theorem read_written_with_blanks :
    WritesWord 0x1FF "\t0X01fF\n" ∧ readNumber "\t0X01fF\n" = .ok 0x1FF ∧
      WritesBytes [0x4A, 0xB0] " 4\na\x0cB 0" ∧ readHexBytes " 4\na\x0cB 0" = .ok [0x4A, 0xB0] := by
  have hword : WritesWord 0x1FF "\t0X01fF\n" :=
    ⟨['\t'], ['0', 'X', '0', '1', 'f', 'F'], ['\n'], by decide,
      .hexadecimal 1 (.inr rfl) (by decide), List.forall_mem_singleton.mpr (by decide),
      List.forall_mem_singleton.mpr (by decide)⟩
  have hbytes : WritesBytes [0x4A, 0xB0] " 4\na\x0cB 0" := by
    unfold WritesBytes
    decide
  exact ⟨hword, read_written.2.1 _ _ hword, hbytes, read_written.2.2 _ _ hbytes⟩

end Snapshot

end CodeWindow
