import CodeWindow.Proofs.Numerals
import CodeWindow.Proofs.SnapshotMemory
import Mathlib.Tactic.Tauto

/-! The texts that are read as the bytes of a region. Without ASCII blanks such a text is made of
pairs of characters. Each pair is read as a numeral, and numerals may start with a plus sign, so a
sign is let through in place of the first digit of a pair; all other texts are refused. -/

namespace CodeWindow

namespace Text

/-! ### Bytes of characters -/

/-- The character whose code point is a byte. -/
def charOf (byte : UInt8) : Char := Char.ofNat byte.toNat

/-- The ASCII blanks among the characters: space, tab, line feed, form feed and carriage return. -/
def isBlankChar (c : Char) : Bool :=
  c == ' ' || c == '\t' || c == '\n' || c == '\x0c' || c == '\r'

variable {c : Char}

theorem utf8EncodeChar_of_lt (h : c.toNat < 0x80) :
    String.utf8EncodeChar c = [UInt8.ofNat c.toNat] := by
  have hle : c.val.toNat ≤ 127 := Nat.le_of_lt_succ h
  simp only [String.utf8EncodeChar, if_pos hle]
  rfl

theorem charOf_ofNat (h : c.toNat < 0x80) : charOf (UInt8.ofNat c.toNat) = c := by
  rw [charOf, UInt8.toNat_ofNat_of_lt' (Nat.lt_trans h (by decide)), Char.ofNat_toNat]

/-- The bytes of a character beyond ASCII are beyond ASCII. -/
theorem le_toNat_of_mem_utf8EncodeChar (h : 0x80 ≤ c.toNat) :
    ∀ byte ∈ String.utf8EncodeChar c, 0x80 ≤ byte.toNat := by
  have hwide : ¬ c.val.toNat ≤ 127 := Nat.not_le.mpr h
  simp only [String.utf8EncodeChar, if_neg hwide]
  split_ifs <;> simp <;> omega

theorem toNat_charOf (byte : UInt8) : (charOf byte).toNat = byte.toNat := by
  have hvalid : ∀ n < 256, (Char.ofNat n).toNat = n := by decide +kernel
  exact hvalid _ byte.toNat_lt

/-- Dropping the blank bytes of a text is dropping its blank characters. -/
theorem filter_flatMap_utf8EncodeChar (text : List Char) :
    (text.flatMap String.utf8EncodeChar).filter (fun byte => !isAsciiBlank byte) =
      (text.filter fun c => !isBlankChar c).flatMap String.utf8EncodeChar := by
  have hascii : ∀ n < 0x80, isAsciiBlank (UInt8.ofNat n) = isBlankChar (Char.ofNat n) := by
    decide +kernel
  have hbyte : ∀ n < 0x100, 0x80 ≤ n → isAsciiBlank (UInt8.ofNat n) = false := by decide +kernel
  induction text with
  | nil => rfl
  | cons c text ih =>
    rw [List.flatMap_cons, List.filter_append, ih]
    by_cases h : c.toNat < 0x80
    · have hblank := hascii c.toNat h
      rw [Char.ofNat_toNat] at hblank
      rw [utf8EncodeChar_of_lt h, List.filter_singleton, List.filter_cons, hblank]
      cases isBlankChar c with
      | true => rfl
      | false =>
        rw [Bool.not_false, if_pos rfl, List.flatMap_cons, utf8EncodeChar_of_lt h]
        rfl
    · have hwide := le_toNat_of_mem_utf8EncodeChar (Nat.le_of_not_lt h)
      have hnone : ∀ byte ∈ String.utf8EncodeChar c, (!isAsciiBlank byte) = true := by
        intro byte hmem
        have hfalse := hbyte byte.toNat byte.toNat_lt (hwide byte hmem)
        rw [UInt8.ofNat_toNat] at hfalse
        rw [hfalse, Bool.not_false]
      have hblank : isBlankChar c = false := by
        simp only [isBlankChar, Bool.or_eq_false_iff, beq_eq_false_iff_ne]
        refine ⟨⟨⟨⟨?_, ?_⟩, ?_⟩, ?_⟩, ?_⟩ <;> rintro rfl <;> exact h (by decide)
      rw [List.filter_eq_self.mpr hnone, List.filter_cons, hblank, Bool.not_false, if_pos rfl,
        List.flatMap_cons]

/-- Characters are those of their bytes where either are all in ASCII. -/
theorem map_charOf_flatMap {text : List Char} (h : ∀ c ∈ text, c.toNat < 0x80) :
    (text.flatMap String.utf8EncodeChar).map charOf = text := by
  induction text with
  | nil => rfl
  | cons c text ih =>
    rw [List.flatMap_cons, utf8EncodeChar_of_lt (h c List.mem_cons_self), List.map_append,
      ih fun d hd => h d (List.mem_cons_of_mem c hd), List.map_singleton,
      charOf_ofNat (h c List.mem_cons_self), List.singleton_append]

theorem lt_of_map_charOf_flatMap {text : List Char}
    (h : ∀ d ∈ (text.flatMap String.utf8EncodeChar).map charOf, d.toNat < 0x80) :
    ∀ c ∈ text, c.toNat < 0x80 := by
  intro c hc
  by_contra hwide
  obtain ⟨byte, hbyte⟩ := List.exists_mem_of_ne_nil _ (String.utf8EncodeChar_ne_nil (c := c))
  have hlt := h (charOf byte)
    (List.mem_map_of_mem (List.mem_flatMap.mpr ⟨c, hc, hbyte⟩))
  have hle := le_toNat_of_mem_utf8EncodeChar (Nat.le_of_not_lt hwide) byte hbyte
  rw [toNat_charOf] at hlt
  omega

/-! ### Pairs of digits -/

/-- Pairs of hexadecimal digits, with a plus sign let through in place of the first digit of a
pair. -/
def SignedPairs : List Char → Prop
  | [] => True
  | [_] => False
  | first :: second :: rest =>
    (IsHexDigit first ∨ first = '+') ∧ IsHexDigit second ∧ SignedPairs rest

/-- An even number of hexadecimal digits and nothing else. -/
def HexPairs (text : List Char) : Prop := text.length % 2 = 0 ∧ ∀ c ∈ text, IsHexDigit c

theorem SignedPairs.lt : ∀ {text : List Char}, SignedPairs text → ∀ c ∈ text, c.toNat < 0x80
  | [], _, c, hc => absurd hc List.not_mem_nil
  | [_], h, _, _ => h.elim
  | first :: second :: rest, ⟨hfirst, hsecond, hrest⟩, c, hc => by
    rcases List.mem_cons.mp hc with rfl | hc
    · rcases hfirst with hdigit | rfl
      · exact hdigit.lt
      · decide
    rcases List.mem_cons.mp hc with rfl | hc
    · exact hsecond.lt
    · exact hrest.lt c hc

/-- Without a sign the pairs are pairs of digits. -/
theorem hexPairs_iff : ∀ text : List Char, HexPairs text ↔ SignedPairs text ∧ '+' ∉ text
  | [] => by simp [HexPairs, SignedPairs]
  | [c] => by simp [HexPairs, SignedPairs]
  | first :: second :: rest => by
    have hsign : ¬ IsHexDigit '+' := by decide
    have hne : ∀ {c}, IsHexDigit c → '+' ≠ c := by
      rintro c h rfl
      exact hsign h
    have hrest := hexPairs_iff rest
    simp only [HexPairs, SignedPairs, List.length_cons, List.forall_mem_cons] at hrest ⊢
    rw [List.mem_cons, List.mem_cons, not_or, not_or,
      show (rest.length + 1 + 1) % 2 = rest.length % 2 by omega]
    constructor
    · rintro ⟨heven, hfirst, hsecond, hdigits⟩
      obtain ⟨hpairs, hnone⟩ := hrest.mp ⟨heven, hdigits⟩
      exact ⟨⟨.inl hfirst, hsecond, hpairs⟩, hne hfirst, hne hsecond, hnone⟩
    · rintro ⟨⟨hfirst, hsecond, hpairs⟩, hplus, -, hnone⟩
      obtain ⟨heven, hdigits⟩ := hrest.mpr ⟨hpairs, hnone⟩
      exact ⟨heven, hfirst.resolve_right (Ne.symm hplus), hsecond, hdigits⟩

theorem signedPairs_of_bytes (text : List Char) :
    SignedPairs ((text.flatMap String.utf8EncodeChar).map charOf) ↔ SignedPairs text := by
  constructor
  · intro h
    rwa [map_charOf_flatMap (lt_of_map_charOf_flatMap h.lt)] at h
  · intro h
    rwa [map_charOf_flatMap h.lt]

theorem SignedPairs.even : ∀ {text : List Char}, SignedPairs text → text.length % 2 = 0
  | [], _ => rfl
  | [_], h => h.elim
  | _ :: _ :: _, ⟨_, _, hrest⟩ => by
    have heven := hrest.even
    simp only [List.length_cons]
    omega

end Text

namespace Snapshot

open Text

/-! ### Reading -/

theorem exists_readDigits_iff {digits : List Char} (h : digits.length ≤ 2) :
    (∃ number, readDigits 16 256 0 digits = .ok number) ↔ ∀ c ∈ digits, IsHexDigit c := by
  have hdigits : (∀ c ∈ digits, IsHexDigit c) ↔
      ∃ number, numberFrom? 16 0 digits = some number := by
    rw [← Option.isSome_iff_exists, isSome_numberFrom?_iff]
    simp only [isSome_digit?_iff]
  rw [hdigits]
  simp only [readDigits_eq_ok_iff (show 0 < 16 by decide)]
  refine exists_congr fun number => ⟨And.left, fun hnumber => ⟨hnumber, Or.inr ?_⟩⟩
  -- Two digits stay below the bound.
  calc number < (0 + 1) * 16 ^ digits.length := lt_of_numberFrom? hnumber
    _ ≤ 256 := by
      rw [Nat.zero_add, Nat.one_mul]
      exact Nat.pow_le_pow_right (by decide) h

/-- The numeral of a pair is its second character alone where the first one is a sign. -/
theorem exists_readNumeral_iff (first second : Char) :
    (∃ number, readNumeral 16 256 [first, second] = .ok number) ↔
      (IsHexDigit first ∨ first = '+') ∧ IsHexDigit second := by
  by_cases hsign : first = '+'
  · subst hsign
    have hrest : readNumeral 16 256 ['+', second] = readDigits 16 256 0 [second] := rfl
    have hlength : [second].length ≤ 2 := Nat.le_succ 1
    rw [hrest, exists_readDigits_iff hlength]
    simp
  · have hboth : readNumeral 16 256 [first, second] = readDigits 16 256 0 [first, second] := by
      unfold readNumeral
      split
      · rename_i heq
        simp at heq
      · rename_i heq
        simp at heq
      · rename_i heq
        exact absurd (List.cons.inj heq).1 hsign
      · rfl
    have hlength : [first, second].length ≤ 2 := Nat.le_refl 2
    rw [hboth, exists_readDigits_iff hlength]
    simp [hsign]

theorem readHexPair_ok_iff (first second : UInt8) :
    (∃ byte, readHexPair first second = .ok byte) ↔
      (IsHexDigit (charOf first) ∨ charOf first = '+') ∧ IsHexDigit (charOf second) := by
  rw [← exists_readNumeral_iff]
  unfold readHexPair charOf
  cases readNumeral 16 256 [Char.ofNat first.toNat, Char.ofNat second.toNat] <;> simp

theorem readHexPairs_ok_iff : ∀ bytes : List UInt8, bytes.length % 2 = 0 →
    ((∃ read, readHexPairs bytes = .ok read) ↔ SignedPairs (bytes.map charOf))
  | [], _ => by simp [readHexPairs, SignedPairs]
  | [_], h => by simp at h
  | first :: second :: rest, h => by
    simp only [List.length_cons] at h
    have hrest := readHexPairs_ok_iff rest (by omega)
    rw [List.map_cons, List.map_cons, SignedPairs, ← hrest, ← and_assoc,
      ← readHexPair_ok_iff first second, readHexPairs]
    cases readHexPair first second with
    | error cause => simp
    | ok byte => cases readHexPairs rest <;> simp

/-- The text of a region's data without its blanks. -/
def dataDigits (text : String) : List Char := text.toList.filter fun c => !isBlankChar c

theorem filter_textBytes (text : String) :
    (textBytes text).filter (fun byte => !isAsciiBlank byte) =
      (dataDigits text).flatMap String.utf8EncodeChar := by
  rw [dataDigits, ← filter_flatMap_utf8EncodeChar, textBytes]
  congr 1
  conv_lhs => rw [← String.ofList_toList (s := text)]
  exact List.toList_data_toByteArray

theorem readHexBytes_ok_iff (text : String) :
    (∃ bytes, readHexBytes text = .ok bytes) ↔ SignedPairs (dataDigits text) := by
  rw [← signedPairs_of_bytes, ← filter_textBytes]
  unfold readHexBytes
  dsimp only
  split
  · rename_i hodd
    simp only [reduceCtorEq, exists_false, false_iff]
    intro hpairs
    have heven := hpairs.even
    rw [List.length_map] at heven
    exact hodd heven
  · rename_i heven
    exact readHexPairs_ok_iff _ (Decidable.not_not.mp heven)

/-! ### Loading -/

/-- Where a fold succeeds, it succeeds at every item. -/
theorem exists_step_of_foldlM {ε α β : Type} {step : β → α → Except ε β} :
    {items : List α} → {first last : β} → items.foldlM step first = .ok last →
      ∀ item ∈ items, ∃ before after, step before item = .ok after
  | [], _, _, _, _, hitem => absurd hitem List.not_mem_nil
  | next :: _, first, _, h, item, hitem => by
    rw [List.foldlM_cons] at h
    obtain ⟨after, hnext, hrest⟩ := exists_of_bind_eq_ok h
    rcases List.mem_cons.mp hitem with rfl | hitem
    · exact ⟨first, after, hnext⟩
    · exact exists_step_of_foldlM hrest item hitem

/-- The data of every region of a form that loads is read. -/
theorem exists_bytes_of_form {form : Form} {snapshot : Snapshot}
    (h : form.snapshot = .ok snapshot) :
    ∀ region ∈ form.regions, ∃ bytes, readHexBytes region.data = .ok bytes := by
  intro region hmem
  obtain ⟨_, -, h⟩ := exists_of_bind_eq_ok h
  obtain ⟨_, hregions, -⟩ := exists_of_bind_eq_ok h
  obtain ⟨_, _, hstep⟩ := exists_step_of_foldlM hregions region hmem
  obtain ⟨_, hregion, -⟩ := exists_of_bind_eq_ok hstep
  obtain ⟨_, -, hregion⟩ := exists_of_bind_eq_ok hregion
  obtain ⟨_, -, hregion⟩ := exists_of_bind_eq_ok hregion
  obtain ⟨bytes, hbytes, -⟩ := exists_of_bind_eq_ok hregion
  exact ⟨bytes, hbytes⟩

/-- A text is read as bytes exactly if it is signed pairs without its blanks. It is accepted by the
rule that only an even number of hexadecimal digits is, unless a sign is let through in it. No form
loads that holds any other text. -/
theorem readHexBytes_iff_signedPairs (text : String) :
    ((∃ bytes, readHexBytes text = .ok bytes) ↔ SignedPairs (dataDigits text)) ∧
      (((∃ bytes, readHexBytes text = .ok bytes) ↔ HexPairs (dataDigits text)) ↔
        ¬ (SignedPairs (dataDigits text) ∧ '+' ∈ dataDigits text)) ∧
      ∀ form : Form, (∃ region ∈ form.regions, region.data = text) →
        (∃ snapshot, form.snapshot = .ok snapshot) → SignedPairs (dataDigits text) := by
  have haccepts := readHexBytes_ok_iff text
  refine ⟨haccepts, ?_, ?_⟩
  · rw [haccepts, hexPairs_iff]
    tauto
  · rintro form ⟨region, hmem, rfl⟩ ⟨snapshot, hloads⟩
    exact haccepts.mp (exists_bytes_of_form hloads region hmem)

/-- A sign in place of a digit is read as if it were zero. -/
theorem readHexBytes_sign :
    readHexBytes "+5" = .ok [0x05] ∧ ¬ HexPairs (dataDigits "+5") := by
  refine ⟨by decide +kernel, fun h => ?_⟩
  have hsign : '+' ∈ dataDigits "+5" := by decide
  exact absurd (h.2 '+' hsign) (by decide)

end Snapshot

end CodeWindow
