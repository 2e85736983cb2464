/-! Lenient reading of UTF-8. A lead byte says how many bytes its character owes and between which
bounds the next one must lie. A byte that breaks this closes the character as a replacement
character and is then read on its own, so each longest piece of a broken character counts once. -/

namespace CodeWindow.Text

/-- A character under way: the bits read so far, the bytes it still owes, and the bounds of the
next byte. -/
structure Utf8Pending where
  bits : Nat
  owed : Nat
  low : Nat
  high : Nat

/-- Where a reader of UTF-8 stands after some bytes: the characters read, latest first, and the
character under way. -/
structure Utf8Reader where
  done : List Char
  pending : Option Utf8Pending

/-- The character that stands for a broken piece of UTF-8. -/
def replacement : Char := Char.ofNat 0xFFFD

namespace Utf8Reader

/-- Reads a byte between characters. -/
def lead (done : List Char) (byte : Nat) : Utf8Reader :=
  if byte < 0x80 then ⟨Char.ofNat byte :: done, none⟩
  else if 0xC2 ≤ byte && byte ≤ 0xDF then ⟨done, some ⟨byte - 0xC0, 1, 0x80, 0xBF⟩⟩
  else if byte == 0xE0 then ⟨done, some ⟨0, 2, 0xA0, 0xBF⟩⟩
  else if byte == 0xED then ⟨done, some ⟨0xD, 2, 0x80, 0x9F⟩⟩
  else if 0xE1 ≤ byte && byte ≤ 0xEF then ⟨done, some ⟨byte - 0xE0, 2, 0x80, 0xBF⟩⟩
  else if byte == 0xF0 then ⟨done, some ⟨0, 3, 0x90, 0xBF⟩⟩
  else if 0xF1 ≤ byte && byte ≤ 0xF3 then ⟨done, some ⟨byte - 0xF0, 3, 0x80, 0xBF⟩⟩
  else if byte == 0xF4 then ⟨done, some ⟨4, 3, 0x80, 0x8F⟩⟩
  else ⟨replacement :: done, none⟩

/-- Reads one byte. -/
def step (reader : Utf8Reader) (byte : UInt8) : Utf8Reader :=
  let n := byte.toNat
  match reader.pending with
  | none => lead reader.done n
  | some p =>
    if p.low ≤ n && n ≤ p.high then
      let bits := p.bits * 64 + (n - 0x80)
      if p.owed ≤ 1 then ⟨Char.ofNat bits :: reader.done, none⟩
      else ⟨reader.done, some ⟨bits, p.owed - 1, 0x80, 0xBF⟩⟩
    else lead (replacement :: reader.done) n

/-- The characters once the bytes end; a character under way is a broken piece. -/
def finish (reader : Utf8Reader) : List Char :=
  match reader.pending with
  | none => reader.done.reverse
  | some _ => (replacement :: reader.done).reverse

end Utf8Reader

/-- The characters of bytes, with a replacement character for each broken piece. -/
def lenientUtf8 (bytes : List UInt8) : List Char :=
  (bytes.foldl Utf8Reader.step ⟨[], none⟩).finish

end CodeWindow.Text
