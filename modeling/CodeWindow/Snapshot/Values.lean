import CodeWindow.Error
import CodeWindow.Text.Blank
import CodeWindow.Text.Utf8

/-! The values written in a snapshot: numbers, the bytes of a region, and permissions. -/

namespace CodeWindow.Snapshot

/-- A number in a snapshot: a number of the surrounding text, or a text that holds a numeral. -/
inductive WrittenNumber where
  | word (value : Nat)
  | numeral (text : String)

/-- The word that a text denotes; blanks around the numeral do not count. -/
def readNumber (text : String) : Except SnapshotError UInt64 :=
  let numeral := Text.trim text.toList
  match Text.readMarkedNumeral UInt64.size numeral with
  | .ok value => .ok (UInt64.ofNat value)
  | .error cause => .error (.badNumber numeral cause)

/-- The word that a written number denotes. -/
def WrittenNumber.value : WrittenNumber → Except SnapshotError UInt64
  | .word n => .ok (UInt64.ofNat n)
  | .numeral written => readNumber written

/-- The byte that two characters denote in hexadecimal, given as bytes of text. -/
def readHexPair (first second : UInt8) : Except SnapshotError UInt8 :=
  match Text.readNumeral 16 256 [Char.ofNat first.toNat, Char.ofNat second.toNat] with
  | .ok value => .ok (UInt8.ofNat value)
  | .error _ => .error (.badHexByte (Text.lenientUtf8 [first, second]))

/-- The bytes that pairs of characters denote. -/
def readHexPairs : List UInt8 → Except SnapshotError (List UInt8)
  | first :: second :: rest =>
    match readHexPair first second with
    | .ok byte =>
      match readHexPairs rest with
      | .ok bytes => .ok (byte :: bytes)
      | .error cause => .error cause
    | .error cause => .error cause
  | _ => .ok []

/-- The bytes of a text. -/
def textBytes (text : String) : List UInt8 := text.toUTF8.data.toList

/-- The bytes that a text denotes in hexadecimal; blanks may stand anywhere in it. -/
def readHexBytes (text : String) : Except SnapshotError (List UInt8) :=
  let digits := (textBytes text).filter fun byte => !Text.isAsciiBlank byte
  if digits.length % 2 ≠ 0 then .error .oddHexDigits else readHexPairs digits

/-- What may be done with memory. -/
structure Permissions where
  readable : Bool
  writable : Bool
  executable : Bool
  deriving DecidableEq

/-- The permissions that a text of three characters denotes: `r`, `w` and `x` in this order, each
replaced by any other character where it is missing. -/
def readPermissions (text : String) : Except SnapshotError Permissions :=
  match textBytes text with
  | [read, write, execute] =>
    .ok ⟨read == 0x72, write == 0x77, execute == 0x78⟩
  | _ => .error (.badPermissions text.toList)

/-- The permissions of memory when a text does not denote any. -/
def Permissions.usual : Permissions := ⟨true, true, false⟩

end CodeWindow.Snapshot
