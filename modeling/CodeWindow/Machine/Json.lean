import CodeWindow.Machine
import CodeWindow.Json.Record

/-! The JSON form of a machine: its architecture and pointer size, and optionally its byte order and
variant. -/

namespace CodeWindow

/-- The byte order with a name. -/
def ByteOrder.ofName? : String → Option ByteOrder
  | "little" => some .little
  | "big" => some .big
  | _ => none

/-- The name of a variant. -/
def Variant.name : Variant → String
  | .base => "base"
  | .mips32R6 => "mips32-r6"
  | .sparcV9 => "sparc-v9"

/-- The variant with a name. -/
def Variant.ofName? (text : String) : Option Variant :=
  [Variant.base, .mips32R6, .sparcV9].find? fun variant => variant.name == text

/-- The machine that a JSON value describes. -/
def Machine.ofJson? (json : Json) : Option Machine := do
  match ← Json.fields? ["arch", "ptrsize", "endian", "variant"] json with
  | [arch, pointerSize, byteOrder, variant] =>
    some {
      arch := ← Json.required? (Json.choice? Architecture.ofName?) arch
      pointerSize := ← Json.required? Json.word? pointerSize
      byteOrder := ← Json.defaulted? (Json.choice? ByteOrder.ofName?) .little byteOrder
      variant := ← Json.defaulted? (Json.choice? Variant.ofName?) .base variant }
  | _ => none

end CodeWindow
