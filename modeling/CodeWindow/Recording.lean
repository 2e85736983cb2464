import CodeWindow.Decoder.Listing
import CodeWindow.Json.Access
import CodeWindow.Snapshot.Values
import CodeWindow.Symbol

/-! Recorded answers of the tools that read machine code and object files. A recording is JSON; a
request that it does not hold has no answer. -/

namespace CodeWindow

namespace Encoding

/-- The name of a byte order. -/
def orderName : ByteOrder → String
  | .little => "little"
  | .big => "big"

/-- The names under which an encoding is recorded: architecture, mode, extra modes, and byte
order. -/
def names : Encoding → String × String × List String × Option String
  | .x86 bits => ("x86", Text.decimal bits, [], none)
  | .arm thumb mClass order =>
    ("arm", if thumb then "thumb" else "arm", if mClass then ["mclass"] else [],
      some (orderName order))
  | .aarch64 order => ("arm64", "arm", [], some (orderName order))
  | .mips32 order => ("mips", "mips32", [], some (orderName order))
  | .mips64 order => ("mips", "mips64", [], some (orderName order))
  | .mips32R6 order => ("mips", "mips32r6", [], some (orderName order))
  | .sparc v9 => ("sparc", if v9 then "v9" else "default", [], none)
  | .powerPc bits order => ("ppc", Text.decimal bits, [], some (orderName order))
  | .riscv bits => ("riscv", "riscv" ++ Text.decimal bits, ["c"], none)

end Encoding

namespace Recording

/-- The bytes of a text of hexadecimal digits. -/
def bytes? (json : Json) : Option (List UInt8) :=
  json.asText?.bind fun text => (Snapshot.readHexBytes text).toOption

/-- The extension with a name. -/
def extend? : String → Option Extend
  | "uxtb" => some .uxtb
  | "uxth" => some .uxth
  | "uxtw" => some .uxtw
  | "uxtx" => some .uxtx
  | "sxtb" => some .sxtb
  | "sxth" => some .sxth
  | "sxtw" => some .sxtw
  | "sxtx" => some .sxtx
  | _ => none

/-- The kind of shift with a name. -/
def shiftKind? : String → Option ShiftKind
  | "lsl" => some .lsl
  | "lsr" => some .lsr
  | "asr" => some .asr
  | "ror" => some .ror
  | _ => none

/-- A shift, given as its name and its amount. -/
def listedShift (json : Json) : Listing.ListedShift :=
  match json with
  | .array [.string (some name), amount] =>
    match shiftKind? name, amount.asNat? with
    | some kind, some amount => .constant { kind, amount }
    | _, _ => .other
  | _ => .other

/-- What an operand names. -/
def listedKind (json : Json) : Listing.ListedKind :=
  match json.textAt? "type" with
  | some "reg" => .register (json.textAt? "reg")
  | some "imm" =>
    match json.signedAt? "imm" with
    | some value => .immediate value
    | none => .other
  | some "mem" =>
    .memory {
      segment := json.textAt? "segment", base := json.textAt? "base",
      index := json.textAt? "index", scale := (json.signedAt? "scale").getD 0,
      disp := (json.signedAt? "disp").getD 0 }
  | _ => .other

/-- An operand. -/
def listedOperand (json : Json) : Listing.ListedOperand where
  kind := listedKind json
  size := (json.natAt? "size").getD 0
  shift := (json.get? "shift").map listedShift
  extend := (json.textAt? "ext").bind extend?
  subtracted := json.flag "subtracted"

/-- A listed instruction. -/
def listing (json : Json) : Listing where
  size := (json.natAt? "size").getD 0
  mnemonic := (json.textAt? "mnemonic").getD ""
  operandText := (json.textAt? "op_str").getD ""
  groups := (json.itemsAt "groups").filterMap Json.asNat?
  operands := (json.itemsAt "operands").map listedOperand

/-- A request with its answer. -/
structure Entry where
  names : String × String × List String × Option String
  code : List UInt8
  address : UInt64
  answer : Option Listing

/-- A recorded request with its answer. -/
def entry? (json : Json) : Option Entry := do
  some {
    names := (← json.textAt? "arch", ← json.textAt? "mode",
      (json.itemsAt "extra").filterMap Json.asText?, json.textAt? "endian")
    code := ← (json.get? "code").bind bytes?
    address := ← json.wordAt? "address"
    answer := (json.get? "insn").map listing }

/-- The disassembler that answers from recorded entries. -/
def disassembler (entries : List Entry) : Disassembler := fun encoding code address =>
  (entries.find? fun entry =>
    entry.names == encoding.names && entry.code == code && entry.address == address).bind
      Entry.answer

/-- The disassembler of the entries in an array. -/
def disassemblerOf (items : List Json) : Disassembler := disassembler (items.filterMap entry?)

/-- The kind of a symbol of an object file. -/
def objectSymbolKind (name : Option String) : ObjectSymbolKind :=
  match name with
  | some "text" => .text
  | some "data" => .data
  | _ => .other

/-- A symbol of an object file. -/
def objectSymbol (json : Json) : ObjectSymbol where
  kind := objectSymbolKind (json.textAt? "kind")
  name := json.textAt? "name"
  address := (json.wordAt? "address").getD 0
  size := (json.wordAt? "size").getD 0

/-- The symbols of an object file; null stands for a file that cannot be read. -/
def objectSymbols? : Option Json → Option (List ObjectSymbol)
  | some (.array items) => some (items.map objectSymbol)
  | _ => none

/-- The readable forms of names, each given by the schemes under two keys. -/
def demanglerOf (members : List (String × Json)) (hashedKey itaniumKey : String) : Demangler where
  hashed name := (members.lookup name).bind fun json => json.textAt? hashedKey
  itanium name := (members.lookup name).bind fun json => json.textAt? itaniumKey

end Recording

end CodeWindow
