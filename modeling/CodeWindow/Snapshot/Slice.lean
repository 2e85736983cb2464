import CodeWindow.Bits
import CodeWindow.Machine
import CodeWindow.Text.Numeral

/-! Slices of registers. A snapshot may hold a register at its full width only; a narrower name of
the same register is then a slice of it, and some names are aliases of others. For each name the
candidates are tried in order. -/

namespace CodeWindow

/-- `width` bits of a register, from bit `shift` on. -/
structure RegisterSlice where
  register : String
  shift : Nat
  width : Nat
  deriving DecidableEq

namespace RegisterSlice

/-- The bits of a slice in the value of its register. -/
def extract (slice : RegisterSlice) (value : UInt64) : UInt64 :=
  Bits.shiftRight value slice.shift &&& Bits.mask slice.width

/-- The general registers of the x86 family by their 16-bit names. -/
def x86General : List (List Char) :=
  ["ax", "bx", "cx", "dx", "si", "di", "bp", "sp"].map String.toList

/-- The 16-bit names that have wider forms: the general registers and the program counter. -/
def isX86Stem (name : List Char) : Bool := x86General.contains name || name == ['i', 'p']

/-- A register name with letters put before it. -/
def named (letters : String) (name : List Char) : String := letters ++ String.ofList name

/-- A numbered register: a decimal numeral below 256. -/
def isRegisterNumber (name : List Char) : Bool := (Text.readNumeral 10 256 name).isOk

/-- The bytes of the registers `a` to `d`: `al` is the low one, `ah` the next. -/
def x86HalfCandidates : List Char → List RegisterSlice
  | [c, half] =>
    if 'a' ≤ c && c ≤ 'd' && (half == 'l' || half == 'h') then
      let shift := if half == 'h' then 8 else 0
      [⟨named "r" [c, 'x'], shift, 8⟩, ⟨named "e" [c, 'x'], shift, 8⟩]
    else []
  | _ => []

/-- The low bytes of the pointer and index registers: `sil`, `dil`, `bpl`, `spl`. -/
def x86LowByteCandidates (name : List Char) : List RegisterSlice :=
  let stem := name.dropLast
  if name.getLast? == some 'l' &&
      (stem == ['s', 'i'] || stem == ['d', 'i'] || stem == ['b', 'p'] || stem == ['s', 'p']) then
    [⟨named "r" stem, 0, 8⟩]
  else []

/-- The narrow forms of the numbered registers: `r8d`, `r8w`, `r8b`. -/
def x86NumberedCandidates : List Char → List RegisterSlice
  | 'r' :: rest =>
    let number := rest.dropLast
    let width : Option Nat :=
      match rest.getLast? with
      | some 'd' => some 32
      | some 'w' => some 16
      | some 'b' => some 8
      | _ => none
    match width with
    | some width => if isRegisterNumber number then [⟨named "r" number, 0, width⟩] else []
    | none => []
  | _ => []

/-- The slices that show a register of the x86 family. -/
def x86Candidates (name : List Char) : List RegisterSlice :=
  let wide : List RegisterSlice :=
    match name with
    | 'e' :: stem => if isX86Stem stem then [⟨named "r" stem, 0, 32⟩] else []
    | _ => []
  if !wide.isEmpty then wide
  else if isX86Stem name then [⟨named "r" name, 0, 16⟩, ⟨named "e" name, 0, 16⟩]
  else
    match x86HalfCandidates name with
    | [] =>
      match x86LowByteCandidates name with
      | [] => x86NumberedCandidates name
      | slices => slices
    | slices => slices

/-- The slices that show a register of AArch64: the aliases of the link and frame registers, and
the low words `w0`, `w1`, … -/
def aarch64Candidates (name : List Char) : List RegisterSlice :=
  match String.ofList name with
  | "lr" => [⟨"x30", 0, 64⟩]
  | "x30" => [⟨"lr", 0, 64⟩]
  | "fp" => [⟨"x29", 0, 64⟩]
  | "x29" => [⟨"fp", 0, 64⟩]
  | _ =>
    match name with
    | 'w' :: number => if isRegisterNumber number then [⟨named "x" number, 0, 32⟩] else []
    | _ => []

/-- The slices that show a register of 32-bit ARM: the names of the special registers. -/
def armCandidates (name : String) : List RegisterSlice :=
  match name with
  | "lr" => [⟨"r14", 0, 32⟩]
  | "sp" => [⟨"r13", 0, 32⟩]
  | "pc" => [⟨"r15", 0, 32⟩]
  | "fp" | "r11" => [⟨"r11", 0, 32⟩, ⟨"fp", 0, 32⟩]
  | _ => []

/-- The slices that may show a register, given by its lower-case name. -/
def candidates (arch : Architecture) (name : String) : List RegisterSlice :=
  if arch.isX86 then x86Candidates name.toList
  else if arch = .aarch64 then aarch64Candidates name.toList
  else if arch.isArm then armCandidates name
  else []

end RegisterSlice

end CodeWindow
