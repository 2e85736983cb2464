import CodeWindow.Context

/-! Notes that the rules of several architectures share: what a register is set to, what is
compared, what is loaded and what is stored. -/

namespace CodeWindow.Note

variable {σ : Type} [Emulator σ]

/-- What becomes of something: its text, an arrow, and the text of its new value. -/
def becomes (name value : String) : String := name ++ " => " ++ value

/-- What the first operand is set to, as a chain from its value after the instruction. -/
def registerSet (ctx : Context σ) (insn : Instruction) : Option String := do
  let operand ← insn.operands.head?
  let value ← operand.afterValue
  some (becomes operand.label
    (ctx.renderTelescope insn value (Chain.oneMore ctx.config.telescopeDepth)
      (some ctx.machine.pointerSize)))

/-- The two resolved operands with an operator between them. -/
def expression? (left right : Operand) (operator : String) : Option String :=
  match left.beforeResolved, right.beforeResolved with
  | some l, some r =>
    let (l, r) := Rendering.numberPair l r
    some (l ++ " " ++ operator ++ " " ++ r)
  | _, _ => none

/-- The flags that the emulator holds in a status register. -/
def emulatedFlags (ctx : Context σ) (register : String) : Option String := do
  let emulator ← ctx.emulator
  let flags ← Emulator.readRegister emulator register
  some (becomes (Text.upper register)
    (Rendering.flags flags (ctx.machine.arch.flagBits register)))

/-- What an instruction with two operands compares, and the flags that come of it. -/
def comparison (ctx : Context σ) (insn : Instruction) (register operator : String) :
    Option String :=
  let expression : Option String :=
    match insn.operands with
    | [left, right] => expression? left right operator
    | _ => none
  match expression, emulatedFlags ctx register with
  | some text, some flags => some (text ++ Text.spaces 5 ++ flags)
  | some text, none => some text
  | none, flags => flags

/-- What cannot be looked into. -/
def cannotDereference (address : UInt64) : String :=
  "<Cannot dereference [" ++ hexAddress address ++ "]>"

/-- What is loaded from an address, given the chain from it: the rest of the chain, or why there is
none where memory was trusted. -/
def loaded? (ctx : Context σ) (address : UInt64) : List UInt64 × Bool → Option String
  | ([], _) => none
  | ([_], trusted) => if trusted then some (cannotDereference address) else none
  | (_ :: rest, trusted) => some (ctx.renderChain rest ctx.config.telescopeDepth trusted)

/-- A load of `size` bytes from `source` into `dest`. -/
def load (ctx : Context σ) (insn : Instruction) (dest source : Operand) (size : Nat) :
    Option String := do
  let address ← source.beforeValue
  let names := dest.label ++ ", " ++ source.label
  let links := ctx.telescope insn address (Chain.oneMore ctx.config.telescopeDepth) (some size)
  match loaded? ctx address links with
  | some value => some (becomes names value)
  | none => some names

/-- The mask of the bits of so many bytes, their number taken as a 32-bit count. -/
def byteMask (size : Nat) : UInt64 := Bits.mask (size * 8 % UInt32.size)

/-- A store of the low `size` bytes of `source` to `dest`. -/
def store (ctx : Context σ) (source dest : Operand) (size : Nat) : Option String := do
  let _ ← dest.beforeValue
  let value ← source.beforeResolved
  some (becomes dest.label
    (Rendering.addressAndSymbol ctx.process.symbolAt (value &&& byteMask size)))

end CodeWindow.Note
