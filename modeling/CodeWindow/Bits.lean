/-! Words of a given width, held in the low bits of a 64-bit word. A width of 64 or more means all
bits. Shift amounts are arbitrary numbers: a left or logical right shift by 64 or more leaves zero,
an arithmetic one leaves the sign, and a rotation counts modulo the width. -/

namespace CodeWindow.Bits

/-- The word whose low `width` bits are set. -/
def mask (width : Nat) : UInt64 :=
  if width ≥ 64 then 0xFFFFFFFFFFFFFFFF else (1 <<< UInt64.ofNat width) - 1

/-- The low `width` bits of a word read as two's complement. -/
def toSigned (value : UInt64) (width : Nat) : Int64 :=
  if width = 0 then 0
  else if width ≥ 64 then value.toInt64
  else
    let low := value &&& mask width
    let sign := 1 <<< UInt64.ofNat (width - 1)
    if low &&& sign ≠ 0 then (low ||| ~~~ mask width).toInt64 else low.toInt64

/-- A word shifted left; nothing is left of it from 64 on. -/
def shiftLeft (value : UInt64) (amount : Nat) : UInt64 :=
  if amount < 64 then value <<< UInt64.ofNat amount else 0

/-- A word shifted right; nothing is left of it from 64 on. -/
def shiftRight (value : UInt64) (amount : Nat) : UInt64 :=
  if amount < 64 then value >>> UInt64.ofNat amount else 0

/-- Logical shift left at a width. -/
def lsl (value : UInt64) (amount width : Nat) : UInt64 :=
  shiftLeft value amount &&& mask width

/-- Logical shift right at a width. -/
def lsr (value : UInt64) (amount width : Nat) : UInt64 :=
  shiftRight (value &&& mask width) amount

/-- Arithmetic shift right at a width. -/
def asr (value : UInt64) (amount width : Nat) : UInt64 :=
  (toSigned value width >>> Int64.ofNat (min amount 63)).toUInt64 &&& mask width

/-- Rotation to the right at a width. -/
def ror (value : UInt64) (amount width : Nat) : UInt64 :=
  if width = 0 then 0
  else
    let low := value &&& mask width
    let turn := amount % width
    if turn = 0 then low
    else (low >>> UInt64.ofNat turn ||| low <<< UInt64.ofNat (width - turn)) &&& mask width

end CodeWindow.Bits
