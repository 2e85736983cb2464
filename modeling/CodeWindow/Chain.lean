import CodeWindow.Process
import CodeWindow.Rendering

/-! Pointer chains. A chain follows the pointers that memory holds from an address on, until memory
cannot be read or a value comes back; it is shown link by link, and its last link with the string
that lies there. -/

namespace CodeWindow.Chain

/-- What stands between two links of a shown chain. -/
def arrow : String := " —▸ "

/-- What stands between the last link and the string at it. -/
def stringArrow : String := " ◂— "

/-- One more than a count of links or characters. Counts have 64 bits, so zero follows the greatest
one. -/
def oneMore (count : Nat) : Nat := (count + 1) % UInt64.size

/-- The links of a chain after those `seen`, of which `current` is the last: at most as many as the
first argument says, and none after one that was seen before. -/
def linksAfter (pointer? : UInt64 → Option UInt64) : Nat → List UInt64 → UInt64 → List UInt64
  | 0, _, _ => []
  | limit + 1, seen, current =>
    match pointer? current with
    | none => []
    | some value =>
      if seen.contains value then [value]
      else value :: linksAfter pointer? limit (value :: seen) value

/-- The chain from an address over at most `limit` pointers. -/
def follow (pointer? : UInt64 → Option UInt64) (address : UInt64) (limit : Nat) : List UInt64 :=
  address :: linksAfter pointer? limit [address] address

/-- The chain from an address through the memory of a process. -/
def ofProcess (process : Process) (address : UInt64) (limit : Nat) : List UInt64 :=
  follow process.pointer? address limit

/-- A byte of a shown string: visible ASCII, a space, a tab or a line feed. -/
def isShown (byte : UInt8) : Bool :=
  (0x20 ≤ byte && byte ≤ 0x7E) || byte == 0x9 || byte == 0xA

/-- Fewer characters than this are not taken for a string. -/
def leastString : Nat := 2

/-- The string that bytes begin with, between quotes and cut to `maxLength` characters, if they look
like one. -/
def stringOf? (bytes : List UInt8) (maxLength : Nat) : Option String :=
  let text := bytes.takeWhile fun byte => byte != 0
  if text.length < leastString || !text.all isShown then none
  else
    let shown := Text.preview ((text.take maxLength).map fun byte => Char.ofNat byte.toNat)
    some ("'" ++ shown ++ if text.length > maxLength then "'..." else "'")

/-- The string that lies at an address. -/
def stringAt? (process : Process) (address : UInt64) (maxLength : Nat) : Option String :=
  if maxLength = 0 || address &&& process.machine.pointerMask ≠ address then none
  else
    match process.read .upTo address (oneMore maxLength) with
    | .ok bytes => stringOf? bytes maxLength
    | .error _ => none

/-- The last link of a shown chain, with the string at it where memory may be looked into. -/
def renderLast (process : Process) (address : UInt64) (canDereference : Bool) (maxLength : Nat) :
    String :=
  let text := Rendering.addressAndSymbol process.symbolAt address
  match if canDereference then stringAt? process address maxLength else none with
  | some string => text ++ stringArrow ++ string
  | none => text

/-- The text of links, the last of which is shown with its string. -/
def renderLinks (process : Process) (canDereference : Bool) (maxLength : Nat) :
    List UInt64 → List String
  | [] => []
  | [last] => [renderLast process last canDereference maxLength]
  | link :: rest =>
    Rendering.addressAndSymbol process.symbolAt link ::
      renderLinks process canDereference maxLength rest

/-- The text of a chain: its first links, one more than `limit`, and an ellipsis when it has more.
Where no link is shown there is no text. -/
def render (process : Process) (addresses : List UInt64) (limit : Nat) (canDereference : Bool)
    (maxLength : Nat) : String :=
  match renderLinks process canDereference maxLength (addresses.take (oneMore limit)) with
  | [] => ""
  | shown =>
    arrow.intercalate (if addresses.length > oneMore limit then shown ++ ["..."] else shown)

end CodeWindow.Chain
