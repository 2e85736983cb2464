import CodeWindow.Json.Grammar
import CodeWindow.Text.Numeral

/-! Looking into JSON objects by key. A member that is absent and one that is null are the same, and
numbers may be given as numerals in texts. -/

namespace CodeWindow.Json

/-- The value of the first member with a key, unless it is null. -/
def get? (json : Json) (key : String) : Option Json :=
  match json with
  | .object members =>
    match members.find? fun member => member.1 == some key with
    | some (_, .null) => none
    | some (_, value) => some value
    | none => none
  | _ => none

/-- The text of a string. -/
def asText? : Json → Option String
  | .string text => text
  | _ => none

/-- A natural number, written as such or as a numeral in a text. -/
def asNat? : Json → Option Nat
  | .number natural => natural
  | .string (some text) => (Text.readMarkedNumeral UInt64.size text.toList).toOption
  | _ => none

/-- A word, written as a number or as a numeral in a text. -/
def asWord? (json : Json) : Option UInt64 := json.asNat?.map UInt64.ofNat

/-- A signed number, written as a number or as a numeral in a text. -/
def asSigned? : Json → Option Int64
  | .string (some text) =>
    let size? (bound : Nat) (digits : List Char) : Option Nat :=
      (Text.readNumeral 10 bound digits).toOption
    match text.toList with
    | '-' :: digits => (size? (UInt64.size / 2 + 1) digits).map fun size => Int64.ofInt (-size)
    | digits => (size? (UInt64.size / 2) digits).map fun size => Int64.ofNat size
  | .number (some n) => some (Int64.ofNat n)
  | _ => none

/-- The truth of a member; an absent one is false. -/
def flag (json : Json) (key : String) : Bool :=
  match json.get? key with
  | some (.bool value) => value
  | _ => false

/-- The text of a member. -/
def textAt? (json : Json) (key : String) : Option String := (json.get? key).bind asText?

/-- The natural number of a member. -/
def natAt? (json : Json) (key : String) : Option Nat := (json.get? key).bind asNat?

/-- The word of a member. -/
def wordAt? (json : Json) (key : String) : Option UInt64 := (json.get? key).bind asWord?

/-- The signed number of a member. -/
def signedAt? (json : Json) (key : String) : Option Int64 := (json.get? key).bind asSigned?

/-- The items of a member that is an array; an absent one has none. -/
def itemsAt (json : Json) (key : String) : List Json :=
  match json.get? key with
  | some (.array items) => items
  | _ => []

/-- The members of a member that is an object, by their keys; an absent one has none. -/
def membersAt (json : Json) (key : String) : List (String × Json) :=
  match json.get? key with
  | some (.object members) =>
    members.filterMap fun member => member.1.map fun name => (name, member.2)
  | _ => []

end CodeWindow.Json
