import CodeWindow.Json.Grammar

/-! Reading records from JSON. A record is an object whose members are found by name, or an array
whose items stand in the order of the fields. Members of other names are passed over; a field that
is given twice, or a key that is no text, spoils the record. -/

namespace CodeWindow.Json

/-- A number below `bound` written with digits alone. -/
def naturalBelow? (bound : Nat) : Json → Option Nat
  | .number (some n) => if n < bound then some n else none
  | _ => none

/-- A number that fits a 64-bit word. -/
def word? (json : Json) : Option Nat := naturalBelow? UInt64.size json

/-- A truth value. -/
def bool? : Json → Option Bool
  | .bool value => some value
  | _ => none

/-- A text. -/
def text? : Json → Option String
  | .string text => text
  | _ => none

/-- The items of an array, each read the same way. -/
def list? {α : Type} (read : Json → Option α) : Json → Option (List α)
  | .array items => items.mapM read
  | _ => none

/-- One of several names, given as a text or as the only key of an object that holds null. -/
def choice? {α : Type} (ofName? : String → Option α) : Json → Option α
  | .string (some name) => ofName? name
  | .object [(some name, .null)] => ofName? name
  | _ => none

/-- The value of the only member with a key; `none` inside when there is no such member. -/
def member? (members : List (String × Json)) (key : String) : Option (Option Json) :=
  match members.filter fun member => member.1 == key with
  | [] => some none
  | [(_, value)] => some (some value)
  | _ => none

/-- The members of an object whose keys are all texts. -/
def namedMembers? (members : List (Option String × Json)) : Option (List (String × Json)) :=
  members.mapM fun member => member.1.map fun key => (key, member.2)

/-- The values given for the fields of a record, in the order of the fields. -/
def fields? (names : List String) : Json → Option (List (Option Json))
  | .object members =>
    match namedMembers? members with
    | some members => names.mapM (member? members)
    | none => none
  | .array items =>
    if items.length ≤ names.length then
      some (items.map some ++ List.replicate (names.length - items.length) none)
    else none
  | _ => none

/-- A field that must be given. -/
def required? {α : Type} (read : Json → Option α) : Option Json → Option α
  | some json => read json
  | none => none

/-- A field that has a default. -/
def defaulted? {α : Type} (read : Json → Option α) (default : α) : Option Json → Option α
  | some json => read json
  | none => some default

end CodeWindow.Json
