/-! JSON values as a reader of records needs them. A number is known by its value only when it is a
natural number written with digits alone; a string is known by its text only when every escape in
it names a character. Members keep their order and repetitions. -/

namespace CodeWindow

/-- A JSON value. -/
inductive Json where
  | null
  | bool (value : Bool)
  /-- A number; `none` for one written with a sign, a fraction or an exponent. -/
  | number (natural : Option Nat)
  /-- A string; `none` for one that escapes half of a surrogate pair. -/
  | string (text : Option String)
  | array (items : List Json)
  | object (members : List (Option String × Json))

end CodeWindow
