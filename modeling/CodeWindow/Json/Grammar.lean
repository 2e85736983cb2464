import CodeWindow.Json.Token

/-! The grammar of JSON. A reader takes one token at a time and keeps the containers it is inside
of, so nesting of any depth is read by a fold over the tokens. -/

namespace CodeWindow.Json

/-- A container under way, with its contents latest first. -/
inductive Container where
  | array (items : List Json)
  /-- An object, with the key whose value comes next. -/
  | object (members : List (Option String × Json)) (key : Option String)

/-- What a reader takes next. -/
inductive Expecting where
  | value
  | valueOrEnd
  | key
  | keyOrEnd
  | colon
  | commaOrEnd
  | nothing
  deriving DecidableEq

/-- A reader: the containers it is inside of, innermost first, what it takes next, and the value
once it is complete. -/
structure Reader where
  inside : List Container := []
  expecting : Expecting := .value
  result : Json := .null

namespace Reader

/-- Takes a complete value into the innermost container. -/
def complete (inside : List Container) (value : Json) : Reader :=
  match inside with
  | [] => { expecting := .nothing, result := value }
  | .array items :: outer =>
    { inside := .array (value :: items) :: outer, expecting := .commaOrEnd }
  | .object members key :: outer =>
    { inside := .object ((key, value) :: members) key :: outer, expecting := .commaOrEnd }

/-- Takes a token where a value starts. -/
def startValue (inside : List Container) : Token → Option Reader
  | .openBracket => some { inside := .array [] :: inside, expecting := .valueOrEnd }
  | .openBrace => some { inside := .object [] none :: inside, expecting := .keyOrEnd }
  | .scalar value => some (complete inside value)
  | _ => none

/-- Takes a token where a key starts. -/
def startKey (inside : List Container) : Token → Option Reader
  | .scalar (.string key) =>
    match inside with
    | .object members _ :: outer =>
      some { inside := .object members key :: outer, expecting := .colon }
    | _ => none
  | _ => none

/-- Closes the innermost container. -/
def close (inside : List Container) : Token → Option Reader
  | .closeBracket =>
    match inside with
    | .array items :: outer => some (complete outer (.array items.reverse))
    | _ => none
  | .closeBrace =>
    match inside with
    | .object members _ :: outer => some (complete outer (.object members.reverse))
    | _ => none
  | _ => none

/-- Takes a token after a complete item or member. -/
def continueOrClose (inside : List Container) : Token → Option Reader
  | .comma =>
    match inside with
    | .array _ :: _ => some { inside, expecting := .value }
    | .object _ _ :: _ => some { inside, expecting := .key }
    | [] => none
  | token => close inside token

/-- Takes one token. -/
def step (reader : Reader) (token : Token) : Option Reader :=
  match reader.expecting with
  | .value => startValue reader.inside token
  | .valueOrEnd =>
    match token with
    | .closeBracket => close reader.inside token
    | _ => startValue reader.inside token
  | .key => startKey reader.inside token
  | .keyOrEnd =>
    match token with
    | .closeBrace => close reader.inside token
    | _ => startKey reader.inside token
  | .colon =>
    match token with
    | .colon => some { reader with expecting := .value }
    | _ => none
  | .commaOrEnd => continueOrClose reader.inside token
  | .nothing => none

end Reader

/-- The value that tokens make, if they make exactly one. -/
def ofTokens? (tokens : List Token) : Option Json :=
  match tokens.foldlM Reader.step ({} : Reader) with
  | some reader => if reader.expecting = .nothing then some reader.result else none
  | none => none

/-- The value that a text denotes. -/
def parse? (text : String) : Option Json :=
  match tokens? text.toList with
  | some tokens => ofTokens? tokens
  | none => none

end CodeWindow.Json
