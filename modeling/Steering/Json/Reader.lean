import Steering.Json.Token

/-!
# Reading JSON

Reading goes through the tokens of a text and keeps a stack of the arrays and objects that are
still open. A text is read if its tokens make exactly one value.
-/

namespace Steering.Json

/-- A key of an object, `none` if it names half of a surrogate pair. -/
abbrev Key := Option String

/-- An array or object that is still open; what it has so far is latest first. -/
inductive Frame where
  | array (items : List Json)
  | object (members : List (Key × Json))
  /-- An object with the key of the member whose value is being read. -/
  | member (members : List (Key × Json)) (key : Key)

/-- What may come next. -/
inductive Phase where
  | value
  /-- A value, or the end of an array with nothing in it. -/
  | firstItem
  /-- A key, or the end of an object with nothing in it. -/
  | firstKey
  | key
  | colon
  /-- A comma, or the end of the innermost array or object. -/
  | separator
  /-- Nothing: the text holds this value. -/
  | finished (value : Json)

structure Reading where
  open_ : List Frame := []
  phase : Phase := .value

namespace Reading

/-- The object of the given members. A key that cannot be read makes it unreadable. -/
def objectOf (members : List (Key × Json)) : Json :=
  match members.mapM fun (key, value) => key.map (·, value) with
  | some members => .object members
  | none => .unreadable

/-- Puts a whole value where it belongs. -/
def complete (value : Json) : List Frame → Option Reading
  | [] => some { phase := .finished value }
  | .array items :: rest => some { open_ := .array (value :: items) :: rest, phase := .separator }
  | .member members key :: rest =>
    some { open_ := .object ((key, value) :: members) :: rest, phase := .separator }
  | .object _ :: _ => none

/-- Takes a token where a value may begin. -/
def beginValue (frames : List Frame) : Token → Option Reading
  | .openArray => some { open_ := .array [] :: frames, phase := .firstItem }
  | .openObject => some { open_ := .object [] :: frames, phase := .firstKey }
  | .string (some s) => complete (.string s) frames
  | .string none => complete .unreadable frames
  | .scalar value => complete value frames
  | _ => none

/-- Closes the innermost array or object. -/
def close : Token → List Frame → Option Reading
  | .closeArray, .array items :: rest => complete (.array items.reverse) rest
  | .closeObject, .object members :: rest => complete (objectOf members.reverse) rest
  | _, _ => none

def beginMember (key : Key) : List Frame → Option Reading
  | .object members :: rest => some { open_ := .member members key :: rest, phase := .colon }
  | _ => none

def step (r : Reading) (token : Token) : Option Reading :=
  match r.phase, token with
  | .value, token => beginValue r.open_ token
  | .firstItem, .closeArray => close .closeArray r.open_
  | .firstItem, token => beginValue r.open_ token
  | .firstKey, .closeObject => close .closeObject r.open_
  | .firstKey, .string key => beginMember key r.open_
  | .key, .string key => beginMember key r.open_
  | .colon, .colon => some { r with phase := .value }
  | .separator, .comma =>
    match r.open_ with
    | .array _ :: _ => some { r with phase := .value }
    | .object _ :: _ => some { r with phase := .key }
    | _ => none
  | .separator, token => close token r.open_
  | _, _ => none

/-- The value that has been read, if it is whole. -/
def result? (r : Reading) : Option Json :=
  match r.phase with
  | .finished value => some value
  | _ => none

end Reading

/-- The value of a list of tokens. -/
def ofTokens? (tokens : List Token) : Option Json :=
  (tokens.foldlM Reading.step {}).bind Reading.result?

/-- The value of a JSON text, or nothing if the text is not JSON. -/
def parse? (text : String) : Option Json := (tokens? text).bind ofTokens?

end Steering.Json
