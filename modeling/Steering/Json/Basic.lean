/-!
# JSON values

A value is what a JSON text says, with object members in the order of the text and repeated keys
kept. Natural numbers are told apart from all other numbers, which are kept as they were written.
-/

namespace Steering

inductive Json where
  | null
  | bool (b : Bool)
  | natural (n : Nat)
  /-- A number with a sign, a fraction or an exponent, as written. -/
  | number (literal : String)
  | string (s : String)
  | array (items : List Json)
  | object (members : List (String × Json))
  /-- A string, or an object with a key, that names half of a surrogate pair. Such a text is well
  formed, but it stands for no characters. -/
  | unreadable
deriving Inhabited

namespace Json

def member? (members : List (String × Json)) (key : String) : Option Json :=
  match members with
  | [] => none
  | (k, v) :: rest => if k = key then some v else member? rest key

/-- The member of an object with the given key. -/
def get? (key : String) : Json → Option Json
  | .object members => member? members key
  | _ => none

end Json

end Steering
