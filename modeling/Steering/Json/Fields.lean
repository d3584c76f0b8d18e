import Steering.Json.Basic

/-!
# Records as JSON

A record is read from an object, whose other members are passed over, or from an array of the
fields in their order. Optional fields may be missing or null. An array may be shorter than the
list of fields if the rest may be missing. A field given twice is an error.

A choice between names is read from a string, or from an object with the name as its only key and
null as its value.
-/

namespace Steering.Json

/-- The fields found for a record with the given field names. -/
def fields? (names : List String) : Json → Option (List (String × Json))
  | .object members =>
    if names.all fun name => (members.filter (·.1 = name)).length ≤ 1 then some members else none
  | .array items => if items.length ≤ names.length then some (names.zip items) else none
  | _ => none

def required (fields : List (String × Json)) (name : String) (read : Json → Option α) : Option α :=
  (member? fields name).bind read

/-- A field that may be missing or null. -/
def optional (fields : List (String × Json)) (name : String) (read : Json → Option α) :
    Option (Option α) :=
  match member? fields name with
  | none | some .null => some none
  | some value => (read value).map some

/-- A field that stands for `default` if it is missing. -/
def defaulted (fields : List (String × Json)) (name : String) (default : α)
    (read : Json → Option α) : Option α :=
  match member? fields name with
  | none => some default
  | some value => read value

def asString? : Json → Option String
  | .string s => some s
  | _ => none

def asBool? : Json → Option Bool
  | .bool b => some b
  | _ => none

/-- A natural number of the given count of bits. -/
def asNat? (bits : Nat) : Json → Option Nat
  | .natural n => if n < Nat.pow 2 bits then some n else none
  | _ => none

def asList? (read : Json → Option α) : Json → Option (List α)
  | .array items => items.mapM read
  | _ => none

/-- The name that a choice is written with. -/
def asName? : Json → Option String
  | .string name => some name
  | .object [(name, .null)] => some name
  | _ => none

/-- One of the given values, by its name. -/
def asChoice? (all : List α) (name : α → String) (value : Json) : Option α :=
  (asName? value).bind fun given => all.find? fun choice => name choice = given

/-- A member of a record that is left out if it has no value. -/
def member (name : String) (write : α → Json) : Option α → List (String × Json)
  | some value => [(name, write value)]
  | none => []

def strings (items : List String) : Json := .array (items.map .string)

end Steering.Json
