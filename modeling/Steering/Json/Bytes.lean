/-!
# JSON in bytes

A file of JSON need not be UTF-8 throughout: what a string holds is looked at only if the string is
read as one. A byte that belongs to no character makes the string that it is in unreadable, as half
of a surrogate pair does, and everywhere else it is an error.
-/

namespace Steering.Json

/-- The character that so many of the first bytes are, and the bytes behind it. -/
def charIn? (bytes : List UInt8) (length : Nat) : Option (Char × List UInt8) :=
  match (String.fromUTF8? ⟨(bytes.take length).toArray⟩).map String.toList with
  | some [c] => some (c, bytes.drop length)
  | _ => none

/-- The character that bytes begin with, and the bytes behind it. -/
def firstChar? (bytes : List UInt8) : Option (Char × List UInt8) :=
  [1, 2, 3, 4].findSome? (charIn? bytes)

/-- How a byte that belongs to no character is written: as half of a surrogate pair, which what
comes next cannot make whole. -/
def strayByte : List Char := ['\\', 'u', 'd', '8', '0', '0', '?']

/-- The characters of so many bytes at most, `escaped` if a backslash came last that begins an
escape. No such escape goes on with a byte that belongs to no character. -/
def charsOfBytes? (escaped : Bool) : Nat → List UInt8 → Option (List Char)
  | 0, _ | _, [] => some []
  | fuel + 1, byte :: bytes =>
    match firstChar? (byte :: bytes) with
    | some (c, rest) => (charsOfBytes? (c == '\\' && !escaped) fuel rest).map (c :: ·)
    | none =>
      if escaped then none else (charsOfBytes? false fuel bytes).map (strayByte ++ ·)

/-- The text that bytes are read as. -/
def textOfBytes? (bytes : List UInt8) : Option String :=
  (charsOfBytes? false bytes.length bytes).map String.ofList

end Steering.Json
