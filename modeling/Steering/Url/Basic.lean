import Steering.Url.Host

/-!
# Web addresses

Addresses of web pages, as a browser takes them: blanks around the address and line ends in it do
not count, slashes after the scheme may lean either way and be any number, and what follows the
host and its number is not looked at.
-/

namespace Steering.Url

/-- The address of a web page, as far as it says which server to ask. -/
structure WebAddress where
  /-- Whether the scheme is `https`, not `http`. -/
  secure : Bool
  host : Host
  /-- The number of the service at the host, if one is given. -/
  service : Option Nat
deriving Repr, DecidableEq

/-- The text without blanks and controls around it, and without tabs and line ends. -/
def clean (cs : List Char) : List Char :=
  let isEdge := fun c : Char => c.toNat ≤ 32
  let trimmed := ((cs.dropWhile isEdge).reverse.dropWhile isEdge).reverse
  trimmed.filter fun c => c != '\t' && c != '\n' && c != '\r'

/-- The scheme in front of a colon, in lowercase, and what follows. -/
def readScheme (cs : List Char) : Option (String × List Char) :=
  let isSchemeChar := fun c : Char => c.isAlphanum || c == '+' || c == '-' || c == '.'
  match cs.head?, cs.dropWhile isSchemeChar with
  | some first, ':' :: rest =>
    if first.isAlpha then some (String.ofList ((cs.takeWhile isSchemeChar).map Char.toLower), rest)
    else none
  | _, _ => none

def isSlash (c : Char) : Bool := c == '/' || c == '\\'

/-- What comes after the last at sign, where the name of a user may come before it. -/
def dropUser (cs : List Char) : List Char := (cs.reverse.takeWhile (· != '@')).reverse

/-- The host up to a colon outside brackets, and the rest. -/
def splitHost (bracketed : Bool) : List Char → List Char × List Char
  | [] => ([], [])
  | c :: rest =>
    if c = ':' ∧ !bracketed then ([], c :: rest)
    else
      let bracketed := if c = '[' then true else if c = ']' then false else bracketed
      let (host, rest) := splitHost bracketed rest
      (c :: host, rest)

/-- The number after the host and a colon. A colon alone gives none. -/
def readService : List Char → Option (Option Nat)
  | [] | [':'] => some none
  | ':' :: digits => (Text.numeral? 10 65536 digits).map some
  | _ => none

/-- Reads the address of a web page. -/
def WebAddress.parse? (text : String) : Option WebAddress := do
  let (scheme, rest) ← readScheme (clean text.toList)
  let secure ← match scheme with
    | "http" => some false
    | "https" => some true
    | _ => none
  let authority := (rest.dropWhile isSlash).takeWhile fun c =>
    !isSlash c && c != '?' && c != '#'
  let (host, rest) := splitHost false (dropUser authority)
  some { secure, host := ← Host.ofText? host, service := ← readService rest }

/-- Whether a text is the address of a web page. -/
def isWebAddress (text : String) : Bool := (WebAddress.parse? text).isSome

end Steering.Url
