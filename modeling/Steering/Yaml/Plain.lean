import Steering.Text.Numeral

/-!
# What plain scalars mean

A plain scalar is a text unless it is written like something else: nothing, a truth value, an
integer or a number with a fraction. Digits with a zero in front are a text again.
-/

namespace Steering.Yaml

/-- Words for no value. -/
def isNull (text : String) : Bool := ["null", "Null", "NULL", "~"].contains text

def isTruth (text : String) : Bool :=
  ["true", "True", "TRUE", "false", "False", "FALSE"].contains text

/-- Holds of digits with a zero in front, after a sign or without one. -/
def isPadded (cs : List Char) : Bool :=
  let digits := match cs with
    | '-' :: rest | '+' :: rest => rest
    | _ => cs
  1 < digits.length && digits.head? == some '0' && digits.all Char.isDigit

/-- The number below a bound that an integer without a sign stands for: in base 16, 8 or 2 after
a zero and a letter, else in base 10. -/
def unsigned? (bound : Nat) : List Char → Option Nat
  | '0' :: 'x' :: digits => Text.numeral? 16 bound digits
  | '0' :: 'o' :: digits => Text.numeral? 8 bound digits
  | '0' :: 'b' :: digits => Text.numeral? 2 bound digits
  | digits => if isPadded digits then none else Text.numeral? 10 bound digits

/-- The number below a bound that an integer stands for. There may be a plus sign. -/
def natural? (bound : Nat) : List Char → Option Nat
  | '+' :: digits => unsigned? bound digits
  | digits => unsigned? bound digits

/-- Whether a text is written like an integer of at most 128 bits. -/
def isInteger (cs : List Char) : Bool :=
  (natural? (Nat.pow 2 128) cs).isSome ||
    match cs with
    | '-' :: digits => (unsigned? (Nat.pow 2 127 + 1) digits).isSome
    | _ => false

/-! ### Numbers with a fraction -/

/-- A decimal number: digits, of which some may be behind a point, and an exponent. -/
structure Fraction where
  digits : List Char
  places : Nat
  exponent : Int

/-- An exponent, after its letter. -/
def exponent? : List Char → Option Int
  | '-' :: digits => (Text.decimal? (Nat.pow 10 digits.length) digits).map fun n => -(n : Int)
  | '+' :: digits => (Text.decimal? (Nat.pow 10 digits.length) digits).map Int.ofNat
  | digits => (Text.decimal? (Nat.pow 10 digits.length) digits).map Int.ofNat

def Fraction.ofText? (cs : List Char) : Option Fraction :=
  let cs := match cs with
    | '-' :: rest => rest
    | _ => cs
  let whole := cs.takeWhile Char.isDigit
  let (places, rest) := match cs.dropWhile Char.isDigit with
    | '.' :: rest => (rest.takeWhile Char.isDigit, rest.dropWhile Char.isDigit)
    | rest => ([], rest)
  let digits := whole ++ places
  if digits.isEmpty then none
  else
    match rest with
    | [] => some { digits, places := places.length, exponent := 0 }
    | c :: rest =>
      if c = 'e' ∨ c = 'E' then
        (exponent? rest).map fun exponent => { digits, places := places.length, exponent }
      else none

/-- The least number that is too large for 64 bits: half a step above the largest. -/
def fractionLimit : Nat := Nat.pow 2 1024 - Nat.pow 2 970

/-- Whether a number fits into 64 bits with a fraction. Its size is known from the exponent alone
if that is far from the limit, which has 309 digits. -/
def Fraction.isFinite (f : Fraction) : Bool :=
  match f.digits.dropWhile (· == '0') with
  | [] => true
  | digits =>
    let scale : Int := f.exponent - f.places
    let size : Int := digits.length + scale
    if size < 309 then true
    else if 309 < size then false
    else
      let n := (Text.digitsValue? 10 digits).getD 0
      match scale with
      | .ofNat k => n * Nat.pow 10 k < fractionLimit
      | .negSucc k => n < fractionLimit * Nat.pow 10 (k + 1)

/-- Whether a text is written like a number with a fraction, an infinite one or none at all. -/
def isFraction (text : String) : Bool :=
  if [".nan", ".NaN", ".NAN", "-.inf", "-.Inf", "-.INF"].contains text then true
  else
    let cs := text.toList
    let unsigned? : Option (List Char) := match cs with
      | '+' :: '+' :: _ | '+' :: '-' :: _ => none
      | '+' :: rest => some rest
      | _ => some cs
    match unsigned? with
    | none => false
    | some cs =>
      [".inf", ".Inf", ".INF"].contains (String.ofList cs) ||
        (Fraction.ofText? cs).any Fraction.isFinite

/-- Whether a text has to be quoted lest it mean something else. -/
def isAmbiguous (text : String) : Bool :=
  text.isEmpty || isNull text || isTruth text || isInteger text.toList || isPadded text.toList ||
    isFraction text

end Steering.Yaml
