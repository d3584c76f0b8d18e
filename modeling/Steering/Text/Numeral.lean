import Steering.Text.CodeSet

/-!
# Numerals

Natural numbers written in a base up to sixteen.
-/

namespace Steering.Text

/-- The number that digits of a base stand for; no digits are zero. -/
def digitsValue? (base : Nat) (digits : List Char) : Option Nat :=
  digits.foldlM (fun n c => do
    let d ← CodeSet.hexDigit? c
    if d < base then some (n * base + d) else none) 0

/-- The number below a bound that one or more digits of a base stand for. -/
def numeral? (base bound : Nat) (digits : List Char) : Option Nat :=
  if digits.isEmpty then none
  else (digitsValue? base digits).filter fun n => decide (n < bound)

/-- The number below a bound that is written in decimal, after a plus sign or without one. -/
def decimal? (bound : Nat) : List Char → Option Nat
  | '+' :: digits => numeral? 10 bound digits
  | digits => numeral? 10 bound digits

end Steering.Text
