/-!
# Numerals

A numeral is an optional plus sign followed by one or more ASCII digits and nothing else; leading zeros are allowed.
-/

namespace TaskCoordination.Text

/-- The number that a list of digits denotes, most significant digit first. -/
def digitsValue (digits : List Char) : Nat :=
  digits.foldl (fun n c => 10 * n + (c.toNat - '0'.toNat)) 0

def unsigned (cs : List Char) : List Char :=
  match cs with
  | '+' :: rest => rest
  | _ => cs

/-- Reads a numeral of at most `limit`. -/
def readNumeral? (limit : Nat) (s : String) : Option Nat :=
  let digits := unsigned s.toList
  if digits ≠ [] ∧ digits.all Char.isDigit ∧ digitsValue digits ≤ limit then
    some (digitsValue digits)
  else
    none

end TaskCoordination.Text
