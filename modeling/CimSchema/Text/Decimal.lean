/-!
# Decimal numerals

## Main definitions

* `decimal?` - the value of a numeral of ASCII digits, at most `limit`.
-/

namespace CimSchema.Text

/-- The value of a list of digits, read from the left. -/
def digitsValue (cs : List Char) : Nat :=
  cs.foldl (fun n c => 10 * n + (c.toNat - '0'.toNat)) 0

/-- The value of a numeral of one or more ASCII digits, with a plus sign in front or not, if it is
at most `limit`. -/
def decimal? (limit : Nat) (s : String) : Option Nat :=
  let digits := match s.toList with
    | '+' :: cs => cs
    | cs => cs
  if !digits.isEmpty && digits.all Char.isDigit && digitsValue digits ≤ limit then
    some (digitsValue digits)
  else none

end CimSchema.Text
