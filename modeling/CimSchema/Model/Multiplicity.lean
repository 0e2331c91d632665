import CimSchema.Text.Decimal
import CimSchema.Text.Segment

/-!
# Multiplicities

How many values a member has. Schemas write a multiplicity as a token such as `M:0..1`, often as
the fragment of an identifier.

## Main definitions

* `Multiplicity` - one, at most one, or many.
* `Multiplicity.ofToken` - what a token means.
-/

namespace CimSchema

/-- How many values a member has. -/
inductive Multiplicity where
  /-- Exactly one. -/
  | single
  /-- None or one. -/
  | optional
  /-- Any number. -/
  | list
  deriving DecidableEq, Repr

namespace Multiplicity

/-- The greatest upper bound that is read as a number. -/
def maxBound : Nat := 4294967295

/-- What a token means. Only the part after the last `#` counts, without `M:` at its start. Upper
bounds `n`, `*` and numbers from two up mean many, a lone one and `1..1` exactly one, and all
else at most one. -/
def ofToken : Option String → Multiplicity
  | none => optional
  | some raw =>
    let fragment := Text.afterLast "#" raw
    let token := (Text.stripStart? "M:" fragment).getD fragment
    let bound := Text.afterLast ".." token
    if bound = "n" ∨ bound = "*" then list
    else if token = "1" ∨ token = "1..1" then single
    else
      match Text.decimal? maxBound bound with
      | some n => if 1 < n then list else optional
      | none => optional

/-- The bounds, as documentation shows them. -/
def bounds : Multiplicity → String
  | single => "1..1"
  | optional => "0..1"
  | list => "0..n"

/-- Whether there may be several values. -/
def isList (m : Multiplicity) : Bool :=
  m = list

end Multiplicity

end CimSchema
