/-!
# Identifiers made from names

## Main definitions

* `avoidWords` - an underscore in front of a reserved word.
* `cleanName` - a name with an underscore for each character that is no ASCII letter or digit.
* `identifier` - a cleaned name that starts with no digit and is no reserved word.
-/

namespace CimSchema.Text

/-- `name`, with an underscore in front if it is one of the words `reserved`. -/
def avoidWords (reserved : List String) (name : String) : String :=
  if reserved.contains name then "_" ++ name else name

/-- `name` with an underscore for each character that is no ASCII letter or digit. -/
def cleanName (name : String) : String :=
  String.ofList (name.toList.map fun c => if c.isAlphanum then c else '_')

/-- An identifier for `name` in a language with the words `reserved`. -/
def identifier (reserved : List String) (name : String) : String :=
  let cleaned := cleanName name
  match cleaned.toList with
  | c :: _ => if c.isDigit then "_" ++ cleaned else avoidWords reserved cleaned
  | [] => avoidWords reserved cleaned

end CimSchema.Text
