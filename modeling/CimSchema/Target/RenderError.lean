import CimSchema.Target.Language

/-!
# Errors of writing one class

## Main definitions

* `RenderError` - what can go wrong when a class is written in a language.
* `RenderError.ofList` - several errors of one class as one.
* `RenderError.toError` - the error as an error of the run.
-/

namespace CimSchema

/-- What can go wrong when a class is written in a language. -/
inductive RenderError where
  /-- A type that the language has no entry for, and the class or member that uses it. -/
  | unmapped (typeName : String) (language : Language) (referrer : String)
  | template (text : String)
  | io (reason : String)
  /-- Several errors of one class. -/
  | multiple (errors : List RenderError)
  deriving Repr

namespace RenderError

mutual

/-- The error as it is put to the user. -/
def message : RenderError → String
  | unmapped typeName language referrer =>
    s!"No {language.name} mapping for type '{typeName}' (used by '{referrer}')"
  | template text => "Template error: " ++ text
  | io reason => "I/O error: " ++ reason
  | multiple errors => "; ".intercalate (messages errors)

/-- The errors of a list as they are put to the user. -/
def messages : List RenderError → List String
  | [] => []
  | e :: es => message e :: messages es

end

/-- Several errors of one class as one, if there are any; one error stands for itself. -/
def ofList : List RenderError → Option RenderError
  | [] => none
  | [e] => some e
  | errors => some (multiple errors)

mutual

/-- The error as an error of the run. -/
def toError : RenderError → Error
  | unmapped typeName language referrer => .unmappedType typeName language.name referrer
  | template text => .generation (message (template text))
  | io reason => .io reason
  | multiple errors => .multiple (toErrors errors)

/-- The errors of a list as errors of the run. -/
def toErrors : List RenderError → List Error
  | [] => []
  | e :: es => toError e :: toErrors es

end

end RenderError

end CimSchema
