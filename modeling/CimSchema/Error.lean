/-!
# Errors of a run

A run collects errors instead of stopping at the first one. Several errors are kept together as
one `multiple` error, which may hold further ones.

## Main definitions

* `Error` - what can go wrong, and `Error.message`, how it is put to the user.
* `Error.leaves` - the single errors of an error, from left to right.
* `Error.ofList` - a list of errors as the outcome of a step.
-/

namespace CimSchema

/-- What can go wrong in a run. -/
inductive Error where
  /-- A schema that cannot be read. -/
  | malformedSchema (location message : String)
  /-- Classes that are their own ancestors; the first name stands again at the end. -/
  | cyclicInheritance (cycle : List String)
  /-- A name that is neither declared nor inferred, and the class or member that uses it. -/
  | unresolvedReference (identifier referrer : String)
  /-- A type that the target language has no entry for. -/
  | unmappedType (typeName language referrer : String)
  | unknownLanguage (name : String)
  | profile (message : String)
  | config (message : String)
  /-- A file that cannot be read or written. The reason is the operating system's. -/
  | io (reason : String)
  | serialization (text : String)
  | generation (message : String)
  /-- Several errors of one run. -/
  | multiple (errors : List Error)
  deriving Repr, Inhabited

namespace Error

/-- An error as it is put to the user. -/
def message : Error → String
  | malformedSchema location text => s!"Malformed schema at {location}: {text}"
  | cyclicInheritance cycle => "Cyclic inheritance: " ++ " → ".intercalate cycle
  | unresolvedReference identifier referrer =>
    s!"Unresolved reference to '{identifier}' from '{referrer}'"
  | unmappedType typeName language referrer =>
    s!"No {language} mapping for type '{typeName}' (used by '{referrer}')"
  | unknownLanguage name => s!"Unknown target language '{name}'"
  | profile text => "Profile error: " ++ text
  | config text => "Configuration error: " ++ text
  | io reason => "IO error: " ++ reason
  | serialization text => "Serialization error: " ++ text
  | generation text => "Code generation failed: " ++ text
  | multiple errors => s!"{errors.length} errors occurred"

mutual

/-- The single errors of an error, from left to right. -/
def leaves : Error → List Error
  | multiple errors => leavesList errors
  | malformedSchema location text => [malformedSchema location text]
  | cyclicInheritance cycle => [cyclicInheritance cycle]
  | unresolvedReference identifier referrer => [unresolvedReference identifier referrer]
  | unmappedType typeName language referrer => [unmappedType typeName language referrer]
  | unknownLanguage name => [unknownLanguage name]
  | profile text => [profile text]
  | config text => [config text]
  | io reason => [io reason]
  | serialization text => [serialization text]
  | generation text => [generation text]

/-- The single errors of a list of errors, from left to right. -/
def leavesList : List Error → List Error
  | [] => []
  | e :: es => leaves e ++ leavesList es

end

/-- The outcome of a step that collected `errors`: success if there are none, and one error stands
for itself. -/
def ofList : List Error → Except Error Unit
  | [] => .ok ()
  | [e] => .error e
  | errors => .error (multiple errors)

end Error

end CimSchema
