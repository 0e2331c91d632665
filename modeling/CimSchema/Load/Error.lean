import CimSchema.Error

/-!
# Errors of loading

## Main definitions

* `LoadError` - why a schema file cannot be loaded, and `LoadError.message`, how it is put to the
  user.
* `LoadError.toError` - the same as an error of a run.
-/

namespace CimSchema

/-- What is wrong with the text of a schema file. -/
inductive TextFault where
  /-- The markup is not well formed. -/
  | illFormed
  | unexpectedRoot (name : String)
  | noRoot
  /-- The text ends within an element, after a number of bytes. -/
  | unclosed (bytes : Nat)
  | invalidBase (base : String)
  /-- The text makes no sense as statements. -/
  | noStatements
  deriving DecidableEq, Repr

/-- What a declaration lacks. -/
inductive RequiredField where
  | identifier
  | domain
  | type
  deriving DecidableEq, Repr

/-- Why a schema file cannot be loaded. -/
inductive LoadError where
  /-- The file cannot be read. The reason is the operating system's. -/
  | io (path reason : String)
  | text (source : String) (fault : TextFault)
  /-- The declaration of `subject` lacks a field. -/
  | missing (source subject : String) (field : RequiredField)
  deriving DecidableEq, Repr

/-- The fault as it is put to the user. Of faults that a reader of markup finds, only that they
are such is given. -/
def TextFault.message : TextFault → String
  | illFormed => "XML parse error"
  | unexpectedRoot name => s!"expected rdf:RDF root element, found <{name}>"
  | noRoot => "no root element found"
  | unclosed _ => "unexpected end of document"
  | invalidBase base => s!"invalid base IRI '{base}'"
  | noStatements => "Failed to parse RDF"

/-- The field as it is put to the user. -/
def RequiredField.name : RequiredField → String
  | identifier => "rdf:about"
  | domain => "rdfs:domain"
  | type => "rdfs:range or cims:dataType"

namespace LoadError

/-- The path of the file that cannot be loaded. -/
def source : LoadError → String
  | io path _ => path
  | text source _ => source
  | missing source _ _ => source

/-- Where the error is. -/
def location : LoadError → String
  | io path _ => path
  | text source (.unclosed bytes) => s!"{source} (byte {bytes})"
  | text source _ => source
  | missing source subject _ => s!"{source}: {subject}"

/-- The error as it is put to the user. -/
def message : LoadError → String
  | io path reason => s!"I/O error reading {path}: {reason}"
  | e@(text _ fault) => s!"Parse error in {e.location}: {fault.message}"
  | e@(missing _ _ field) => s!"Missing required field {field.name} in {e.location}"

/-- The error as an error of a run. -/
def toError : LoadError → Error
  | io path reason => .io s!"{path}: {reason}"
  | e@(text _ fault) => .malformedSchema e.location fault.message
  | e@(missing _ _ field) => .malformedSchema e.location s!"missing required field {field.name}"

end LoadError

end CimSchema
