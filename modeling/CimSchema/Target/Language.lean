import CimSchema.Error
import CimSchema.Text.Identifier
import CimSchema.Text.LetterCase

/-!
# Target languages

## Main definitions

* `Language` - the languages that source text is written in.
* `Language.name`, `Language.ofName` - their names.
* `Language.reserved` - the words that are no identifiers.
* `Language.enumerator` - how a value of an enumeration is spelled.
-/

namespace CimSchema

/-- The languages that source text is written in. -/
inductive Language where
  | python
  | java
  | cpp
  deriving DecidableEq, Repr

namespace Language

/-- The name in configurations and output directories. -/
def name : Language → String
  | python => "python"
  | java => "java"
  | cpp => "cpp"

/-- The language that a user names, in any case of ASCII letters. -/
def ofName (s : String) : Except Error Language :=
  match Text.asciiLower s with
  | "python" | "py" => .ok python
  | "java" => .ok java
  | "cpp" | "c++" => .ok cpp
  | _ => .error (.unknownLanguage s)

/-- The words that are no identifiers. -/
def reserved : Language → List String
  | python =>
    ["False", "None", "True", "and", "as", "assert", "async", "await", "break", "class",
      "continue", "def", "del", "elif", "else", "except", "finally", "for", "from", "global", "if",
      "import", "in", "is", "lambda", "nonlocal", "not", "or", "pass", "raise", "return", "try",
      "while", "with", "yield"]
  | java =>
    ["abstract", "assert", "boolean", "break", "byte", "case", "catch", "char", "class", "const",
      "continue", "default", "do", "double", "else", "enum", "extends", "final", "finally",
      "float", "for", "goto", "if", "implements", "import", "instanceof", "int", "interface",
      "long", "native", "new", "package", "private", "protected", "public", "return", "short",
      "static", "strictfp", "super", "switch", "synchronized", "this", "throw", "throws",
      "transient", "try", "void", "volatile", "while"]
  | cpp =>
    ["alignas", "alignof", "and", "asm", "auto", "bool", "break", "case", "catch", "char",
      "class", "const", "continue", "default", "delete", "do", "double", "else", "enum",
      "explicit", "export", "extern", "false", "float", "for", "friend", "goto", "if", "inline",
      "int", "long", "mutable", "namespace", "new", "not", "operator", "or", "private",
      "protected", "public", "register", "return", "short", "signed", "sizeof", "static",
      "struct", "switch", "template", "this", "throw", "true", "try", "typedef", "union",
      "unsigned", "using", "virtual", "void", "volatile", "while"]

/-- How a value of an enumeration is spelled. -/
def enumerator (language : Language) (value : String) : String :=
  Text.identifier language.reserved value

end Language

end CimSchema
