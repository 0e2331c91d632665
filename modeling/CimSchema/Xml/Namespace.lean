import CimSchema.Xml.Attribute

/-!
# Namespaces

## Main definitions

* `Bindings` - the prefixes in force and the namespaces they stand for.
* `Bindings.declare` - takes in the attributes of a tag.
* `Bindings.resolve?` - the namespace of a name and its local part.
-/

namespace CimSchema.Xml

/-- The namespace of the prefix `xml`. -/
def xmlNamespace : List Char := "http://www.w3.org/XML/1998/namespace".toList

/-- The namespace of the prefix `xmlns`. -/
def xmlnsNamespace : List Char := "http://www.w3.org/2000/xmlns/".toList

/-- The prefixes in force and the namespaces they stand for, the innermost first. The empty prefix
is that of elements whose names have none. -/
abbrev Bindings := List (List Char × List Char)

namespace Bindings

/-- The prefixes that need no declaration. -/
def standard : Bindings :=
  [("xml".toList, xmlNamespace), ("xmlns".toList, xmlnsNamespace)]

/-- The prefix that an attribute declares. -/
def declared? (a : Attribute) : Option (List Char) :=
  if a.name = "xmlns".toList then some [] else "xmlns:".toList.isPrefixOf? a.name

/-- Takes in an attribute. The standard prefixes and their namespaces belong together. -/
def declareOne (b : Bindings) (a : Attribute) : Option Bindings :=
  match declared? a with
  | none => some b
  | some [] => some (([], a.value) :: b)
  | some pre =>
    if pre = "xml".toList then (if a.value = xmlNamespace then some b else none)
    else if pre = "xmlns".toList || a.value = xmlNamespace || a.value = xmlnsNamespace then none
    else some ((pre, a.value) :: b)

/-- Takes in the attributes of a tag. -/
def declare (b : Bindings) (as : List Attribute) : Option Bindings :=
  as.foldlM declareOne b

/-- The namespace of a prefix; an empty one takes a declaration back. -/
def namespace? (b : Bindings) (pre : List Char) : Option (List Char) :=
  (b.lookup pre).filter (!·.isEmpty)

/-- The namespace and the local part of a name. Attributes without a prefix have no namespace. -/
def resolve? (b : Bindings) (name : List Char) (isElement : Bool) :
    Option (List Char × List Char) :=
  match Text.cutAt? ':' name with
  | some (pre, rest) => if pre.isEmpty then none else (b.namespace? pre).map (·, rest)
  | none => if isElement then (b.namespace? []).map (·, name) else none

/-- The declarations in force, in the order in which they were made. -/
def inForce (b : Bindings) : Bindings :=
  b.foldl (fun kept e => if kept.any (·.1 = e.1) then kept else e :: kept) []

end Bindings

end CimSchema.Xml
