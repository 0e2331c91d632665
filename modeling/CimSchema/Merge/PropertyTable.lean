import CimSchema.Declaration
import CimSchema.FirstSeen

/-!
# Merging property declarations

A member may be declared in several files. The first declaration counts; a later one may add a
comment, a fixed value, the inverse and whether the association is used, where those are missing.

## Main definitions

* `MergedProperty` - what the declarations of a member say together.
* `PropertyTable` - the members of some files, in order of first appearance.
* `PropertyTable.ofDocuments` - the table of some files.
-/

namespace CimSchema

/-- What the declarations of a member say together. -/
structure MergedProperty where
  declaration : PropertyDeclaration
  /-- The keywords of the declaring files. -/
  origins : List String := []
  deriving DecidableEq, Repr

namespace MergedProperty

/-- The class and the member, joined by a point. -/
def qualifiedName (p : MergedProperty) : String :=
  p.declaration.domain ++ "." ++ p.declaration.name

/-- Merges a declaration from a file with the keyword `origin`. -/
def declare (p : MergedProperty) (origin : Option String) (d : PropertyDeclaration) :
    MergedProperty where
  declaration :=
    { p.declaration with
      comment := p.declaration.comment <|> d.comment
      fixed := p.declaration.fixed <|> d.fixed
      inverseRole := p.declaration.inverseRole <|> d.inverseRole
      associationUsed := p.declaration.associationUsed <|> d.associationUsed }
  origins := origin.toList.foldl addNew p.origins

end MergedProperty

/-- A class and the name of one of its members. -/
abbrev MemberKey := String × String

/-- The members of some files, in order of first appearance. -/
structure PropertyTable where
  members : FirstSeen MemberKey MergedProperty := {}
  /-- The member that each property `id` was first declared for. -/
  keys : FirstSeen String MemberKey := {}

namespace PropertyTable

/-- Adds a declaration from a file with the keyword `origin`. -/
def add (t : PropertyTable) (origin : Option String) (d : PropertyDeclaration) : PropertyTable where
  members := t.members.upsert (d.domain, d.name) { declaration := d } (·.declare origin d)
  keys := t.keys.upsert d.id (d.domain, d.name) id

/-- The members of some files. -/
def ofDocuments (documents : List Document) : PropertyTable :=
  documents.foldl (fun t d => d.properties.foldl (·.add d.keyword ·) t) {}

/-- The member `name` of the class `domain`. -/
def get? (t : PropertyTable) (domain name : String) : Option MergedProperty :=
  t.members.get? (domain, name)

/-- The member that the property `id` was first declared for. -/
def byId? (t : PropertyTable) (id : String) : Option MergedProperty :=
  (t.keys.get? id).bind t.members.get?

end PropertyTable

end CimSchema
