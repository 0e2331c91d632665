import CimSchema.Error
import CimSchema.Model.Record
import CimSchema.Name.Map
import CimSchema.Text.Blank

/-!
# Profiles

A profile selects part of a schema: classes by name, narrowed to some of their members or not, or
everything that files with certain keywords declare. What it excludes is never selected.

## Main definitions

* `MemberSelection` - all members of a class, or some.
* `Profile` - a named selection.
* `Profile.includesClass`, `Profile.includesMember` - what is selected.
* `Profile.check` - refuses profiles that cannot select anything.
-/

namespace CimSchema

/-- Which members of a class are selected. -/
inductive MemberSelection where
  | all
  | only (members : NameSet)
  deriving DecidableEq

namespace MemberSelection

/-- The selection that is written as a list of members. No list and a list with `*` mean all. -/
def ofNames : Option (List String) → MemberSelection
  | none => all
  | some names => if names.contains "*" then all else only (.ofList names)

/-- Whether `member` is selected. -/
def includes : MemberSelection → String → Bool
  | all, _ => true
  | only members, member => members.contains member

end MemberSelection

/-- A named selection of classes and members. -/
structure Profile where
  name : String
  version : Option String := none
  /-- Whether every class is selected. -/
  includeAll : Bool := false
  /-- The classes selected by name. -/
  classes : NameMap MemberSelection := .empty
  /-- Keywords of files all of whose classes and members are selected. -/
  origins : NameSet := .empty
  /-- Classes, and members written as class, point and member, that are never selected. -/
  exclude : NameSet := .empty

/-- Why a profile is refused. -/
inductive ProfileFault where
  | emptyName
  | selectsNothing (name : String)
  | emptyIdentifier
  deriving DecidableEq, Repr

/-- The fault as it is put to the user. -/
def ProfileFault.message : ProfileFault → String
  | emptyName => "profile name must not be empty"
  | selectsNothing name => s!"profile '{name}' selects no classes"
  | emptyIdentifier => "profile identifier must not be empty"

/-- The fault as an error of the run. -/
def ProfileFault.toError (fault : ProfileFault) : Error :=
  .profile fault.message

namespace Profile

/-- The profile of the whole schema. -/
def all : Profile :=
  { name := "all", includeAll := true }

/-- The profile of everything that files with one of `keywords` declare. -/
def ofOrigins (name : String) (keywords : List String) : Profile :=
  { name, origins := .ofList keywords }

/-- Selects a class with all its members. -/
def withClass (p : Profile) (className : String) : Profile :=
  { p with classes := p.classes.insert className .all }

/-- Selects a class with some of its members. -/
def withMembers (p : Profile) (className : String) (members : List String) : Profile :=
  { p with classes := p.classes.insert className (.only (.ofList members)) }

/-- Excludes a class or a member. -/
def excluding (p : Profile) (identifier : String) : Profile :=
  { p with exclude := p.exclude.insert identifier }

/-- Whether a class is excluded. -/
def excludesClass (p : Profile) (className : String) : Bool :=
  p.exclude.contains className

/-- Whether a class is selected. -/
def includesClass (p : Profile) (c : ClassRecord) : Bool :=
  !p.excludesClass c.name
    && (p.includeAll || p.classes.contains c.name || c.hasAnyOrigin p.origins)

/-- Whether a member is excluded. -/
def excludesMember (p : Profile) (className member : String) : Bool :=
  p.exclude.contains (className ++ "." ++ member)

/-- Whether a member of a selected class is selected; `origins` are the keywords of the files that
declare it. -/
def includesMember (p : Profile) (className member : String) (origins : List String) : Bool :=
  !p.excludesMember className member
    && (p.includeAll
      || (match p.classes.get? className with
          | some selection => selection.includes member
          | none => false)
      || origins.any p.origins.contains)

/-- Refuses profiles that cannot select anything. -/
def check (p : Profile) : Except ProfileFault Unit :=
  if Text.isBlankText p.name then .error .emptyName
  else if !p.includeAll && p.classes.isEmpty && p.origins.isEmpty then
    .error (.selectsNothing p.name)
  else .ok ()

end Profile

end CimSchema
