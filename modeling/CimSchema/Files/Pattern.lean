import CimSchema.Files.Path

/-!
# Patterns of names

In a pattern `?` stands for any character, `*` for any number of them, `[…]` for one of the characters
in it and `[!…]` for one that is not in it. A pattern `**` of its own stands for any number of
directories.

## Main definitions

* `NamePattern` - a pattern of one name, and `NamePattern.matchesName`.
* `PathPattern` - a pattern of the names on a path, and `PathPattern.ofText?`.
-/

namespace CimSchema

/-- A part of a pattern of a name. -/
inductive NamePart where
  | one (c : Char)
  | anyOne
  | anySome
  /-- A character from one of the ranges. -/
  | within (ranges : List (Char × Char))
  /-- A character from none of the ranges. -/
  | outside (ranges : List (Char × Char))
  deriving DecidableEq, Repr

/-- The pattern of a name. -/
abbrev NamePattern := List NamePart

namespace NamePart

/-- Whether a character is in one of some ranges. -/
def isIn (ranges : List (Char × Char)) (c : Char) : Bool :=
  ranges.any fun (first, last) => first ≤ c && c ≤ last

/-- Whether a character fits a part that stands for one character. -/
def fits (c : Char) : NamePart → Bool
  | one d => c = d
  | anyOne => true
  | anySome => false
  | within ranges => isIn ranges c
  | outside ranges => !isIn ranges c

/-- The ranges between brackets. -/
def ranges : List Char → List (Char × Char)
  | a :: '-' :: b :: cs => (a, b) :: ranges cs
  | a :: cs => (a, a) :: ranges cs
  | [] => []

/-- The part of the characters after an opening bracket, and what follows it. The first character is
between the brackets even if it is one. -/
def bracket? (cs : List Char) : Option (NamePart × List Char) :=
  let closed (part : List (Char × Char) → NamePart) : List Char → Option (NamePart × List Char)
    | [] => none
    | first :: cs =>
      (Text.cutAt? ']' cs).map fun (inner, rest) => (part (ranges (first :: inner)), rest)
  match cs with
  | '!' :: cs => closed outside cs
  | cs => closed within cs

theorem length_of_bracket? {cs rest : List Char} {part : NamePart}
    (h : bracket? cs = some (part, rest)) : rest.length < cs.length := by
  unfold bracket? at h
  split at h
  all_goals
    dsimp only at h
    split at h
    · simp at h
    · obtain ⟨⟨inner, rest'⟩, hcut, heq⟩ := Option.map_eq_some_iff.1 h
      obtain ⟨-, rfl⟩ := Prod.mk.inj heq
      have := Text.length_of_cutAt? hcut
      grind

end NamePart

namespace NamePattern

/-- Whether a pattern matches characters. -/
def matchesList : NamePattern → List Char → Bool
  | [], [] => true
  | [], _ :: _ => false
  | .anySome :: parts, [] => matchesList parts []
  | _ :: _, [] => false
  | .anySome :: parts, c :: cs =>
    matchesList parts (c :: cs) || matchesList (.anySome :: parts) cs
  | part :: parts, c :: cs => part.fits c && matchesList parts cs
termination_by parts cs => (parts.length, cs.length)

/-- Whether a pattern matches a name. -/
def matchesName (parts : NamePattern) (name : String) : Bool :=
  matchesList parts name.toList

/-- The pattern that characters say. Two asterisks together have no meaning within a name. -/
def ofList? (cs : List Char) : Option NamePattern :=
  match cs with
  | [] => some []
  | '?' :: cs => (ofList? cs).map (.anyOne :: ·)
  | '*' :: cs => if cs.head? = some '*' then none else (ofList? cs).map (.anySome :: ·)
  | '[' :: cs =>
    match h : NamePart.bracket? cs with
    | some (part, rest) =>
      have := NamePart.length_of_bracket? h
      (ofList? rest).map (part :: ·)
    | none => none
  | c :: cs => (ofList? cs).map (.one c :: ·)
termination_by cs.length

/-- The only name that a pattern matches, if it is written without special characters. -/
def literal? (parts : NamePattern) : Option String :=
  (parts.mapM fun
    | NamePart.one c => some c
    | _ => none).map String.ofList

end NamePattern

/-- A part of a pattern of a path. -/
inductive PathPart where
  | name (pattern : NamePattern)
  /-- Any number of directories. -/
  | directories
  deriving DecidableEq, Repr

/-- The pattern of a path. -/
structure PathPattern where
  isAbsolute : Bool
  /-- Whether only directories match. -/
  onlyDirectories : Bool
  parts : List PathPart
  deriving DecidableEq, Repr

namespace PathPattern

/-- The part that the characters between slashes say. -/
def part? (cs : List Char) : Option PathPart :=
  if cs = ['*', '*'] then some .directories else (NamePattern.ofList? cs).map .name

/-- The pieces of a pattern between slashes, where a slash at the end ends the last piece. -/
def piecesOf (cs : List Char) : List (List Char) :=
  let pieces := Text.splitOn '/' cs
  if pieces.getLast? = some [] && 1 < pieces.length then pieces.dropLast else pieces

/-- The pattern that a text says. -/
def ofText? (s : String) : Option PathPattern := do
  let cs := s.toList
  let isAbsolute := cs.head? = some '/'
  let parts ← (piecesOf (if isAbsolute then cs.tail else cs)).mapM part?
  return { isAbsolute, onlyDirectories := cs.getLast? = some '/', parts }

end PathPattern

end CimSchema
