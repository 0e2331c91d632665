import CimSchema.Text.Segment

/-!
# Placeholders in configurations

A placeholder `$` `{name:-default}` stands for the value of a variable. The colon with the default may
be left out, and so may the hyphen.

## Main definitions

* `Placeholder` - a placeholder, and `Placeholder.read?`, the one at the start of a text.
* `substitute` - a text with the values in place of the placeholders.
* `variableNames` - the variables that the values are taken from.
-/

namespace CimSchema

/-- What stands for the value of a variable. -/
structure Placeholder where
  name : List Char
  /-- What stands for a variable that is not set. -/
  default : List Char := []
  deriving DecidableEq, Repr

namespace Placeholder

/-- Whether a character may stand in a name. -/
def isNameChar (c : Char) : Bool :=
  c ≠ '\x7d' && c ≠ ':'

/-- A text without a hyphen at its start. -/
def withoutHyphen (cs : List Char) : List Char :=
  match cs with
  | '-' :: rest => rest
  | _ => cs

/-- The placeholder whose default follows, and what follows the placeholder. -/
def readDefault? (name cs : List Char) : Option (Placeholder × List Char) :=
  (Text.cutAt? '\x7d' (withoutHyphen cs)).map fun (default, rest) => (⟨name, default⟩, rest)

/-- The placeholder at the start of a text, and what follows it. -/
def read? : List Char → Option (Placeholder × List Char)
  | '$' :: '\x7b' :: cs =>
    let name := cs.takeWhile isNameChar
    if name.isEmpty then none
    else
      match cs.dropWhile isNameChar with
      | '\x7d' :: rest => some (⟨name, []⟩, rest)
      | ':' :: rest => readDefault? name rest
      | _ => none
  | _ => none

/-- The value of a placeholder, where `value?` gives the values of the variables. -/
def value (value? : String → Option String) (p : Placeholder) : List Char :=
  match value? (String.ofList p.name) with
  | some s => s.toList
  | none => p.default

theorem length_withoutHyphen_le (cs : List Char) : (withoutHyphen cs).length ≤ cs.length := by
  unfold withoutHyphen
  split <;> simp

theorem length_of_readDefault? {name cs rest : List Char} {p : Placeholder}
    (h : readDefault? name cs = some (p, rest)) : rest.length < cs.length := by
  obtain ⟨⟨default, rest'⟩, hcut, heq⟩ := Option.map_eq_some_iff.1 h
  obtain ⟨-, rfl⟩ := Prod.mk.inj heq
  exact Nat.lt_of_lt_of_le (Text.length_of_cutAt? hcut) (length_withoutHyphen_le cs)

theorem length_of_read? {cs rest : List Char} {p : Placeholder} (h : read? cs = some (p, rest)) :
    rest.length < cs.length := by
  unfold read? at h
  split at h
  · rename_i cs
    have hle := (List.dropWhile_suffix isNameChar (l := cs)).length_le
    dsimp only at h
    split at h
    · simp at h
    · split at h
      · rename_i heq
        simp only [Option.some.injEq, Prod.mk.injEq] at h
        grind
      · rename_i heq
        have := length_of_readDefault? h
        grind
      · simp at h
  · simp at h

end Placeholder

/-- A text with the values of the variables in place of the placeholders. Values are not looked
through again. -/
def substituteList (value? : String → Option String) (cs : List Char) : List Char :=
  match h : Placeholder.read? cs with
  | some (p, rest) =>
    have := Placeholder.length_of_read? h
    p.value value? ++ substituteList value? rest
  | none =>
    match cs with
    | [] => []
    | c :: cs => c :: substituteList value? cs
termination_by cs.length

/-- A text with the values of the variables in place of the placeholders. -/
def substitute (value? : String → Option String) (s : String) : String :=
  String.ofList (substituteList value? s.toList)

/-- The names in the placeholders of a text. -/
def variableNamesList (cs : List Char) : List String :=
  match h : Placeholder.read? cs with
  | some (p, rest) =>
    have := Placeholder.length_of_read? h
    String.ofList p.name :: variableNamesList rest
  | none =>
    match cs with
    | [] => []
    | _ :: cs => variableNamesList cs
termination_by cs.length

/-- The names in the placeholders of a text. -/
def variableNames (s : String) : List String :=
  variableNamesList s.toList

end CimSchema
