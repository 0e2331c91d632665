/-!
# Cutting and replacing at a fixed text

## Main definitions

* `splitLast?` - the parts before and after the last place where a separator stands.
* `afterLast` - what follows the last separator, or the whole text where there is none.
* `stripStart?`, `stripEnd?` - a text without a given start or end.
* `replace` - every place of a pattern, from left to right, replaced by another text.
* `holds` - whether one text occurs in another.
* `splitOn` - the parts between the places of a character.
* `cutAt?` - the parts before and after the first place of a character.
-/

namespace CimSchema.Text

/-- The parts of a list before and after the last place where `sep` stands. -/
def splitLastList? (sep : List Char) : List Char → Option (List Char × List Char)
  | [] => none
  | c :: cs =>
    match splitLastList? sep cs with
    | some (before, after) => some (c :: before, after)
    | none => if sep.isPrefixOf (c :: cs) then some ([], (c :: cs).drop sep.length) else none

/-- The parts of `s` before and after the last place where `sep` stands. -/
def splitLast? (sep s : String) : Option (String × String) :=
  (splitLastList? sep.toList s.toList).map fun (before, after) =>
    (String.ofList before, String.ofList after)

/-- What follows the last `sep` in `s`, or all of `s` where there is none. -/
def afterLast (sep s : String) : String :=
  match splitLast? sep s with
  | some (_, after) => after
  | none => s

/-- `s` without `start` at its start, if it starts so. -/
def stripStart? (start s : String) : Option String :=
  (start.toList.isPrefixOf? s.toList).map String.ofList

/-- `s` without `ending` at its end, if it ends so. -/
def stripEnd? (ending s : String) : Option String :=
  (ending.toList.isSuffixOf? s.toList).map String.ofList

/-- `cs` with `new` in each place of the non-empty text `old`, after `skip` characters of a place
that is already replaced. -/
def replaceFrom (old new : List Char) (skip : Nat) : List Char → List Char
  | [] => []
  | c :: cs =>
    match skip with
    | k + 1 => replaceFrom old new k cs
    | 0 =>
      if old.isPrefixOf (c :: cs) then new ++ replaceFrom old new (old.length - 1) cs
      else c :: replaceFrom old new 0 cs

/-- `s` with `new` in each place of the non-empty text `old`, from left to right and without
overlap. -/
def replace (old new s : String) : String :=
  String.ofList (replaceFrom old.toList new.toList 0 s.toList)

/-- Whether `part` occurs in a list. -/
def holdsList (part : List Char) : List Char → Bool
  | [] => part.isEmpty
  | c :: cs => part.isPrefixOf (c :: cs) || holdsList part cs

/-- Whether `part` occurs in `s`. -/
def holds (part s : String) : Bool :=
  holdsList part.toList s.toList

/-- The parts of a list between the places of `sep`; there is always one more than places. -/
def splitOn (sep : Char) : List Char → List (List Char)
  | [] => [[]]
  | c :: cs =>
    if c = sep then [] :: splitOn sep cs
    else
      match splitOn sep cs with
      | [] => [[c]]
      | part :: parts => (c :: part) :: parts

/-- The parts of a list before and after the first place of `sep`. -/
def cutAt? (sep : Char) : List Char → Option (List Char × List Char)
  | [] => none
  | c :: cs =>
    if c = sep then some ([], cs)
    else (cutAt? sep cs).map fun (before, after) => (c :: before, after)

/-- The parts of a list before and after the first place of `sep`; where there is none, no second
part. -/
def cutOff (sep : Char) (cs : List Char) : List Char × Option (List Char) :=
  match cutAt? sep cs with
  | some (before, after) => (before, some after)
  | none => (cs, none)

theorem length_of_cutAt? {sep : Char} {cs before after : List Char}
    (h : cutAt? sep cs = some (before, after)) : after.length < cs.length := by
  induction cs generalizing before with
  | nil => simp [cutAt?] at h
  | cons c cs ih =>
    rw [cutAt?] at h
    split at h
    · simp_all
    · obtain ⟨⟨b, a⟩, hba, hab⟩ := Option.map_eq_some_iff.1 h
      simp only [Prod.mk.injEq] at hab
      have := ih (hab.2 ▸ hba)
      simp only [List.length_cons]
      omega

end CimSchema.Text
