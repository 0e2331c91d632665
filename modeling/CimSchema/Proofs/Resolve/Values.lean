import CimSchema.Proofs.FirstSeen
import CimSchema.Resolve.Model

/-!
# Values of enumerations

A value may be declared several times. It stands where it came first, and has the first comment that
is given for it.

## Main definitions

* `valuesOf`, `valueComment?` - the declared values of an enumeration and their comments.

## Main results

* `enumValues_eq` - the values of an enumeration in closed form.
-/

namespace CimSchema

/-- The values of an enumeration that some files declare. -/
def valuesOf (documents : List Document) (enumeration : String) : List ValueDeclaration :=
  (documents.flatMap (·.values)).filter (·.enumeration = enumeration)

/-- The first comment that is given for a value of an enumeration. -/
def valueComment? (documents : List Document) (enumeration name : String) : Option String :=
  ((valuesOf documents enumeration).filter (·.name = name)).findSome? (·.comment)

/-- The values of an enumeration come in the order of their first declarations, each with its first
comment. -/
theorem enumValues_eq (documents : List Document) (enumeration : String) :
    enumValues documents enumeration =
      ((valuesOf documents enumeration).map (·.name)).eraseDups.map fun name =>
        ⟨name, valueComment? documents enumeration name⟩ := by
  have hvalues : (documents.flatMap fun d => d.values.filter (·.enumeration = enumeration)) =
      valuesOf documents enumeration := by
    rw [valuesOf, List.filter_flatMap]
  rw [enumValues, hvalues]
  unfold valueComment?
  generalize valuesOf documents enumeration = values
  have hkeys : (values.foldl (fun t v => t.upsert v.name none (· <|> v.comment))
      ({} : FirstSeen String (Option String))).keys = (values.map (·.name)).eraseDups := by
    rw [FirstSeen.keys_foldl_upsert, ← foldl_addNew]
    rfl
  have hget (name : String) : (values.foldl (fun t v => t.upsert v.name none (· <|> v.comment))
      ({} : FirstSeen String (Option String))).get? name =
        if values.filter (·.name = name) = [] then none
        else some ((values.filter (·.name = name)).findSome? (·.comment)) := by
    rw [FirstSeen.get?_foldl_upsert]
    refine (FirstSeen.foldl_getD (fun (v : ValueDeclaration) comment => comment <|> v.comment)
      _ none none).trans ?_
    simp only [Option.orElse_eq_orElse, Option.orElse_eq_or, foldl_or]
    rfl
  -- A table without repeated keys is read off its keys and their values.
  rw [← List.filterMap_eq_map, FirstSeen.filterMap_entries (hkeys ▸ nodup_eraseDups _), hkeys]
  generalize hnames : (values.map (·.name)).eraseDups = names
  rw [← List.filterMap_eq_map]
  refine List.filterMap_congr fun name hname => ?_
  rw [← hnames, List.mem_eraseDups] at hname
  obtain ⟨v, hv, rfl⟩ := List.mem_map.1 hname
  have hne : values.filter (·.name = v.name) ≠ [] :=
    List.ne_nil_of_mem (List.mem_filter.2 ⟨hv, decide_eq_true rfl⟩)
  rw [hget, if_neg hne]
  rfl

end CimSchema
