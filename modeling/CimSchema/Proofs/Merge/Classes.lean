import CimSchema.Merge.ClassTable
import CimSchema.Proofs.FirstSeen

/-!
# What is merged of a class

## Main definitions

* `signedClasses` - the class declarations of some files, each with the keyword of its file.
* `knownClasses` - the classes that some files declare, or refer to in a way that makes them known.
* `mergedBase?` - the base that the declarations of a class give it.
* `mergedClass` - what the declarations of a class say together.

## Main results

* `ClassTable.keys_ofDocuments`, `ClassTable.get?_ofDocuments` - what the table of some files holds.
* `MergedClass.foldl_declare`, `declaredClass_eq` - of several bases, comments and packages the
  first counts; stereotypes and origins are collected.
* `MergedClass.hasStereotype_foldl` - no stereotype gets lost.
-/

namespace CimSchema

/-- The class declarations of some files, each with the keyword of its file. -/
def signedClasses (documents : List Document) : List (Option String × ClassDeclaration) :=
  documents.flatMap fun d => d.classes.map fun c => (d.keyword, c)

/-- The enumerations that values of some files belong to. -/
def valueOwners (documents : List Document) : List String :=
  documents.flatMap fun d => d.values.map (·.enumeration)

/-- The built-in primitives that properties of some files have as type. -/
def referredPrimitives (documents : List Document) : List String :=
  (documents.flatMap fun d => d.properties.filterMap (·.valueType)).filter
    builtinPrimitives.contains

/-- The classes that some files declare or give values, and with `infer` the built-in primitives
that they refer to, in the order in which they came first. -/
def knownClasses (infer : Bool) (documents : List Document) : List String :=
  ((signedClasses documents).map (·.2.id) ++ valueOwners documents ++
    if infer then referredPrimitives documents else []).eraseDups

/-- The declarations of a class, each with the keyword of its file. -/
def classDeclarationsOf (documents : List Document) (name : String) :
    List (Option String × ClassDeclaration) :=
  (signedClasses documents).filter (·.2.id = name)

/-- The base that the declarations of a class give it: the first that one of them states. -/
def mergedBase? (documents : List Document) (name : String) : Option String :=
  (classDeclarationsOf documents name).findSome? (·.2.superClass)

/-- What the declarations of a class say together, apart from its values. -/
def declaredClass (documents : List Document) (name : String) : MergedClass :=
  (classDeclarationsOf documents name).foldl (fun c e => c.declare e.1 e.2) ({} : MergedClass)

/-- What is known of a class: its declarations and its values, or else that it is referred to. -/
def mergedClass (documents : List Document) (name : String) : MergedClass :=
  { declaredClass documents name with
    hasValues := decide (name ∈ valueOwners documents)
    inferred := decide (classDeclarationsOf documents name = [] ∧ name ∉ valueOwners documents) }

theorem mem_signedClasses_iff {documents : List Document} {e : Option String × ClassDeclaration} :
    e ∈ signedClasses documents ↔ ∃ d ∈ documents, ∃ c ∈ d.classes, (d.keyword, c) = e := by
  rw [signedClasses, List.mem_flatMap]
  simp only [List.mem_map]

namespace MergedClass

/-- What a class says after further declarations: what it did not say is taken from the first that
does, and the rest is collected. -/
theorem foldl_declare (declarations : List (Option String × ClassDeclaration)) (c : MergedClass) :
    declarations.foldl (fun c e => c.declare e.1 e.2) c =
      { c with
        base := c.base.or (declarations.findSome? (·.2.superClass))
        stereotypes := (declarations.flatMap (·.2.stereotypes)).foldl addStereotype c.stereotypes
        documentation := c.documentation.or (declarations.findSome? (·.2.comment))
        package := c.package.or (declarations.findSome? (·.2.package))
        origins := (declarations.filterMap (·.1)).foldl addNew c.origins
        declared := c.declared || !declarations.isEmpty } := by
  induction declarations generalizing c with
  | nil => simp
  | cons e declarations ih =>
    rw [List.foldl_cons, ih]
    cases horigin : e.1 <;>
      simp [declare, findSome?_cons_eq_or, Option.or_assoc, List.foldl_append, horigin]

theorem hasStereotype_addStereotype (stereotypes : List String) (s stereotype : String) :
    hasStereotype (addStereotype stereotypes s) stereotype =
      (hasStereotype stereotypes stereotype || Text.sameAscii s stereotype) := by
  rw [addStereotype]
  split
  · rename_i h
    obtain ⟨t, ht, hts⟩ := List.any_eq_true.1 h
    rw [Text.sameAscii, beq_iff_eq] at hts
    -- Instead of the new one there is one that differs only in case.
    have hthere : Text.sameAscii s stereotype = true →
        hasStereotype stereotypes stereotype = true := by
      intro hs
      rw [Text.sameAscii, ← hts] at hs
      exact List.any_eq_true.2 ⟨t, ht, hs⟩
    cases hsame : Text.sameAscii s stereotype with
    | false => rw [Bool.or_false]
    | true => rw [hthere hsame, Bool.or_true]
  · rw [hasStereotype, List.any_append, List.any_cons, List.any_nil, Bool.or_false, hasStereotype]

/-- No stereotype gets lost, up to the case of its letters. -/
theorem hasStereotype_foldl (stereotypes added : List String) (stereotype : String) :
    hasStereotype (added.foldl addStereotype stereotypes) stereotype =
      (hasStereotype stereotypes stereotype || hasStereotype added stereotype) := by
  induction added generalizing stereotypes with
  | nil => exact (Bool.or_false _).symm
  | cons s added ih =>
    rw [List.foldl_cons, ih, hasStereotype_addStereotype, Bool.or_assoc]
    rfl

end MergedClass

theorem declaredClass_eq (documents : List Document) (name : String) :
    declaredClass documents name =
      { base := mergedBase? documents name
        stereotypes := ((classDeclarationsOf documents name).flatMap (·.2.stereotypes)).foldl
          MergedClass.addStereotype []
        documentation := (classDeclarationsOf documents name).findSome? (·.2.comment)
        package := (classDeclarationsOf documents name).findSome? (·.2.package)
        origins := ((classDeclarationsOf documents name).filterMap (·.1)).eraseDups
        declared := !(classDeclarationsOf documents name).isEmpty } := by
  rw [declaredClass, MergedClass.foldl_declare, foldl_addNew]
  rfl

/-- Only a declared class has a base. -/
theorem mem_knownClasses_of_mergedBase? {infer : Bool} {documents : List Document}
    {name base : String} (h : mergedBase? documents name = some base) :
    name ∈ knownClasses infer documents := by
  obtain ⟨e, he, -⟩ := List.exists_of_findSome?_eq_some h
  obtain ⟨he, hname⟩ := List.mem_filter.1 he
  rw [knownClasses, List.mem_eraseDups]
  refine List.mem_append_left _ (List.mem_append_left _ ?_)
  exact List.mem_map.2 ⟨e, he, of_decide_eq_true hname⟩

theorem base_mergedClass (documents : List Document) (name : String) :
    (mergedClass documents name).base = mergedBase? documents name := by
  rw [mergedClass, declaredClass_eq]

namespace ClassTable

/-! ### Declared classes -/

theorem foldl_addClasses (documents : List Document) (t : ClassTable) :
    documents.foldl addClasses t =
      (signedClasses documents).foldl
        (fun (t : ClassTable) e => t.upsert e.2.id {} (·.declare e.1 e.2)) t := by
  rw [signedClasses, List.foldl_flatMap]
  simp only [List.foldl_map]
  rfl

theorem get?_declared (documents : List Document) (name : String) :
    (documents.foldl addClasses {}).get? name =
      if classDeclarationsOf documents name = [] then none
      else some (declaredClass documents name) := by
  rw [foldl_addClasses, FirstSeen.get?_foldl_upsert]
  exact FirstSeen.foldl_getD
    (fun (e : Option String × ClassDeclaration) (c : MergedClass) => c.declare e.1 e.2) _ none {}

/-! ### Enumerations -/

theorem foldl_addEnumerations (documents : List Document) (t : ClassTable) :
    documents.foldl addEnumerations t =
      (valueOwners documents).foldl
        (fun t x => t.upsert x {} ({ · with hasValues := true })) t := by
  rw [valueOwners, List.foldl_flatMap]
  simp only [List.foldl_map]
  rfl

theorem get?_foldl_addEnumerations (documents : List Document) (t : ClassTable) (name : String) :
    (documents.foldl addEnumerations t).get? name =
      if name ∈ valueOwners documents then
        some { (t.get? name).getD {} with hasValues := true }
      else t.get? name := by
  rw [foldl_addEnumerations, FirstSeen.get?_foldl_upsert]
  rw [FirstSeen.foldl_getD (fun _ (c : MergedClass) => { c with hasValues := true })]
  -- Of an enumeration with several values each sets the same flag.
  have hflag (xs : List String) (c : MergedClass) (h : xs ≠ []) :
      xs.foldl (fun (c : MergedClass) _ => { c with hasValues := true }) c =
        { c with hasValues := true } := by
    cases xs with
    | nil => exact absurd rfl h
    | cons x xs =>
      rw [List.foldl_cons]
      induction xs with
      | nil => rfl
      | cons y xs ih => exact ih (List.cons_ne_nil x xs)
  by_cases h : name ∈ valueOwners documents
  · have hne : (valueOwners documents).filter (fun x => decide (x = name)) ≠ [] :=
      List.ne_nil_of_mem (List.mem_filter.2 ⟨h, decide_eq_true rfl⟩)
    rw [if_pos h, if_neg hne, hflag _ _ hne]
  · have hnil : (valueOwners documents).filter (fun x => decide (x = name)) = [] :=
      List.filter_eq_nil_iff.2 fun x hx hname => h (of_decide_eq_true hname ▸ hx)
    rw [if_neg h, if_pos hnil]

/-! ### Primitives that are only referred to -/

theorem foldl_addPrimitives (documents : List Document) (t : ClassTable) :
    documents.foldl addPrimitives t =
      (documents.flatMap fun d => d.properties.filterMap (·.valueType)).foldl inferPrimitive t := by
  rw [List.foldl_flatMap]
  congr 1
  funext t d
  rw [addPrimitives, List.foldl_filterMap]
  congr 1
  funext t p
  cases p.valueType <;> rfl

theorem inferPrimitive_of_not_builtin {t : ClassTable} {name : String}
    (h : builtinPrimitives.contains name = false) : t.inferPrimitive name = t := by
  rw [inferPrimitive, h, Bool.not_false, Bool.or_true, if_pos rfl]

theorem keys_inferPrimitive {t : ClassTable} {name : String}
    (h : builtinPrimitives.contains name = true) :
    (t.inferPrimitive name).keys = addNew t.keys name := by
  rw [inferPrimitive, h, Bool.not_true, Bool.or_false]
  split
  · rename_i hc
    rw [addNew, if_pos (FirstSeen.contains_iff.1 hc)]
  · exact FirstSeen.keys_upsert t name {} _

theorem get?_inferPrimitive {t : ClassTable} {name : String}
    (h : builtinPrimitives.contains name = true) (other : String) :
    (t.inferPrimitive name).get? other =
      (t.get? other).or (if other = name then some { inferred := true } else none) := by
  rw [inferPrimitive, h, Bool.not_true, Bool.or_false]
  by_cases hc : t.contains name = true
  · rw [if_pos hc]
    split
    · rename_i hname
      obtain ⟨c, hget⟩ := Option.isSome_iff_exists.1 hc
      rw [hname, hget, Option.some_or]
    · rw [Option.or_none]
  · rw [if_neg hc, FirstSeen.get?_upsert]
    have hnone : t.get? name = none := by simpa [FirstSeen.contains] using hc
    split
    · rename_i hname
      rw [hname, hnone, Option.none_or, Option.getD_none]
    · rw [Option.or_none]

theorem keys_foldl_inferPrimitive (names : List String) (t : ClassTable) :
    (names.foldl inferPrimitive t).keys =
      (names.filter builtinPrimitives.contains).foldl addNew t.keys := by
  induction names generalizing t with
  | nil => rfl
  | cons name names ih =>
    rw [List.foldl_cons, ih, List.filter_cons]
    by_cases h : builtinPrimitives.contains name = true
    · rw [if_pos h, keys_inferPrimitive h, List.foldl_cons]
    · rw [if_neg h, inferPrimitive_of_not_builtin (Bool.of_not_eq_true h)]

theorem get?_foldl_inferPrimitive (names : List String) (t : ClassTable) (other : String) :
    (names.foldl inferPrimitive t).get? other =
      (t.get? other).or
        (if other ∈ names.filter builtinPrimitives.contains then some { inferred := true }
        else none) := by
  induction names generalizing t with
  | nil => simp
  | cons name names ih =>
    rw [List.foldl_cons, ih, List.filter_cons]
    by_cases h : builtinPrimitives.contains name = true
    · rw [if_pos h, get?_inferPrimitive h, Option.or_assoc]
      by_cases hname : other = name <;> simp [hname]
    · rw [if_neg h, inferPrimitive_of_not_builtin (Bool.of_not_eq_true h)]

/-! ### The whole table -/

theorem keys_ofDocuments (infer : Bool) (documents : List Document) :
    (ofDocuments infer documents).keys = knownClasses infer documents := by
  have howned : (documents.foldl addEnumerations (documents.foldl addClasses {})).keys =
      ((signedClasses documents).map (·.2.id) ++ valueOwners documents).eraseDups := by
    rw [foldl_addEnumerations, FirstSeen.keys_foldl_upsert, foldl_addClasses,
      FirstSeen.keys_foldl_upsert, ← foldl_addNew_eraseDups, ← foldl_addNew]
    rw [List.map_id']
    rfl
  rw [ofDocuments, knownClasses]
  cases infer with
  | false => simpa using howned
  | true =>
    rw [if_pos rfl, if_pos rfl, foldl_addPrimitives, keys_foldl_inferPrimitive, howned,
      foldl_addNew_eraseDups, referredPrimitives]

theorem get?_ofDocuments (infer : Bool) (documents : List Document) (name : String) :
    (ofDocuments infer documents).get? name =
      if name ∈ knownClasses infer documents then some (mergedClass documents name) else none := by
  have hknown : name ∈ knownClasses infer documents ↔
      classDeclarationsOf documents name ≠ [] ∨ name ∈ valueOwners documents ∨
        infer = true ∧ name ∈ referredPrimitives documents := by
    rw [knownClasses, List.mem_eraseDups, List.mem_append, List.mem_append, or_assoc]
    have hdecl : name ∈ (signedClasses documents).map (·.2.id) ↔
        classDeclarationsOf documents name ≠ [] := by
      simp [classDeclarationsOf, List.filter_eq_nil_iff]
    rw [hdecl]
    cases infer <;> simp
  have howned : (documents.foldl addEnumerations (documents.foldl addClasses {})).get? name =
      if classDeclarationsOf documents name ≠ [] ∨ name ∈ valueOwners documents then
        some (mergedClass documents name)
      else none := by
    -- Declared or not, with values or without: each case says which flags are set.
    rw [get?_foldl_addEnumerations, get?_declared, mergedClass]
    -- Declarations say nothing about values and inference.
    have hvalues : (declaredClass documents name).hasValues = false := by rw [declaredClass_eq]
    have hinferred : (declaredClass documents name).inferred = false := by rw [declaredClass_eq]
    by_cases hv : name ∈ valueOwners documents
    · by_cases hd : classDeclarationsOf documents name = []
      · simp [hv, hd, declaredClass]
      · simp [hv, hd, hinferred]
    · by_cases hd : classDeclarationsOf documents name = []
      · simp [hv, hd]
      · generalize declaredClass documents name = c at hvalues hinferred
        cases c
        simp_all
  have hall : (ofDocuments infer documents).get? name =
      ((documents.foldl addEnumerations (documents.foldl addClasses {})).get? name).or
        (if infer = true ∧ name ∈ referredPrimitives documents then some { inferred := true }
        else none) := by
    rw [ofDocuments]
    cases infer with
    | false => simp
    | true => simp [foldl_addPrimitives, get?_foldl_inferPrimitive, referredPrimitives]
  rw [hall, howned]
  -- Primitives are added last, and only where there is no entry.
  by_cases h : classDeclarationsOf documents name ≠ [] ∨ name ∈ valueOwners documents
  · rw [if_pos h, Option.some_or, if_pos (hknown.2 (h.imp_right .inl))]
  · -- A class that is only referred to has neither declarations nor values.
    rw [if_neg h, Option.none_or]
    obtain ⟨hd, hv⟩ := not_or.1 h
    rw [not_not] at hd
    have hmerged : mergedClass documents name = { inferred := true } := by
      simp [mergedClass, declaredClass, hd, hv]
    simp [hknown, hd, hv, hmerged]

end ClassTable

end CimSchema
