import CimSchema.Proofs.Target.Enumeration
import CimSchema.Proofs.Target.Unmapped
import CimSchema.Proofs.Text.LetterCase
import Mathlib.Data.List.Nodup

/-!
# The names in the source text of a class

A name is written as an identifier: characters that identifiers do not have are replaced by
underscores, and what no identifier may be gets an underscore more. Neither can be undone, so that
two names may be written alike. This module says which names these are.

## Main definitions

* `AlikeMarked` - one of two names becomes the other by being marked.
* `NoneAlike` - no two names of a list are alike.
* `Language.AlikeEnumerators`, `Language.AlikeMembers`, `Java.AlikeAccessors` - names that are
  written alike.
* `ClassRecord.shownNames`, `Language.memberIdentifiers`, `Java.accessorNames` - the names of the
  members of a class, and what is written of them.

## Main results

* `eq_iff_alikeMarked` - where a mark makes two names the same.
* `Language.enumerator_eq_iff`, `Language.memberIdentifier_eq_iff`, `Java.accessorName_eq_iff` - names
  that are written alike.
* `Language.keepsApart` - what is written of different names differs exactly if none are alike.
-/

namespace CimSchema

section Mark

variable {α β : Type} {marked : α → Prop} {put : α → α} {s t : α}

/-- One of two names is marked, the other is not, and with its mark the one is the other. -/
def AlikeMarked (marked : α → Prop) (put : α → α) (s t : α) : Prop :=
  (marked s ∧ ¬ marked t ∧ put s = t) ∨ (marked t ∧ ¬ marked s ∧ put t = s)

instance [DecidableEq α] [DecidablePred marked] : Decidable (AlikeMarked marked put s t) :=
  inferInstanceAs (Decidable (_ ∨ _))

/-- Where marked names are changed and all others are kept, two names become the same if they are
the same or alike. -/
theorem eq_iff_alikeMarked (mark : α → α) (hput : Function.Injective put)
    (hmarked : ∀ s, marked s → mark s = put s) (hplain : ∀ s, ¬ marked s → mark s = s) :
    mark s = mark t ↔ s = t ∨ AlikeMarked marked put s t := by
  by_cases hs : marked s
  · by_cases ht : marked t
    · rw [hmarked s hs, hmarked t ht, hput.eq_iff]
      simp [AlikeMarked, hs, ht]
    · have hne : s ≠ t := fun h => ht (h ▸ hs)
      rw [hmarked s hs, hplain t ht]
      simp [AlikeMarked, hs, ht, hne]
  · by_cases ht : marked t
    · have hne : s ≠ t := fun h => hs (h ▸ ht)
      rw [hplain s hs, hmarked t ht]
      simp [AlikeMarked, hs, ht, hne, eq_comm]
    · rw [hplain s hs, hplain t ht]
      simp [AlikeMarked, hs, ht]

/-- No two names of a list are alike. -/
def NoneAlike (alike : α → α → Prop) (names : List α) : Prop :=
  ∀ s ∈ names, ∀ t ∈ names, s ≠ t → ¬ alike s t

instance [DecidableEq α] {alike : α → α → Prop} [DecidableRel alike] {names : List α} :
    Decidable (NoneAlike alike names) :=
  inferInstanceAs (Decidable (∀ s ∈ names, ∀ t ∈ names, s ≠ t → ¬ alike s t))

/-- What is written of different names differs exactly if no two of them are alike. -/
theorem nodup_map_iff_noneAlike {alike : α → α → Prop} {names : List α} {f : α → β}
    (h : names.Nodup) (heq : ∀ s t, s ≠ t → (f s = f t ↔ alike s t)) :
    (names.map f).Nodup ↔ NoneAlike alike names := by
  rw [List.nodup_map_iff_inj_on h]
  constructor
  · intro hinj s hs t ht hne halike
    exact hne (hinj s hs t ht ((heq s t hne).2 halike))
  · intro hnone s hs t ht hf
    by_contra hne
    exact hnone s hs t ht hne ((heq s t hne).1 hf)

end Mark

/-! ### Enumerators and members -/

theorem append_injective (lead : String) : Function.Injective (lead ++ ·) :=
  fun _ _ h => (String.append_right_inj lead).1 h

/-- Whether a cleaned name is no identifier: it starts with a digit or is reserved. -/
def Text.NeedsUnderscore (reserved : List String) (cleaned : String) : Prop :=
  cleaned.toList.head?.any Char.isDigit = true ∨ cleaned ∈ reserved

instance (reserved : List String) : DecidablePred (Text.NeedsUnderscore reserved) :=
  fun _ => inferInstanceAs (Decidable (_ ∨ _))

/-- A cleaned name, with the underscore that it may need. -/
def Text.underscored (reserved : List String) (cleaned : String) : String :=
  if NeedsUnderscore reserved cleaned then "_" ++ cleaned else cleaned

theorem Text.identifier_eq (reserved : List String) (name : String) :
    identifier reserved name = underscored reserved (cleanName name) := by
  rw [identifier]
  split
  · rename_i c cs hchars
    cases hc : c.isDigit <;> simp [underscored, NeedsUnderscore, avoidWords, hchars, hc]
  · rename_i hchars
    simp [underscored, NeedsUnderscore, avoidWords, hchars]

namespace Language

variable {language : Language} {className s t : String}

/-- Two names of values that have the same enumerator: they differ in characters only that no
identifier has, or by the underscore that one of them needs. -/
def AlikeEnumerators (language : Language) (s t : String) : Prop :=
  Text.cleanName s = Text.cleanName t ∨
    AlikeMarked (Text.NeedsUnderscore language.reserved) ("_" ++ ·) (Text.cleanName s)
      (Text.cleanName t)

instance (language : Language) : DecidableRel language.AlikeEnumerators :=
  fun _ _ => inferInstanceAs (Decidable (_ ∨ _))

theorem enumerator_eq_iff :
    language.enumerator s = language.enumerator t ↔ language.AlikeEnumerators s t := by
  rw [enumerator, enumerator, Text.identifier_eq, Text.identifier_eq]
  exact eq_iff_alikeMarked (Text.underscored language.reserved) (append_injective "_")
    (fun _ h => if_pos h) fun _ h => if_neg h

/-- The identifier of a member. -/
def memberIdentifier (language : Language) (className : String) : String → String :=
  match language with
  | python => Python.fieldName
  | java => Java.variableName className
  | cpp => Cpp.memberName

/-- Two names of members that have the same identifier. In Python members are spelled as values
are. -/
def AlikeMembers (language : Language) (className : String) : String → String → Prop :=
  match language with
  | python => python.AlikeEnumerators
  | java => AlikeMarked (fun name => name = className ∨ name ∈ java.reserved) (· ++ "_")
  | cpp => AlikeMarked (· ∈ cpp.reserved) ("_" ++ ·)

instance (language : Language) (className : String) :
    DecidableRel (language.AlikeMembers className) :=
  match language with
  | python => inferInstanceAs (DecidableRel python.AlikeEnumerators)
  | java => fun s t => inferInstanceAs (Decidable
      (AlikeMarked (fun name => name = className ∨ name ∈ java.reserved) (· ++ "_") s t))
  | cpp => fun s t => inferInstanceAs (Decidable (AlikeMarked (· ∈ cpp.reserved) ("_" ++ ·) s t))

theorem memberIdentifier_eq_iff (hne : s ≠ t) :
    language.memberIdentifier className s = language.memberIdentifier className t ↔
      language.AlikeMembers className s t := by
  cases language with
  | python =>
    rw [AlikeMembers, ← enumerator_eq_iff]
    rfl
  | java =>
    have happend : Function.Injective (· ++ "_" : String → String) :=
      fun _ _ h => (String.append_left_inj "_").1 h
    have heq : Java.variableName className s = Java.variableName className t ↔
        s = t ∨ java.AlikeMembers className s t :=
      eq_iff_alikeMarked (Java.variableName className) happend
        (fun _ h => if_pos (by simpa using h)) fun _ h => if_neg (by simpa using h)
    exact heq.trans (or_iff_right hne)
  | cpp =>
    have heq : Cpp.memberName s = Cpp.memberName t ↔ s = t ∨ cpp.AlikeMembers className s t :=
      eq_iff_alikeMarked Cpp.memberName (append_injective "_")
        (fun _ h => if_pos (List.contains_iff_mem.2 h))
        fun _ h => if_neg (mt List.contains_iff_mem.1 h)
    exact heq.trans (or_iff_right hne)

end Language

/-! ### Accessors -/

namespace Java

variable {s t : String}

/-- Two names are a given pair, in one order or the other. -/
def ArePair (a b s t : String) : Prop :=
  (s = a ∧ t = b) ∨ (s = b ∧ t = a)

instance (a b : String) : DecidableRel (ArePair a b) :=
  fun _ _ => inferInstanceAs (Decidable (_ ∨ _))

/-- The first letter of a name is in lower case. In the accessors of such a name it is in upper
case. -/
def StartsLower (name : String) : Prop :=
  name.toList.head?.any Text.isLowerLetter = true

instance : DecidablePred StartsLower :=
  fun _ => inferInstanceAs (Decidable (_ = true))

/-- Two names of members whose accessors have the same name: both start in lower case and become the
same in upper case, or one of them does and becomes the other, which is not `Name`, or they are
`Name` and `_Name`. -/
def AlikeAccessors (s t : String) : Prop :=
  (StartsLower s ∧ StartsLower t ∧ Text.capitalize s = Text.capitalize t) ∨
    (AlikeMarked StartsLower Text.capitalize s t ∧ s ≠ "Name" ∧ t ≠ "Name") ∨
    ArePair "Name" "_Name" s t

instance : DecidableRel AlikeAccessors :=
  fun _ _ => inferInstanceAs (Decidable (_ ∨ _))

theorem AlikeAccessors.symm (h : AlikeAccessors s t) : AlikeAccessors t s := by
  obtain ⟨hs, ht, heq⟩ | ⟨hmarked, hs, ht⟩ | hpair := h
  · exact .inl ⟨ht, hs, heq.symm⟩
  · exact .inr (.inl ⟨hmarked.symm, ht, hs⟩)
  · exact .inr (.inr (hpair.symm.imp And.symm And.symm))

theorem not_startsLower_name : ¬ StartsLower "Name" ∧ ¬ StartsLower "_Name" := by
  decide +kernel

theorem accessorName_name : accessorName "Name" = "_Name" := by
  decide +kernel

theorem startsLower_iff :
    StartsLower s ↔ ∃ c cs, s.toList = c :: cs ∧ Text.isLowerLetter c = true := by
  rw [StartsLower]
  cases s.toList <;> simp

theorem accessorName_of_startsLower (h : StartsLower s) : accessorName s = Text.capitalize s := by
  obtain ⟨c, cs, hchars, hlower⟩ := startsLower_iff.1 h
  rw [accessorName, hchars]
  exact if_pos hlower

theorem accessorName_of_not_startsLower (h : ¬ StartsLower s) (hname : s ≠ "Name") :
    accessorName s = s := by
  rw [accessorName]
  split
  · rename_i c cs hchars
    rw [if_neg fun hlower => h (startsLower_iff.2 ⟨c, cs, hchars, hlower⟩), if_neg hname]
  · rfl

/-- No letter but the underscore has one in its upper-case form. -/
theorem capitalize_ne_of_startsLower (h : StartsLower s) : Text.capitalize s ≠ "_Name" := by
  obtain ⟨c, cs, hchars, hlower⟩ := startsLower_iff.1 h
  intro heq
  rw [Text.capitalize, hchars] at heq
  have hc : c ≠ '_' := by
    rintro rfl
    exact absurd hlower (by decide +kernel)
  obtain ⟨d, ds, hupper⟩ := List.exists_cons_of_ne_nil (Text.upperChar_ne_nil c)
  have hname : d :: ds ++ cs = "_Name".toList := by rw [← heq, ← hupper, String.toList_ofList]
  have hd : d = '_' := (List.cons.inj hname).1
  refine Text.underscore_not_mem_upperChar hc ?_
  rw [hupper, hd]
  exact List.mem_cons_self

/-- A name that starts in lower case, and one that does not. -/
theorem accessorName_eq_iff_of_startsLower (hs : StartsLower s) (ht : ¬ StartsLower t) :
    accessorName s = accessorName t ↔ AlikeAccessors s t := by
  have hname : s ≠ "Name" ∧ s ≠ "_Name" :=
    ⟨fun h => not_startsLower_name.1 (h ▸ hs), fun h => not_startsLower_name.2 (h ▸ hs)⟩
  rw [accessorName_of_startsLower hs]
  by_cases htname : t = "Name"
  · subst htname
    simp [AlikeAccessors, ArePair, ht, hname, accessorName_name, capitalize_ne_of_startsLower hs]
  · rw [accessorName_of_not_startsLower ht htname]
    simp [AlikeAccessors, AlikeMarked, ArePair, hs, ht, hname, htname]

/-- Two names that both do not start in lower case are kept as they are, but for `Name`. -/
theorem accessorName_eq_iff_of_not_startsLower (hs : ¬ StartsLower s) (ht : ¬ StartsLower t)
    (hne : s ≠ t) : accessorName s = accessorName t ↔ AlikeAccessors s t := by
  have halike : AlikeAccessors s t ↔ ArePair "Name" "_Name" s t := by
    simp [AlikeAccessors, AlikeMarked, hs, ht]
  rw [halike, ArePair]
  by_cases hsname : s = "Name"
  · subst hsname
    rw [accessorName_name, accessorName_of_not_startsLower ht hne.symm]
    simp [eq_comm]
  · rw [accessorName_of_not_startsLower hs hsname]
    by_cases htname : t = "Name"
    · subst htname
      rw [accessorName_name]
      simp [hsname]
    · rw [accessorName_of_not_startsLower ht htname]
      simp [hsname, htname, hne]

/-- The accessors of different members have the same name exactly if the members are alike. -/
theorem accessorName_eq_iff (hne : s ≠ t) :
    accessorName s = accessorName t ↔ AlikeAccessors s t := by
  by_cases hs : StartsLower s
  · by_cases ht : StartsLower t
    · have hmember : s ≠ "Name" ∧ t ≠ "Name" :=
        ⟨fun h => not_startsLower_name.1 (h ▸ hs), fun h => not_startsLower_name.1 (h ▸ ht)⟩
      rw [accessorName_of_startsLower hs, accessorName_of_startsLower ht]
      simp [AlikeAccessors, AlikeMarked, ArePair, hs, ht, hmember]
    · exact accessorName_eq_iff_of_startsLower hs ht
  · by_cases ht : StartsLower t
    · rw [eq_comm, accessorName_eq_iff_of_startsLower ht hs]
      exact ⟨.symm, .symm⟩
    · exact accessorName_eq_iff_of_not_startsLower hs ht hne

end Java

/-! ### The names of a class -/

/-- The names of the members that are shown: those of all attributes, and of all associations but
those to many that are not used. -/
def ClassRecord.shownNames (c : ClassRecord) : List String :=
  c.attributes.map (·.name) ++
    (c.associations.filter fun a => a.used || !a.multiplicity.isList).map (·.name)

/-- The names of the members of a view. -/
def ClassView.memberNames (v : ClassView) : List String :=
  v.attributes.map (·.name) ++ v.associations.map (·.name)

/-- The identifiers of the members of a class, as they are written. -/
def Language.memberIdentifiers (language : Language) (v : ClassView) : List String :=
  match language with
  | python => (Python.fieldLines v).map Text.leadingIdentifier
  | java => (Java.fields v).map (·.variableName)
  | cpp => (Cpp.fields v).map (·.name)

/-- The names of the accessors of a class, two for each member. -/
def Java.accessorNames (v : ClassView) : List String :=
  (fields v).flatMap fun f => ["get" ++ f.accessor, "set" ++ f.accessor]

section View

variable {t : TypeTable} {c : ClassRecord} {v : ClassView}

theorem ClassView.memberNames_of_ofRecord (h : ofRecord t c = .ok v) :
    v.memberNames = c.shownNames := by
  have hattributes : v.attributes.map (·.name) = c.attributes.map (·.name) := by
    rw [← List.forall₂_eq_eq_eq, List.forall₂_map_left_iff, List.forall₂_map_right_iff]
    refine (forall₂_attributes h).flip.imp fun view a hview => ?_
    obtain ⟨itemType, -, rfl⟩ := map_eq_ok_iff.1 hview
    rfl
  obtain ⟨primitiveType, rfl⟩ := exists_of_ofRecord h
  rw [memberNames, hattributes, List.map_map]
  rfl

/-- The line of a field starts with its identifier. -/
theorem Python.leadingIdentifier_field (name rest : String) :
    Text.leadingIdentifier (fieldName name ++ ": " ++ rest) = fieldName name := by
  have hline : fieldName name ++ ": " ++ rest = "" ++ fieldName name ++ (": " ++ rest) := by
    rw [String.empty_append, String.append_assoc]
  have hname : ∀ c ∈ (fieldName name).toList, Text.isIdentifierChar c = true := fun c hc => by
    rw [fieldName, Language.enumerator] at hc
    exact Text.isIdentifierChar_of_mem_identifier hc
  -- The colon is neither blank nor part of an identifier.
  have hchars : (": " ++ rest).toList = ':' :: ' ' :: rest.toList := String.toList_append
  have hcolon : Text.isIdentifierChar ':' = false := by decide
  have hfirst : Text.isBlank ':' = false := by decide
  rw [hline]
  refine Text.leadingIdentifier_append (by simp) hname ?_ ?_
  · rw [hchars, List.takeWhile_cons_of_neg (by simp [hcolon])]
  · rw [Text.leadingIdentifier, hchars, List.dropWhile_cons_of_neg (by simp [hfirst]),
      List.takeWhile_cons_of_neg (by simp [hcolon]), String.ofList_nil]

theorem Language.memberIdentifiers_eq (language : Language) (v : ClassView) :
    language.memberIdentifiers v = v.memberNames.map (language.memberIdentifier v.className) := by
  cases language with
  | python =>
    have hattribute (a : AttributeView) :
        Text.leadingIdentifier (Python.attributeLine a) = Python.fieldName a.name := by
      rw [Python.attributeLine, String.append_assoc, String.append_assoc]
      exact Python.leadingIdentifier_field _ _
    have hassociation (a : AssociationView) :
        Text.leadingIdentifier (Python.associationLine a) = Python.fieldName a.name := by
      rw [Python.associationLine, String.append_assoc, String.append_assoc]
      exact Python.leadingIdentifier_field _ _
    simp only [memberIdentifiers, memberIdentifier, Python.fieldLines, ClassView.memberNames,
      List.map_append, List.map_map, Function.comp_def, hattribute, hassociation]
  | java =>
    simp only [memberIdentifiers, Java.fields, ClassView.memberNames, List.map_append, List.map_map]
    rfl
  | cpp =>
    simp only [memberIdentifiers, Cpp.fields, ClassView.memberNames, List.map_append, List.map_map]
    rfl

theorem Java.get_ne_set (accessor accessor' : String) : "get" ++ accessor ≠ "set" ++ accessor' := by
  intro h
  have hchars := congrArg (fun name => name.toList.head?) h
  simp at hchars

theorem Java.disjoint_accessors_iff {accessor accessor' : String} :
    List.Disjoint ["get" ++ accessor, "set" ++ accessor] ["get" ++ accessor', "set" ++ accessor'] ↔
      accessor ≠ accessor' := by
  simp [get_ne_set, String.append_right_inj, eq_comm]

theorem Java.nodup_accessorNames_iff (hnames : v.memberNames.Nodup) :
    (accessorNames v).Nodup ↔ NoneAlike AlikeAccessors v.memberNames := by
  have haccessors : (fields v).map (·.accessor) = v.memberNames.map accessorName := by
    simp only [fields, ClassView.memberNames, List.map_append, List.map_map]
    rfl
  rw [← nodup_map_iff_noneAlike hnames fun s t => accessorName_eq_iff, ← haccessors, accessorNames,
    List.nodup_flatMap, List.nodup_iff_pairwise_ne, List.pairwise_map]
  rw [and_iff_right fun f _ => by simp]
  exact List.Pairwise.iff fun _ _ => disjoint_accessors_iff

end View

/-- What is written of the names of a class keeps them apart exactly if no two of them are alike. -/
structure Language.KeepsApart (language : Language) (o : Options) (c : ClassRecord)
    (v : ClassView) : Prop where
  enumerators :
    ((language.valueEntries o v.enumValues).map fun e => Text.leadingIdentifier e.line).Nodup ↔
      NoneAlike language.AlikeEnumerators (c.enumValues.map (·.name))
  members : (language.memberIdentifiers v).Nodup ↔
    NoneAlike (language.AlikeMembers c.name) c.shownNames
  accessors : language = .java →
    ((Java.accessorNames v).Nodup ↔ NoneAlike Java.AlikeAccessors c.shownNames)

/-- **Different names.** Where the names of the values of a class differ, and those of its members,
what is written of them differs exactly if no two of them are alike. -/
theorem Language.keepsApart (language : Language) (o : Options) {t : TypeTable} {c : ClassRecord}
    {v : ClassView} (hview : ClassView.ofRecord t c = .ok v)
    (hvalues : (c.enumValues.map (·.name)).Nodup)
    (hmembers : (c.attributes.map (·.name) ++ c.associations.map (·.name)).Nodup) :
    language.KeepsApart o c v := by
  have hnames : v.memberNames = c.shownNames := ClassView.memberNames_of_ofRecord hview
  -- Fewer associations are shown than there are.
  have hshown : c.shownNames.Nodup :=
    hmembers.sublist ((List.filter_sublist.map _).append_left _)
  have hclass : v.className = c.name ∧ v.enumValues = c.enumValues := by
    obtain ⟨primitiveType, rfl⟩ := ClassView.exists_of_ofRecord hview
    exact ⟨rfl, rfl⟩
  refine ⟨?_, ?_, fun _ => ?_⟩
  · have hentries : (language.valueEntries o v.enumValues).map
        (fun e => Text.leadingIdentifier e.line) =
          (c.enumValues.map (·.name)).map language.enumerator := by
      rw [hclass.2, leadingIdentifier_valueEntries, List.map_map]
      rfl
    rw [hentries]
    exact nodup_map_iff_noneAlike hvalues fun s t _ => enumerator_eq_iff
  · rw [memberIdentifiers_eq, hnames, hclass.1]
    exact nodup_map_iff_noneAlike hshown fun s t hne => memberIdentifier_eq_iff hne
  · rw [← hnames] at hshown ⊢
    exact Java.nodup_accessorNames_iff hshown

/-- A class whose names are no identifiers, are reserved or differ in the case of a letter. The last
of its associations is not shown. -/
def switchKinds : ClassRecord where
  name := "SwitchKinds"
  kind := .regular
  attributes := [
    ⟨"name", "SwitchKinds", .primitive "String", .optional, none, none, []⟩,
    ⟨"Name", "SwitchKinds", .primitive "String", .optional, none, none, []⟩,
    ⟨"2-way", "SwitchKinds", .primitive "Boolean", .single, none, none, []⟩]
  associations := [
    ⟨"switch", "SwitchKinds", "Switch", .optional, .none, false, none, []⟩,
    ⟨"2_way", "SwitchKinds", "Switch", .list, .none, false, none, []⟩]
  enumValues := [⟨"1A", none⟩, ⟨"class", none⟩, ⟨"V/A", none⟩]

theorem Language.keepsApart_switchKinds :
    (switchKinds.enumValues.map (·.name)).Nodup ∧
      (switchKinds.attributes.map (·.name) ++ switchKinds.associations.map (·.name)).Nodup ∧
      NoneAlike Java.AlikeAccessors switchKinds.shownNames ∧
      ∃ v, ClassView.ofRecord java.types switchKinds = .ok v ∧
        java.KeepsApart {} switchKinds v := by
  have hvalues : (switchKinds.enumValues.map (·.name)).Nodup := by decide
  have hmembers :
      (switchKinds.attributes.map (·.name) ++ switchKinds.associations.map (·.name)).Nodup := by
    decide
  obtain ⟨v, hview⟩ : ∃ v, ClassView.ofRecord java.types switchKinds = .ok v :=
    exists_of_isOk (by decide +kernel)
  exact ⟨hvalues, hmembers, by decide +kernel, v, hview, java.keepsApart {} hview hvalues hmembers⟩

/-- An enumeration with two values that are alike in every language. -/
def unitSymbol : ClassRecord where
  name := "UnitSymbol"
  kind := .enumeration
  enumValues := [⟨"V-A", none⟩, ⟨"V/A", none⟩]

/-- A class with members that are alike: in each language another two. -/
def ratedSwitch : ClassRecord where
  name := "RatedSwitch"
  kind := .regular
  attributes := ["rated-S", "rated_S", "switch", "_switch", "switch_", "mRID", "MRID"].map fun name =>
    ⟨name, "RatedSwitch", .primitive "String", .optional, none, none, []⟩

/-- Different values of one enumeration have the same enumerator, and different members of one class
have the same identifier or accessors of the same name. -/
theorem Language.not_nodup_ratedSwitch :
    (unitSymbol.enumValues.map (·.name)).Nodup ∧ (ratedSwitch.attributes.map (·.name)).Nodup ∧
      ∀ language : Language, ∃ v w, ClassView.ofRecord language.types unitSymbol = .ok v ∧
        ClassView.ofRecord language.types ratedSwitch = .ok w ∧
        ¬ ((language.valueEntries {} v.enumValues).map fun e =>
          Text.leadingIdentifier e.line).Nodup ∧
        ¬ (language.memberIdentifiers w).Nodup ∧
        (language = .java → ¬ (Java.accessorNames w).Nodup) := by
  have hvalues (language : Language) :
      (ClassView.ofRecord language.types unitSymbol).toOption.any (fun v =>
        ¬ ((language.valueEntries {} v.enumValues).map fun e =>
          Text.leadingIdentifier e.line).Nodup) = true := by
    cases language <;> decide +kernel
  have hmembers (language : Language) :
      (ClassView.ofRecord language.types ratedSwitch).toOption.any (fun w =>
        ¬ (language.memberIdentifiers w).Nodup ∧ ¬ (Java.accessorNames w).Nodup) = true := by
    cases language <;> decide +kernel
  refine ⟨by decide, by decide, fun language => ?_⟩
  obtain ⟨v, hv, hvalues⟩ := (Option.any_eq_true _ _).1 (hvalues language)
  obtain ⟨w, hw, hmembers⟩ := (Option.any_eq_true _ _).1 (hmembers language)
  obtain ⟨hmembers, haccessors⟩ := of_decide_eq_true hmembers
  exact ⟨v, w, toOption_eq_some_iff.1 hv, toOption_eq_some_iff.1 hw, of_decide_eq_true hvalues,
    hmembers, fun _ => haccessors⟩

end CimSchema
