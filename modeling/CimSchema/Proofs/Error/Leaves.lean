import CimSchema.Proofs.Target.Faults

/-!
# No error is lost

Errors are nested: several errors of one step are one error. When they are put together, taken apart
and turned into errors of the run, each single error stays, once and in its place.

A place in a nested error is a list of numbers, each of which leads from an error with parts to one
of its parts. Places that stand more to the left come first in the lexicographic order, so that the
single errors of an error are told from left to right by an increasing list of their places.

## Main definitions

* `partAt?` - what stands at a place.
* `ListsLeaves` - a list of everything that has no parts, from left to right, with the places.
* `Error.leafPlaces` - the places of the single errors.

## Main results

* `ListsLeaves.of_parts` - the lists of the parts put together.
* `Error.listsLeaves`, `RenderError.listsLeaves` - the single errors are listed from left to right.
* `Error.losesNone` - no error is lost.
-/

namespace CimSchema

/-! ### Places -/

section Places

variable {α : Type} {parts? : α → Option (List α)}

/-- What stands at a place: each number leads from a value with parts to one of its parts. -/
def partAt? (parts? : α → Option (List α)) : List Nat → α → Option α
  | [], e => some e
  | k :: place, e => ((parts? e).bind (·[k]?)).bind (partAt? parts? place)

/-- `leaves` is everything in `e` that has no parts, from left to right, and `places` is where it
stands. -/
structure ListsLeaves (parts? : α → Option (List α)) (e : α) (places : List (List Nat))
    (leaves : List α) : Prop where
  increasing : places.Pairwise (· < ·)
  mem_iff : ∀ place,
    place ∈ places ↔ ∃ leaf, partAt? parts? place e = some leaf ∧ parts? leaf = none
  map_partAt? : places.map (partAt? parts? · e) = leaves.map some

theorem pairwise_snd_zipIdx (es : List α) : es.zipIdx.Pairwise fun a b => a.2 < b.2 := by
  have hnumbers : (es.zipIdx.map Prod.snd).Pairwise (· < ·) := by
    rw [List.zipIdx_map_snd]
    exact List.pairwise_lt_range'
  exact List.pairwise_map.1 hnumbers

namespace ListsLeaves

variable {e leaf : α} {es leaves : List α} {places : List (List Nat)}

theorem parts?_eq_none (h : ListsLeaves parts? e places leaves) (hleaf : leaf ∈ leaves) :
    parts? leaf = none := by
  have hmem : some leaf ∈ places.map (partAt? parts? · e) := by
    rw [h.map_partAt?]
    exact List.mem_map_of_mem hleaf
  obtain ⟨place, hplace, hat⟩ := List.mem_map.1 hmem
  obtain ⟨leaf', hat', hnone⟩ := (h.mem_iff place).1 hplace
  obtain rfl : leaf' = leaf := Option.some.inj (hat'.symm.trans hat)
  exact hnone

/-- What has no parts stands at the empty place. -/
theorem of_single (h : parts? e = none) : ListsLeaves parts? e [[]] [e] where
  increasing := List.pairwise_singleton _ _
  mem_iff place := by
    cases place with
    | nil => simp [partAt?, h]
    | cons k place => simp [partAt?, h]
  map_partAt? := rfl

section Parts

variable {placesOf : α → List (List Nat)} {leavesOf : α → List α} (h : parts? e = some es)
  (hparts : ∀ part ∈ es, ListsLeaves parts? part (placesOf part) (leavesOf part))
include h

theorem partAt?_cons (k : Nat) (place : List Nat) :
    partAt? parts? (k :: place) e = es[k]?.bind (partAt? parts? place) := by
  rw [partAt?, h, Option.bind_some]

include hparts

theorem mem_places_iff {place : List Nat} :
    (∃ part k, (part, k) ∈ es.zipIdx ∧ ∃ rest ∈ placesOf part, k :: rest = place) ↔
      ∃ leaf, partAt? parts? place e = some leaf ∧ parts? leaf = none := by
  constructor
  · rintro ⟨part, k, hk, rest, hrest, rfl⟩
    rw [partAt?_cons h, List.mem_zipIdx_iff_getElem?.1 hk, Option.bind_some]
    exact ((hparts part (List.fst_mem_of_mem_zipIdx hk)).mem_iff rest).1 hrest
  · rintro ⟨leaf, hat, hleaf⟩
    cases place with
    | nil =>
      -- The value itself has parts.
      obtain rfl : e = leaf := Option.some.inj hat
      rw [h] at hleaf
      cases hleaf
    | cons k rest =>
      rw [partAt?_cons h] at hat
      obtain ⟨part, hpart, hat⟩ := Option.bind_eq_some_iff.1 hat
      exact ⟨part, k, List.mem_zipIdx_iff_getElem?.2 hpart, rest,
        ((hparts part (List.mem_of_getElem? hpart)).mem_iff rest).2 ⟨leaf, hat, hleaf⟩, rfl⟩

/-- The lists of the parts, one after the other, each place behind the number of its part. -/
theorem of_parts :
    ListsLeaves parts? e (es.zipIdx.flatMap fun (part, k) => (placesOf part).map (k :: ·))
      (es.flatMap leavesOf) where
  increasing := by
    rw [List.pairwise_flatMap]
    refine ⟨fun (part, k) hk => ?_, (pairwise_snd_zipIdx es).imp fun hlt p hp q hq => ?_⟩
    · rw [List.pairwise_map]
      exact (hparts part (List.fst_mem_of_mem_zipIdx hk)).increasing.imp
        List.cons_lt_cons_self.2
    · -- Of places in different parts the numbers of the parts decide.
      obtain ⟨p, -, rfl⟩ := List.mem_map.1 hp
      obtain ⟨q, -, rfl⟩ := List.mem_map.1 hq
      exact List.cons_lt_cons_iff.2 (.inl hlt)
  mem_iff place := by
    rw [← mem_places_iff h hparts]
    simp only [List.mem_flatMap, List.mem_map, Prod.exists]
  map_partAt? := by
    have hpart (part : α) (k : Nat) (hk : (part, k) ∈ es.zipIdx) :
        ((placesOf part).map (k :: ·)).map (partAt? parts? · e) = (leavesOf part).map some := by
      rw [List.map_map, ← (hparts part (List.fst_mem_of_mem_zipIdx hk)).map_partAt?]
      refine List.map_congr_left fun place _ => ?_
      rw [Function.comp_apply, partAt?_cons h, List.mem_zipIdx_iff_getElem?.1 hk, Option.bind_some]
    calc (es.zipIdx.flatMap fun (part, k) => (placesOf part).map (k :: ·)).map
          (partAt? parts? · e)
        = es.zipIdx.flatMap fun (part, _) => (leavesOf part).map some := by
          rw [List.map_flatMap]
          exact List.flatMap_congr fun (part, k) hk => hpart part k hk
      _ = (es.zipIdx.map Prod.fst).flatMap fun part => (leavesOf part).map some := by
          rw [List.flatMap_map]
      _ = (es.flatMap leavesOf).map some := by
          rw [List.zipIdx_map_fst, List.map_flatMap]

end Parts

end ListsLeaves

end Places

/-! ### Single errors -/

namespace Error

/-- The errors that an error puts together, if it is not a single one. -/
def parts? : Error → Option (List Error)
  | multiple errors => some errors
  | _ => none

mutual

/-- The places of the single errors, from left to right: an error that is looked at and not taken
apart tells its single errors by where they stand. -/
def leafPlaces : Error → List (List Nat)
  | multiple errors => leafPlacesFrom 0 errors
  | _ => [[]]

/-- The places of the single errors of a list whose first error has the number `k`. -/
def leafPlacesFrom (k : Nat) : List Error → List (List Nat)
  | [] => []
  | e :: es => (leafPlaces e).map (k :: ·) ++ leafPlacesFrom (k + 1) es

end

theorem leafPlacesFrom_eq (k : Nat) (errors : List Error) :
    leafPlacesFrom k errors =
      (errors.zipIdx k).flatMap fun (e, k) => e.leafPlaces.map (k :: ·) := by
  induction errors generalizing k with
  | nil => rw [leafPlacesFrom]; rfl
  | cons e errors ih => rw [leafPlacesFrom, ih, List.zipIdx_cons, List.flatMap_cons]

mutual

/-- The single errors of an error are listed from left to right. -/
theorem listsLeaves (e : Error) : ListsLeaves parts? e e.leafPlaces e.leaves := by
  cases e with
  | multiple errors =>
    -- Both lists are put together from those of the parts, which the other theorem has.
    rw [leafPlaces, leafPlacesFrom_eq, leaves, leavesList_eq_flatMap]
    exact .of_parts rfl (listsLeaves_of_mem errors)
  | malformedSchema | cyclicInheritance | unresolvedReference | unmappedType | unknownLanguage
  | profile | config | io | serialization | generation => exact .of_single rfl

theorem listsLeaves_of_mem (errors : List Error) :
    ∀ e ∈ errors, ListsLeaves parts? e e.leafPlaces e.leaves := by
  cases errors with
  | nil => nofun
  | cons e errors => exact List.forall_mem_cons.2 ⟨listsLeaves e, listsLeaves_of_mem errors⟩

end

end Error

namespace RenderError

/-- The errors that an error of a class puts together, if it is not a single one. -/
def parts? : RenderError → Option (List RenderError)
  | multiple errors => some errors
  | _ => none

theorem toErrors_eq_map (errors : List RenderError) : toErrors errors = errors.map toError := by
  induction errors with
  | nil => rw [toErrors, List.map_nil]
  | cons e errors ih => rw [toErrors, ih, List.map_cons]

mutual

/-- The single errors of the error of a class stand where they stand in the error of the run. -/
theorem listsLeaves (e : RenderError) : ListsLeaves parts? e e.toError.leafPlaces e.leaves := by
  cases e with
  | multiple errors =>
    -- A part becomes a part of the error of the run and keeps its number.
    rw [toError, Error.leafPlaces, Error.leafPlacesFrom_eq, toErrors_eq_map, List.zipIdx_map,
      List.flatMap_map, leaves, leavesList_eq_flatMap]
    exact .of_parts rfl (listsLeaves_of_mem errors)
  | unmapped | template | io => exact .of_single rfl

theorem listsLeaves_of_mem (errors : List RenderError) :
    ∀ e ∈ errors, ListsLeaves parts? e e.toError.leafPlaces e.leaves := by
  cases errors with
  | nil => nofun
  | cons e errors => exact List.forall_mem_cons.2 ⟨listsLeaves e, listsLeaves_of_mem errors⟩

end

end RenderError

/-- **No error is lost.** The single errors of an error are listed from left to right, each by its
place and by itself, and none of them puts others together. A list of errors is no error if it is
empty, and otherwise an error with the single errors of its elements in order. An error of a class
becomes an error of the run with the same places, at which its single errors stand as errors of the
run. -/
theorem Error.losesNone :
    (∀ e : Error, ListsLeaves parts? e e.leafPlaces e.leaves ∧
      ∀ errors, multiple errors ∉ e.leaves) ∧
    (∀ errors : List Error, (errors = [] ∧ ofList errors = .ok ()) ∨
      (errors ≠ [] ∧ ∃ e, ofList errors = .error e ∧ e.leaves = errors.flatMap leaves)) ∧
    (∀ errors : List RenderError, (errors = [] ∧ RenderError.ofList errors = none) ∨
      (errors ≠ [] ∧ ∃ e, RenderError.ofList errors = some e ∧
        e.leaves = errors.flatMap RenderError.leaves)) ∧
    ∀ e : RenderError, ListsLeaves RenderError.parts? e e.toError.leafPlaces e.leaves ∧
      e.toError.leaves = e.leaves.map RenderError.toError := by
  refine ⟨fun e => ⟨listsLeaves e, fun errors hmem => ?_⟩, fun errors => ?_, fun errors => ?_,
    fun e => ⟨RenderError.listsLeaves e, RenderError.leaves_toError e⟩⟩
  · cases (listsLeaves e).parts?_eq_none hmem
  · have hleaves := leaves_ofList errors
    cases hlist : ofList errors with
    | ok u => exact .inl ⟨by rwa [hlist] at hleaves, rfl⟩
    | error e =>
      rw [hlist] at hleaves
      exact .inr ⟨hleaves.1, e, rfl, hleaves.2⟩
  · have hleaves := RenderError.leaves_ofList errors
    cases hlist : RenderError.ofList errors with
    | none => exact .inl ⟨by rwa [hlist] at hleaves, rfl⟩
    | some e =>
      rw [hlist] at hleaves
      exact .inr ⟨hleaves.1, e, rfl, hleaves.2⟩

end CimSchema
