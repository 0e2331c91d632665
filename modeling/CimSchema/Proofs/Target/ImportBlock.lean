import CimSchema.Proofs.Name.Lookup
import CimSchema.Proofs.Text.Segment
import CimSchema.Target.Imports

/-!
# Import blocks

Imports are collected one after the other while source text is written, and the same import may come
up many times. What is collected depends on which imports came up and on nothing else, because the
modules and the items of each are kept in order, each once.

## Main definitions

* `Imports.Call`, `Imports.ofCalls` - the steps that collect imports, and what they collect.
* `Imports.Has` - an item of a module is imported.
* `ListsInOrder` - an increasing list of the names that a predicate holds for.
* `Imports.WritesPython` - the lines of a Python block, in terms of the steps alone.

## Main results

* `Imports.has_ofCalls`, `Imports.mem_keys_ofCalls`, `Imports.mem_direct_ofCalls` - what is
  collected.
* `Imports.ofCalls_eq` - the same steps, in any order and number, collect the same.
* `Imports.pythonLines_eq` - the lines of a Python block.
* `Imports.ofCalls_canonical` - the blocks of imports that were collected in different ways.
-/

namespace CimSchema

/-- `names` are the names that `p` holds for, in increasing order and each once. -/
structure ListsInOrder (p : String → Prop) (names : List String) : Prop where
  increasing : names.Pairwise (· < ·)
  mem_iff : ∀ x, x ∈ names ↔ p x

theorem ListsInOrder.filter {p : String → Prop} {names : List String} (h : ListsInOrder p names)
    (q : String → Bool) : ListsInOrder (fun x => p x ∧ q x = true) (names.filter q) where
  increasing := h.increasing.filter q
  mem_iff x := by rw [List.mem_filter, h.mem_iff]

namespace Imports

/-! ### Steps -/

/-- A step that adds an import: an item of a module, or a direct one. -/
inductive Call where
  | item (module item : String)
  | direct (item : String)
  deriving DecidableEq, Repr

/-- The imports after a step. -/
def perform (i : Imports) : Call → Imports
  | .item module item => i.add module item
  | .direct item => i.addDirect item

/-- The imports that are collected in some steps. -/
def ofCalls (calls : List Call) : Imports :=
  calls.foldl perform {}

/-- The item `item` of a module is imported. -/
def Has (i : Imports) (module item : String) : Prop :=
  ∃ items, i.modules.get? module = some items ∧ item ∈ items

section Step

variable {i : Imports} {call : Call} {module item x y : String}

theorem mem_keys_add : x ∈ (i.add module item).modules.keys ↔ x = module ∨ x ∈ i.modules.keys :=
  NameMap.mem_keys_insert

theorem has_add : (i.add module item).Has x y ↔ (x = module ∧ y = item) ∨ i.Has x y := by
  simp only [Has, add, NameMap.get?_insert]
  by_cases hx : x = module
  · subst hx
    cases i.modules.get? x with
    | none =>
      have hempty : y ∉ NameSet.empty := List.not_mem_nil
      simp [NameSet.mem_insert, hempty]
    | some items => simp [NameSet.mem_insert]
  · simp [hx]

theorem has_perform (i : Imports) (call : Call) :
    (i.perform call).Has x y ↔ call = .item x y ∨ i.Has x y := by
  cases call with
  | item module item => rw [perform, has_add, Call.item.injEq, eq_comm, eq_comm (a := y)]
  | direct item =>
    rw [or_iff_right Call.noConfusion]
    rfl

theorem mem_keys_perform (i : Imports) (call : Call) :
    x ∈ (i.perform call).modules.keys ↔ (∃ y, call = .item x y) ∨ x ∈ i.modules.keys := by
  cases call with
  | item module item =>
    rw [perform, mem_keys_add]
    simp [eq_comm]
  | direct item => simp [perform, addDirect]

theorem mem_direct_perform (i : Imports) (call : Call) :
    x ∈ (i.perform call).direct ↔ call = .direct x ∨ x ∈ i.direct := by
  cases call with
  | item module item => simp [perform, add]
  | direct item => rw [perform, addDirect, NameSet.mem_insert, Call.direct.injEq, eq_comm]

end Step

/-! ### What is collected -/

variable {calls calls' : List Call} {x y : String}

/-- What steps bring about and none of them undoes holds in the end if one of them brings it
about. -/
theorem foldl_perform_iff (holds : Imports → Prop) (adds : Call → Prop)
    (hstep : ∀ i call, holds (i.perform call) ↔ adds call ∨ holds i) (calls : List Call)
    (i : Imports) : holds (calls.foldl perform i) ↔ (∃ call ∈ calls, adds call) ∨ holds i := by
  induction calls generalizing i with
  | nil => simp
  | cons call calls ih =>
    rw [List.foldl_cons, ih, hstep]
    simp [or_assoc, or_left_comm]

theorem has_ofCalls : (ofCalls calls).Has x y ↔ .item x y ∈ calls := by
  have hempty : ¬ Has {} x y := fun ⟨_, hitems, _⟩ => nomatch hitems
  rw [ofCalls, foldl_perform_iff (Has · x y) (· = .item x y) has_perform, or_iff_left hempty,
    exists_eq_right]

theorem mem_keys_ofCalls : x ∈ (ofCalls calls).modules.keys ↔ ∃ y, .item x y ∈ calls := by
  have hempty : x ∉ ({} : Imports).modules.keys := List.not_mem_nil
  rw [ofCalls, foldl_perform_iff (x ∈ ·.modules.keys) (fun call => ∃ y, call = .item x y)
    mem_keys_perform, or_iff_left hempty]
  constructor
  · rintro ⟨_, hcall, y, rfl⟩
    exact ⟨y, hcall⟩
  · rintro ⟨y, hcall⟩
    exact ⟨_, hcall, y, rfl⟩

theorem mem_direct_ofCalls : x ∈ (ofCalls calls).direct ↔ .direct x ∈ calls := by
  have hempty : x ∉ ({} : Imports).direct := List.not_mem_nil
  rw [ofCalls, foldl_perform_iff (x ∈ ·.direct) (· = .direct x) mem_direct_perform,
    or_iff_left hempty, exists_eq_right]

/-- Imports of the same modules, items and direct imports are the same. -/
theorem eq_of_has {i j : Imports} (hkeys : ∀ x, x ∈ i.modules.keys ↔ x ∈ j.modules.keys)
    (hhas : ∀ x y, i.Has x y ↔ j.Has x y) (hdirect : ∀ x, x ∈ i.direct ↔ x ∈ j.direct) : i = j := by
  have hmodules : i.modules = j.modules := by
    -- The modules tell where items are found, and the items what is found there.
    refine NameMap.eq_of_get?_eq fun x => ?_
    cases hi : i.modules.get? x with
    | none =>
      rw [NameMap.get?_eq_none_iff, hkeys, ← NameMap.get?_eq_none_iff] at hi
      exact hi.symm
    | some s =>
      obtain ⟨t, hj⟩ := NameMap.mem_keys_iff.1 ((hkeys x).1 (NameMap.mem_keys_iff.2 ⟨s, hi⟩))
      have hitems : s = t := NameSet.ext fun y => by simpa [Has, hi, hj] using hhas x y
      rw [hj, hitems]
  cases i
  cases j
  rw [mk.injEq]
  exact ⟨hmodules, NameSet.ext hdirect⟩

/-- The same steps, in any order and each any number of times, collect the same. -/
theorem ofCalls_eq (h : ∀ call, call ∈ calls ↔ call ∈ calls') : ofCalls calls = ofCalls calls' := by
  apply eq_of_has
  · intro x
    simp only [mem_keys_ofCalls, h]
  · intro x y
    rw [has_ofCalls, has_ofCalls, h]
  · intro x
    rw [mem_direct_ofCalls, mem_direct_ofCalls, h]

/-! ### Python blocks -/

/-- A module is found relative to the package: it starts with a point. -/
def StartsWithPoint (module : String) : Prop :=
  ∃ rest, module = "." ++ rest

theorem isRelative_iff {module : String} : isRelative module = true ↔ StartsWithPoint module := by
  rw [isRelative, Option.isSome_iff_exists]
  constructor
  · rintro ⟨rest, hrest⟩
    exact ⟨rest, Text.stripStart?_eq_some hrest⟩
  · rintro ⟨rest, rfl⟩
    exact ⟨rest, Text.stripStart?_append "." rest⟩

/-- The items of a module. -/
def items (i : Imports) (module : String) : NameSet :=
  (i.modules.get? module).getD .empty

theorem mem_items {i : Imports} : y ∈ i.items x ↔ i.Has x y := by
  have hempty : y ∉ NameSet.empty := List.not_mem_nil
  rw [items, Has]
  cases i.modules.get? x <;> simp [hempty]

/-- The line that imports some items of a module. -/
def pythonLine (module : String) (items : List String) : String :=
  "from " ++ module ++ " import " ++ ", ".intercalate items

theorem pythonLines_eq (i : Imports) :
    i.pythonLines =
      (i.modules.keys.filter (!isRelative ·) ++ i.modules.keys.filter isRelative).map
        (fun module => pythonLine module (i.items module).toList) ++ i.direct.toList := by
  have hlines (p : String → Bool) :
      (i.modules.toList.filter fun e => p e.1).map (fun e => pythonLine e.1 e.2.toList) =
        (i.modules.keys.filter p).map fun module => pythonLine module (i.items module).toList := by
    rw [NameMap.keys, List.filter_map, List.map_map]
    refine List.map_congr_left fun e he => ?_
    have hfound : i.modules.get? e.1 = some e.2 :=
      NameMap.get?_eq_some_iff.2 (List.mem_filter.1 he).1
    rw [Function.comp_apply, items, hfound, Option.getD_some]
  rw [List.map_append, ← hlines, ← hlines, ← List.map_append]
  rfl

/-- The lines of a Python block: one for each module with all its items in order, first the modules
outside the package and then those of the package, both in order, and at last the direct imports. -/
def WritesPython (calls : List Call) (block : String) : Prop :=
  ∃ (outside inside direct : List String) (items : String → List String),
    ListsInOrder (fun module => (∃ item, .item module item ∈ calls) ∧ ¬ StartsWithPoint module)
      outside ∧
    ListsInOrder (fun module => (∃ item, .item module item ∈ calls) ∧ StartsWithPoint module)
      inside ∧
    (∀ module, ListsInOrder (fun item => .item module item ∈ calls) (items module)) ∧
    ListsInOrder (fun item => .direct item ∈ calls) direct ∧
    block = "\n".intercalate
      ((outside ++ inside).map (fun module => pythonLine module (items module)) ++ direct)

theorem writesPython_ofCalls (calls : List Call) : WritesPython calls (ofCalls calls).python := by
  have hmodules : ListsInOrder (fun x => ∃ y, .item x y ∈ calls) (ofCalls calls).modules.keys :=
    ⟨(ofCalls calls).modules.pairwise_keys, fun _ => mem_keys_ofCalls⟩
  have houtside := hmodules.filter (!isRelative ·)
  have hinside := hmodules.filter isRelative
  simp only [Bool.not_eq_true', Bool.eq_false_iff, ne_eq, isRelative_iff] at houtside hinside
  refine ⟨_, _, (ofCalls calls).direct.toList, fun x => ((ofCalls calls).items x).toList, houtside,
    hinside, fun x => ⟨((ofCalls calls).items x).increasing, fun y => ?_⟩,
    ⟨(ofCalls calls).direct.increasing, fun x => mem_direct_ofCalls⟩,
    congrArg ("\n".intercalate ·) (pythonLines_eq _)⟩
  exact mem_items.trans has_ofCalls

/-- **Import blocks.** The blocks of imports that were collected in the same steps, in any order and
each any number of times, are the same, and so is whether there are any. A Python block has one line
for each module. -/
theorem ofCalls_canonical (h : ∀ call, call ∈ calls ↔ call ∈ calls') :
    (ofCalls calls).python = (ofCalls calls').python ∧
      (ofCalls calls).java = (ofCalls calls').java ∧
      (ofCalls calls).cpp = (ofCalls calls').cpp ∧
      (ofCalls calls).isEmpty = (ofCalls calls').isEmpty ∧
      WritesPython calls (ofCalls calls).python := by
  rw [← ofCalls_eq h]
  exact ⟨rfl, rfl, rfl, rfl, writesPython_ofCalls calls⟩

/-- What the module of a class imports. -/
def breakerCalls : List Call :=
  [.item ".Switch" "Switch", .item "dataclasses" "field", .item "dataclasses" "dataclass",
    .direct "import math"]

/-- The same imports in another order, one of them twice. -/
def breakerCallsAgain : List Call :=
  [.direct "import math", .item "dataclasses" "dataclass", .item ".Switch" "Switch",
    .item "dataclasses" "field", .item "dataclasses" "dataclass"]

theorem ofCalls_canonical_breaker :
    (∀ call, call ∈ breakerCalls ↔ call ∈ breakerCallsAgain) ∧
      (ofCalls breakerCalls).python =
        "from dataclasses import dataclass, field\nfrom .Switch import Switch\nimport math" ∧
      (ofCalls breakerCalls).python = (ofCalls breakerCallsAgain).python ∧
      (ofCalls breakerCalls).java = (ofCalls breakerCallsAgain).java ∧
      (ofCalls breakerCalls).cpp = (ofCalls breakerCallsAgain).cpp ∧
      WritesPython breakerCalls (ofCalls breakerCalls).python := by
  have hsame : ∀ call, call ∈ breakerCalls ↔ call ∈ breakerCallsAgain := by
    intro call
    simp only [breakerCalls, breakerCallsAgain, List.mem_cons, List.not_mem_nil]
    tauto
  obtain ⟨hpython, hjava, hcpp, -, hwrites⟩ := ofCalls_canonical hsame
  exact ⟨hsame, by decide +kernel, hpython, hjava, hcpp, hwrites⟩

end Imports

end CimSchema
