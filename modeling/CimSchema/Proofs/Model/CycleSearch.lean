import CimSchema.Proofs.Model.Reach

/-!
# The search for cycles

The search goes along a trail from each name that has a base, and stops where it comes to a name
that an earlier trail has left. It misses no cycle, because with a name it is done with all that the
name leads to: a trail comes to a new cycle before it comes to any name of it twice.

## Main definitions

* `Bases.Found` - what a search has found when it is done with some names.
* `PartitionsCycles` - a list of cycles that holds each name on a cycle exactly once.

## Main results

* `canonicalCycle_closeCycle` - turning a cycle keeps its steps.
* `Bases.exists_cycleOf?_trailFrom` - a trail runs into the cycles of its names.
* `Bases.Found.searchFrom`, `Bases.Found.foldl_searchFrom` - the search misses no cycle.
* `Bases.listsCycles` - what is listed are the cycles, in lexicographic order.
* `Bases.partitionsCycles_cycles` - each name that leads back to itself is on exactly one of them.
-/

namespace CimSchema

variable {next : String → Option String} {name : String}

/-! ### Turning a cycle -/

theorem exists_least_mem {names : List String} (h : names ≠ []) :
    ∃ least ∈ names, ∀ name ∈ names, least ≤ name := by
  induction names with
  | nil => exact absurd rfl h
  | cons name names ih =>
    by_cases hnil : names = []
    · subst hnil
      refine ⟨name, List.mem_cons_self, fun x hx => ?_⟩
      obtain rfl := List.mem_singleton.1 hx
      exact Std.le_refl x
    · obtain ⟨least, hmem, hleast⟩ := ih hnil
      rcases Std.le_total (a := name) (b := least) with hle | hle
      · refine ⟨name, List.mem_cons_self, fun x hx => ?_⟩
        rcases List.mem_cons.1 hx with rfl | hx
        · exact Std.le_refl x
        · exact Std.le_trans hle (hleast x hx)
      · refine ⟨least, List.mem_cons_of_mem name hmem, fun x hx => ?_⟩
        rcases List.mem_cons.1 hx with rfl | hx
        · exact hle
        · exact hleast x hx

/-- A list of names is turned at the smallest of them. -/
theorem closeCycle_eq {names : List String} (h : names ≠ []) :
    ∃ before least after, names = before ++ least :: after ∧ (∀ name ∈ names, least ≤ name) ∧
      closeCycle names = least :: (after ++ before) ++ [least] := by
  obtain ⟨least, hmem, hleast⟩ := exists_least_mem h
  have hlt : names.findIdx (fun name => names.all (name ≤ ·)) < names.length :=
    List.findIdx_lt_length_of_exists
      ⟨least, hmem, List.all_eq_true.2 fun name hname => decide_eq_true (hleast name hname)⟩
  have hle : ∀ name ∈ names, names[names.findIdx fun name => names.all (name ≤ ·)] ≤ name := by
    intro name hname
    have hall := List.findIdx_getElem (w := hlt)
    exact of_decide_eq_true (List.all_eq_true.1 hall name hname)
  simp only [closeCycle]
  generalize names.findIdx (fun name => names.all (name ≤ ·)) = start at hlt hle ⊢
  have hdrop := List.drop_eq_getElem_cons hlt
  refine ⟨names.take start, names[start], names.drop (start + 1), ?_, hle, ?_⟩
  · rw [← hdrop, List.take_append_drop]
  · rw [hdrop]
    rfl

/-- Turning a cycle keeps its steps. -/
theorem canonicalCycle_closeCycle {rest : List String} (hnodup : (name :: rest).Nodup)
    (hchain : (name :: rest ++ [name]).IsChain (fun name base => next name = some base)) :
    CanonicalCycle next (closeCycle (name :: rest)) := by
  obtain ⟨before, least, after, hsplit, hleast, hclosed⟩ :=
    closeCycle_eq (List.cons_ne_nil name rest)
  rw [hclosed]
  cases before with
  | nil =>
    obtain ⟨rfl, rfl⟩ := List.cons.inj hsplit
    rw [List.append_nil]
    exact ⟨name, rest, rfl, hnodup, hchain, fun x hx => hleast x (List.mem_cons_of_mem name hx)⟩
  | cons first before =>
    obtain ⟨rfl, rfl⟩ := List.cons.inj hsplit
    have hturned :
        (least :: (after ++ name :: before)).Perm (name :: (before ++ least :: after)) := by
      rw [← List.cons_append, ← List.cons_append]
      exact List.perm_append_comm
    refine ⟨least, after ++ name :: before, rfl, hturned.nodup_iff.2 hnodup, ?_, ?_⟩
    · have hparts : ((name :: before) ++ least :: (after ++ [name])).IsChain
          (fun name base => next name = some base) := by
        simpa using hchain
      obtain ⟨hfirst, hsecond⟩ := List.isChain_split.1 hparts
      have hjoined : ((least :: after) ++ name :: (before ++ [least])).IsChain
          (fun name base => next name = some base) :=
        List.isChain_split.2 ⟨hsecond, hfirst⟩
      simpa using hjoined
    · intro x hx
      exact hleast x (hturned.mem_iff.1 (List.mem_cons_of_mem least hx))

theorem mem_closeCycle {names : List String} (h : name ∈ names) : name ∈ closeCycle names := by
  obtain ⟨before, least, after, hsplit, -, hclosed⟩ := closeCycle_eq (List.ne_nil_of_mem h)
  rw [hsplit] at h
  rw [hclosed]
  simp only [List.mem_append, List.mem_cons] at h ⊢
  tauto

namespace Bases

variable {bases : Bases} {s : CycleSearch} {left trail cycle : List String} {last base x : String}

/-! ### The cycle of a trail -/

/-- A trail whose last name has a base on it runs into the cycle of this base. -/
theorem cycleOf?_of_mem (hnodup : trail.Nodup)
    (hchain : trail.IsChain fun name base => bases.get? name = some base)
    (hlast : trail.getLast? = some last) (hbase : bases.get? last = some base)
    (hmem : base ∈ trail) :
    ∃ cycle, bases.cycleOf? trail = some cycle ∧ CanonicalCycle bases.get? cycle ∧
      base ∈ cycle := by
  refine ⟨closeCycle (trail.drop (trail.idxOf base)), ?_, ?_⟩
  · rw [cycleOf?, hlast, Option.bind_some, hbase]
    exact if_pos hmem
  have hlt : trail.idxOf base < trail.length := List.idxOf_lt_length_iff.2 hmem
  have hdrop : trail.drop (trail.idxOf base) = base :: trail.drop (trail.idxOf base + 1) := by
    rw [List.drop_eq_getElem_cons hlt, List.getElem_idxOf]
  have hlast' : (trail.drop (trail.idxOf base)).getLast? = some last := by
    rw [List.getLast?_drop, if_neg (Nat.not_le.2 hlt), hlast]
  have hnodup' := hnodup.sublist (List.drop_sublist (trail.idxOf base) trail)
  have hchain' := hchain.drop (trail.idxOf base)
  rw [hdrop] at hlast' hnodup' hchain' ⊢
  refine ⟨canonicalCycle_closeCycle hnodup' ?_, mem_closeCycle List.mem_cons_self⟩
  -- The last step of the cycle is that to the base.
  refine hchain'.append (.singleton base) fun y hy z hz => ?_
  obtain rfl : last = y := Option.some.inj (hlast'.symm.trans hy)
  obtain rfl : base = z := by simpa using hz
  exact hbase

theorem exists_of_cycleOf? (h : bases.cycleOf? trail = some cycle) :
    ∃ last base, trail.getLast? = some last ∧ bases.get? last = some base ∧ base ∈ trail := by
  rw [cycleOf?] at h
  split at h
  · rename_i base hbase
    obtain ⟨last, hlast, hbase⟩ := Option.bind_eq_some_iff.1 hbase
    split at h
    · exact ⟨last, base, hlast, hbase, ‹_›⟩
    · cases h
  · cases h

theorem canonicalCycle_of_cycleOf? (h : bases.cycleOf? (bases.trailFrom left name) = some cycle) :
    CanonicalCycle bases.get? cycle := by
  obtain ⟨last, base, hlast, hbase, hmem⟩ := exists_of_cycleOf? h
  obtain ⟨cycle', hcycle', hcanonical, -⟩ := cycleOf?_of_mem (bases.nodup_trailFrom left name)
    (bases.isChain_trailFrom left name) hlast hbase hmem
  obtain rfl : cycle' = cycle := Option.some.inj (hcycle'.symm.trans h)
  exact hcanonical

/-- A trail runs into the cycles of its names, where what was left leads to nothing new. -/
theorem exists_cycleOf?_trailFrom
    (hclosed : ∀ y ∈ left, ∀ base, bases.get? y = some base → base ∈ left)
    (hx : x ∈ bases.trailFrom left name) (honCycle : OnCycle bases.get? x) :
    ∃ cycle, bases.cycleOf? (bases.trailFrom left name) = some cycle ∧ x ∈ cycle := by
  obtain ⟨last, hlast⟩ : ∃ last, (bases.trailFrom left name).getLast? = some last :=
    ⟨_, List.getLast?_eq_some_getLast (List.ne_nil_of_mem hx)⟩
  have hchain := bases.isChain_trailFrom left name
  have hreach : Reaches bases.get? x last := reaches_getLast hchain hlast hx
  -- The last name is on the cycle, too, and so is its base.
  obtain ⟨base, hbase, hback⟩ := onCycle_iff.1 (honCycle.of_reaches hreach)
  have hlastMem := List.mem_of_getLast? hlast
  rcases mem_of_mem_trailFrom hlastMem hbase with hleft | hmem
  · -- From a name that was left there is no way to the trail.
    have hleft' : last ∈ left := by
      clear hlast hlastMem hreach hbase
      induction hback with
      | refl => exact hleft
      | tail _ hstep ih => exact hclosed _ ih _ hstep
    exact absurd hleft' (not_mem_left_of_mem_trailFrom hlastMem)
  · obtain ⟨cycle, hcycle, hcanonical, hbaseMem⟩ :=
      cycleOf?_of_mem (bases.nodup_trailFrom left name) hchain hlast hbase hmem
    exact ⟨cycle, hcycle,
      (hcanonical.mem_iff_reaches hbaseMem).2 (honCycle.reaches_back (hreach.step hbase))⟩

/-! ### The search -/

/-- What a search has found when it is done with some names: with a name it is done with the base,
and it has listed the cycles that it came to, which are those of the names. -/
structure Found (bases : Bases) (s : CycleSearch) : Prop where
  closed : ∀ x ∈ s.done, ∀ base, bases.get? x = some base → base ∈ s.done
  canonical : ∀ cycle ∈ s.cycles, CanonicalCycle bases.get? cycle
  exists_mem : ∀ x ∈ s.done, OnCycle bases.get? x → ∃ cycle ∈ s.cycles, x ∈ cycle
  increasing : s.cycles.Pairwise (· < ·)

theorem mem_done_searchFrom :
    x ∈ (bases.searchFrom s name).done ↔ x ∈ bases.trailFrom s.done name ∨ x ∈ s.done :=
  List.mem_append

theorem mem_cycles_searchFrom :
    cycle ∈ (bases.searchFrom s name).cycles ↔
      bases.cycleOf? (bases.trailFrom s.done name) = some cycle ∨ cycle ∈ s.cycles := by
  rw [searchFrom]
  cases bases.cycleOf? (bases.trailFrom s.done name) with
  | none => simp
  | some found =>
    dsimp only
    rw [mem_insertIncreasing, Option.some_inj, eq_comm]

/-- One more trail. -/
theorem Found.searchFrom (h : bases.Found s) (start : String) :
    bases.Found (bases.searchFrom s start) where
  closed x hx base hbase := by
    rw [mem_done_searchFrom] at hx ⊢
    rcases hx with hx | hx
    · exact (mem_of_mem_trailFrom hx hbase).symm
    · exact .inr (h.closed x hx base hbase)
  canonical cycle hcycle := by
    rcases mem_cycles_searchFrom.1 hcycle with hcycle | hcycle
    · exact canonicalCycle_of_cycleOf? hcycle
    · exact h.canonical cycle hcycle
  exists_mem x hx honCycle := by
    rcases mem_done_searchFrom.1 hx with hx | hx
    · obtain ⟨cycle, hcycle, hmem⟩ := exists_cycleOf?_trailFrom h.closed hx honCycle
      exact ⟨cycle, mem_cycles_searchFrom.2 (.inl hcycle), hmem⟩
    · obtain ⟨cycle, hcycle, hmem⟩ := h.exists_mem x hx honCycle
      exact ⟨cycle, mem_cycles_searchFrom.2 (.inr hcycle), hmem⟩
  increasing := by
    rw [Bases.searchFrom]
    cases bases.cycleOf? (bases.trailFrom s.done start) with
    | none => exact h.increasing
    | some cycle => exact increasing_insertIncreasing cycle h.increasing

/-- The search is done with a name from which it went on. -/
theorem mem_done_searchFrom_self : name ∈ (bases.searchFrom s name).done := by
  rw [mem_done_searchFrom]
  by_cases hdone : name ∈ s.done
  · exact .inr hdone
  · exact .inl (mem_trailFrom_self hdone)

theorem Found.foldl_searchFrom (h : bases.Found s) (starts : List String) :
    bases.Found (starts.foldl bases.searchFrom s) ∧
      ∀ x, x ∈ starts ∨ x ∈ s.done → x ∈ (starts.foldl bases.searchFrom s).done := by
  induction starts generalizing s with
  | nil =>
    refine ⟨h, fun x hx => ?_⟩
    rcases hx with hx | hx
    · exact absurd hx List.not_mem_nil
    · exact hx
  | cons start starts ih =>
    obtain ⟨hfound, hdone⟩ := ih (h.searchFrom start)
    refine ⟨hfound, fun x hx => hdone x ?_⟩
    rcases hx with hx | hx
    · rcases List.mem_cons.1 hx with rfl | hx
      · exact .inr mem_done_searchFrom_self
      · exact .inl hx
    · exact .inr (mem_done_searchFrom.2 (.inr hx))

theorem found_empty (bases : Bases) : bases.Found {} where
  closed _ hx := absurd hx List.not_mem_nil
  canonical _ hcycle := absurd hcycle List.not_mem_nil
  exists_mem _ hx := absurd hx List.not_mem_nil
  increasing := .nil

/-! ### What is listed -/

theorem pairwise_cycles (bases : Bases) : bases.cycles.Pairwise (· < ·) :=
  (bases.found_empty.foldl_searchFrom bases.keys).1.increasing

/-- A name that leads back to itself is on a cycle that is listed. -/
theorem exists_mem_cycles (h : OnCycle bases.get? name) : ∃ cycle ∈ bases.cycles, name ∈ cycle := by
  obtain ⟨hfound, hdone⟩ := bases.found_empty.foldl_searchFrom bases.keys
  obtain ⟨base, hbase, -⟩ := onCycle_iff.1 h
  exact hfound.exists_mem name (hdone name (.inl (mem_keys_of_get? hbase))) h

theorem mem_cycles_iff : cycle ∈ bases.cycles ↔ CanonicalCycle bases.get? cycle := by
  have hcanonical := (bases.found_empty.foldl_searchFrom bases.keys).1.canonical
  constructor
  · exact hcanonical cycle
  · intro h
    obtain ⟨first, hfirst⟩ : ∃ first, first ∈ cycle := by
      obtain ⟨first, rest, rfl, -⟩ := h
      exact ⟨first, List.mem_cons_self⟩
    obtain ⟨cycle', hcycle', hmem⟩ := exists_mem_cycles (h.onCycle hfirst)
    obtain rfl := h.unique (hcanonical cycle' hcycle') hfirst hmem
    exact hcycle'

/-- Whether there are cycles depends on nothing but the base of each name. -/
theorem cycles_eq_nil_of_get?_eq {other : Bases} (h : bases.get? = other.get?)
    (hnone : other.cycles = []) : bases.cycles = [] := by
  refine List.eq_nil_iff_forall_not_mem.2 fun cycle hcycle => ?_
  rw [mem_cycles_iff, h, ← mem_cycles_iff, hnone] at hcycle
  exact List.not_mem_nil hcycle

/-- What is listed are the cycles, in lexicographic order. -/
theorem listsCycles (bases : Bases) : ListsCycles bases.get? bases.cycles where
  mem_iff _ := mem_cycles_iff
  increasing := bases.pairwise_cycles

end Bases

/-- `cycles` lists the cycles of `next` in lexicographic order, each from its smallest name back to
it, and each name that leads back to itself is on exactly one of them. -/
structure PartitionsCycles (next : String → Option String) (cycles : List (List String)) :
    Prop where
  canonical : ∀ cycle ∈ cycles, CanonicalCycle next cycle
  /-- A list is one whole cycle. -/
  mem_iff_reaches : ∀ cycle ∈ cycles, ∀ x ∈ cycle, ∀ y, y ∈ cycle ↔ Reaches next x y
  existsUnique : ∀ name, OnCycle next name → ∃! cycle, cycle ∈ cycles ∧ name ∈ cycle
  /-- A name that only leads into a cycle is on none. -/
  not_mem : ∀ name, ¬ OnCycle next name → ∀ cycle ∈ cycles, name ∉ cycle
  increasing : cycles.Pairwise (· < ·)

/-- **Cycles.** What is listed are the cycles of the bases, each once. -/
theorem Bases.partitionsCycles_cycles (bases : Bases) : PartitionsCycles bases.get? bases.cycles where
  canonical cycle hcycle := mem_cycles_iff.1 hcycle
  mem_iff_reaches cycle hcycle x hx y := (mem_cycles_iff.1 hcycle).mem_iff_reaches hx
  existsUnique name hname := by
    obtain ⟨cycle, hcycle, hmem⟩ := exists_mem_cycles hname
    refine ⟨cycle, ⟨hcycle, hmem⟩, ?_⟩
    rintro other ⟨hother, hmem'⟩
    exact (mem_cycles_iff.1 hother).unique (mem_cycles_iff.1 hcycle) hmem' hmem
  not_mem name hname cycle hcycle hmem := hname ((mem_cycles_iff.1 hcycle).onCycle hmem)
  increasing := bases.pairwise_cycles

/-- Of two cycles and two names from which bases lead into one of them. -/
example :
    Bases.cycles (.ofList [("X", "Y"), ("Y", "Z"), ("Z", "Y"), ("S", "S"), ("A", "X")]) =
      [["S", "S"], ["Y", "Z", "Y"]] := by
  decide +kernel

end CimSchema
