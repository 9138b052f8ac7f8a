import Strata.Lookup
import Strata.Proofs.Firsts
import Strata.Proofs.Folding

/-!
# What is asked beforehand

The questions of a filter are collected from the steps of all its sequences, and what is asked twice
is asked once: names that differ in case only become one name, conditions of one key one condition.
Which spelling is kept does not matter to who looks the answer up, as long as one is. So every name
and every condition of a step is asked for in some spelling (`exists_asked_of_mem_solutions`,
`exists_asked_of_condition`).
-/

namespace Strata

namespace Lookup

/-! ## Names -/

theorem distinctNames_eq (names : List String) :
    distinctNames names
      = (insertEach (names.map fun name => (Text.lowercase name, name)) []).map (·.2) := by
  rw [distinctNames, insertEach, List.foldl_map]

/-- In lowercase, the names that are kept are all names, sorted. -/
theorem map_lowercase_distinctNames (names : List String) :
    (distinctNames names).map Text.lowercase = sortedNames (names.map Text.lowercase) := by
  have hkeys : ∀ entry ∈ insertEach (names.map fun name => (Text.lowercase name, name)) [],
      Text.lowercase entry.2 = entry.1 := by
    intro entry hentry
    obtain ⟨name, -, rfl⟩ :=
      List.mem_map.1 ((mem_of_mem_insertEach hentry).resolve_right List.not_mem_nil)
    rfl
  rw [distinctNames_eq, List.map_map]
  refine (List.map_congr_left hkeys).trans ?_
  rw [map_fst_insertEach, List.map_map]
  rfl

theorem isFirst_entry {names : List String} {name : String} :
    IsFirst Prod.fst (names.map fun name => (Text.lowercase name, name)) (Text.lowercase name, name)
      ↔ IsFirst Text.lowercase names name := by
  rw [IsFirst, IsFirst, List.find?_map, Option.map_eq_some_iff]
  constructor
  · rintro ⟨found, hfound, heq⟩
    obtain rfl : found = name := (Prod.mk.inj heq).2
    exact hfound
  · exact fun h => ⟨name, h, rfl⟩

/-- The names that are kept are those that come first in their lowercase, in its order. -/
theorem firstOfEach_distinctNames (names : List String) :
    FirstOfEach Text.lowercase (fun a b => Text.lowercase a < Text.lowercase b) names
      (distinctNames names) where
  mem_iff name := by
    have hentries := firstOfEach_insertEach (names.map fun name => (Text.lowercase name, name))
    rw [distinctNames_eq, List.mem_map]
    constructor
    · rintro ⟨entry, hmem, rfl⟩
      have hfirst := (hentries.mem_iff entry).1 hmem
      obtain ⟨other, -, rfl⟩ := List.mem_map.1 hfirst.mem
      exact isFirst_entry.1 hfirst
    · intro hfirst
      exact ⟨_, (hentries.mem_iff _).2 (isFirst_entry.2 hfirst), rfl⟩
  ordered := by
    have hsorted := sortedNames_pairwise (names.map Text.lowercase)
    rw [← map_lowercase_distinctNames, List.pairwise_map] at hsorted
    exact hsorted

theorem exists_mem_distinctNames {names : List String} {name : String} (h : name ∈ names) :
    ∃ kept ∈ distinctNames names, Text.same name kept = true := by
  obtain ⟨kept, hfirst, hkey⟩ := exists_isFirst Text.lowercase h
  exact ⟨kept, ((firstOfEach_distinctNames names).mem_iff kept).2 hfirst,
    Text.same_iff_lowercase.2 hkey.symm⟩

/-! ## Conditions -/

/-- A condition put behind others, unless one of its key is among them. -/
def addDistinct (kept : List LayerCondition) (condition : LayerCondition) : List LayerCondition :=
  if kept.any fun k => k.key == condition.key then kept else kept ++ [condition]

section

variable {conditions : List LayerCondition} {condition : LayerCondition}

theorem distinctConditions_append_singleton (conditions : List LayerCondition)
    (last : LayerCondition) :
    distinctConditions (conditions ++ [last]) = addDistinct (distinctConditions conditions) last :=
  List.foldl_append

/-- Whether the key of one condition is met before that of another. -/
def comesBefore (conditions : List LayerCondition) (a b : LayerCondition) : Prop :=
  firstPlace LayerCondition.key conditions a < firstPlace LayerCondition.key conditions b

theorem comesBefore_append {a b : LayerCondition} (ha : a ∈ conditions) (hb : b ∈ conditions)
    (more : List LayerCondition) (h : comesBefore conditions a b) :
    comesBefore (conditions ++ more) a b := by
  rw [comesBefore, firstPlace_append_of_mem ha, firstPlace_append_of_mem hb]
  exact h

/-- What comes first among conditions comes first among more of them, at the same place. So one that
is added is kept, at the end, if its key is new. -/
theorem firstOfEach_addDistinct {kept : List LayerCondition}
    (h : FirstOfEach LayerCondition.key (comesBefore conditions) conditions kept)
    (last : LayerCondition) :
    FirstOfEach LayerCondition.key (comesBefore (conditions ++ [last])) (conditions ++ [last])
      (addDistinct kept last) := by
  have hmem : ∀ a ∈ kept, a ∈ conditions := fun a ha => ((h.mem_iff a).1 ha).mem
  have hordered : kept.Pairwise (comesBefore (conditions ++ [last])) :=
    h.ordered.imp_of_mem fun ha hb => comesBefore_append (hmem _ ha) (hmem _ hb) [last]
  rw [addDistinct]
  split
  · next hany =>
      obtain ⟨found, hfound, hkey⟩ := List.any_eq_true.1 hany
      refine ⟨fun a => ?_, hordered⟩
      rw [h.mem_iff, isFirst_append_singleton]
      refine (or_iff_left fun hlast => ?_).symm
      exact hlast.2 found (hmem found hfound) (beq_iff_eq.1 hkey)
  · next hnone =>
      have hnew : ∀ other ∈ conditions, other.key ≠ last.key := by
        intro other hother hkey
        obtain ⟨found, hfirst, hfound⟩ := exists_isFirst LayerCondition.key hother
        refine hnone (List.any_eq_true.2 ⟨found, (h.mem_iff found).2 hfirst, ?_⟩)
        exact beq_iff_eq.2 (hfound.trans hkey)
      refine ⟨fun a => ?_, ?_⟩
      · rw [List.mem_append, List.mem_singleton, h.mem_iff, isFirst_append_singleton,
          and_iff_left hnew]
      · refine List.pairwise_append.2 ⟨hordered, List.pairwise_singleton _ last, ?_⟩
        intro a ha b hb
        rw [List.mem_singleton.1 hb, comesBefore, firstPlace_append_of_mem (hmem a ha),
          firstPlace_append_of_new hnew]
        exact firstPlace_lt_length (hmem a ha)

/-- The conditions that are kept are those that come first of their keys, as they come. -/
theorem firstOfEach_distinctConditions (conditions : List LayerCondition) :
    FirstOfEach LayerCondition.key (comesBefore conditions) conditions
      (distinctConditions conditions) := by
  induction conditions using List.reverseRecOn with
  | nil => exact ⟨fun _ => iff_of_false List.not_mem_nil (fun h => nomatch h), List.Pairwise.nil⟩
  | append_singleton conditions last ih =>
      rw [distinctConditions_append_singleton]
      exact firstOfEach_addDistinct ih last

theorem exists_mem_distinctConditions (h : condition ∈ conditions) :
    ∃ found ∈ distinctConditions conditions, found.key = condition.key := by
  obtain ⟨found, hfirst, hkey⟩ := exists_isFirst LayerCondition.key h
  exact ⟨found, ((firstOfEach_distinctConditions conditions).mem_iff found).2 hfirst, hkey⟩

theorem nodup_keys_distinctConditions (conditions : List LayerCondition) :
    ((distinctConditions conditions).map LayerCondition.key).Nodup := by
  rw [List.Nodup, List.pairwise_map]
  refine (firstOfEach_distinctConditions conditions).ordered.imp fun hlt hkey => ?_
  rw [comesBefore, firstPlace, firstPlace, hkey] at hlt
  exact Nat.lt_irrefl _ hlt

theorem mem_keys_distinctConditions {key : LayerCondition} {conditions : List LayerCondition} :
    key ∈ (distinctConditions conditions).map LayerCondition.key
      ↔ key ∈ conditions.map LayerCondition.key := by
  rw [List.mem_map, List.mem_map]
  constructor
  · rintro ⟨condition, hmem, hkey⟩
    have hfirst := ((firstOfEach_distinctConditions conditions).mem_iff condition).1 hmem
    exact ⟨condition, hfirst.mem, hkey⟩
  · rintro ⟨condition, hmem, rfl⟩
    exact exists_mem_distinctConditions hmem

/-- The same keys are asked for in whatever order the conditions come. -/
theorem keys_distinctConditions_perm {conditions others : List LayerCondition}
    (h : conditions.Perm others) :
    ((distinctConditions conditions).map LayerCondition.key).Perm
      ((distinctConditions others).map LayerCondition.key) := by
  rw [List.perm_ext_iff_of_nodup (nodup_keys_distinctConditions _)
    (nodup_keys_distinctConditions _)]
  intro key
  rw [mem_keys_distinctConditions, mem_keys_distinctConditions]
  exact (h.map _).mem_iff

end

/-! ## Questions -/

section

variable {filter : Filter} {step : Step}

/-- A name of a step is asked for, if in another spelling. -/
theorem exists_asked_of_mem_solutions {solution : String} (hstep : step ∈ filter.allSteps)
    (hsolution : solution ∈ step.solutions) :
    ∃ solutions kept, .ordinalRanges solutions ∈ extract filter ∧
      kept ∈ solutions ∧ Text.same solution kept = true := by
  have hnamed : solution ∈ filter.allSteps.flatMap Step.solutions :=
    List.mem_flatMap.2 ⟨step, hstep, hsolution⟩
  obtain ⟨kept, hkept, hsame⟩ := exists_mem_distinctNames hnamed
  refine ⟨_, kept, ?_, hkept, hsame⟩
  rw [extract, if_neg (by rw [List.isEmpty_iff]; exact List.ne_nil_of_mem hkept)]
  exact List.mem_append_left _ (List.mem_singleton_self _)

theorem exists_asked_of_literal {solution : String} (h : .literal solution ∈ filter.allSteps) :
    ∃ solutions kept, .ordinalRanges solutions ∈ extract filter ∧
      kept ∈ solutions ∧ Text.same solution kept = true :=
  exists_asked_of_mem_solutions h (List.mem_singleton_self solution)

theorem exists_asked_of_condition {condition : LayerCondition} (hstep : step ∈ filter.allSteps)
    (hcondition : step.condition? = some condition) :
    ∃ asked, .resolve asked ∈ extract filter ∧ asked.key = condition.key := by
  have hmeant : condition ∈ filter.allSteps.filterMap Step.condition? :=
    List.mem_filterMap.2 ⟨step, hstep, hcondition⟩
  obtain ⟨asked, hasked, hkey⟩ := exists_mem_distinctConditions hmeant
  refine ⟨asked, ?_, hkey⟩
  rw [extract]
  exact List.mem_append_right _ (List.mem_map_of_mem hasked)

end

end Lookup

/-! ## Answers

Lookups do not tell spellings apart. -/

theorem Lookups.range?_congr (lookups : Lookups) {a b : String} (h : Text.same a b = true) :
    lookups.range? a = lookups.range? b := by
  rw [range?, range?, Text.same_iff_lowercase.1 h]

theorem Lookups.resolved?_congr (lookups : Lookups) {a b : LayerCondition} (h : a.key = b.key) :
    lookups.resolved? a = lookups.resolved? b := by
  rw [resolved?, resolved?, h]

/-! ## The steps of a filter -/

theorem Filter.stepsOfEach_eq (filters : List Filter) :
    stepsOfEach filters = filters.flatMap allSteps := by
  induction filters with
  | nil => rfl
  | cons filter filters ih => rw [stepsOfEach, List.flatMap_cons, ih]

end Strata
