import Mathlib.Data.List.Perm.Basic
import Strata.Filter.Selectivity
import Strata.Lookup
import Strata.Proofs.Classification
import Strata.Proofs.Extraction

/-!
# Ranking changes no meaning

Ranking permutes what stands under conjunctions and touches nothing else. That it sorts by
selectivity plays no part here: of the sort only that it is a permutation is used, and a conjunction
reads the same in every order, whether it is one of filters or one of their predicates. The
sequences in a filter stay the same ones.

What is read off a filter and those under it, in whatever order, is read off the ranked filter
alike: a filter keeps what it is by itself, and its children are permuted (`children_ranked`).
-/

namespace Strata.Filter

theorem rankedEach_eq_map (filters : List Filter) : rankedEach filters = filters.map ranked := by
  induction filters with
  | nil => rfl
  | cons filter filters ih => rw [rankedEach, List.map_cons, ih]

/-! ## The meaning -/

section

variable {excluded : ExcludedAttributes} {component : Component}

theorem valueIn_ranked {interpretation : Interpretation} (filter : Filter) (polarity : Polarity)
    (scope : Scope) :
    filter.ranked.valueIn interpretation excluded component polarity scope
      = filter.valueIn interpretation excluded component polarity scope := by
  induction filter using Filter.induction generalizing polarity scope with
  | component _ | layer _ | solutions _ _ | sequence _ _ | anyLayerAlone | layerOfAlone _
  | notAlone | unknown => rw [ranked]
  | anyLayer child ih =>
      rw [ranked, valueIn, valueIn]
      exact List.any_congr rfl fun layer => ih polarity (.layer layer)
  | layerOf solution child ih =>
      rw [ranked, valueIn, valueIn]
      simp only [ih polarity]
  | all children ih =>
      rw [ranked, valueIn, valueIn, allValuesIn_eq, (stableSort_perm _).all_eq, allValuesIn_eq,
        rankedEach_eq_map, List.all_map]
      exact all_congr_of_mem fun child hmem => ih child hmem polarity scope
  | any children ih =>
      rw [ranked, valueIn, valueIn, anyValueIn_eq, anyValueIn_eq, rankedEach_eq_map, List.any_map]
      exact any_congr_of_mem fun child hmem => ih child hmem polarity scope
  | not child ih => rw [ranked, valueIn, valueIn, ih polarity.flip scope]

theorem holds_ranked (filter : Filter) :
    filter.ranked.holds excluded component = filter.holds excluded component := by
  rw [holds_eq_valueIn, holds_eq_valueIn, filter.valueIn_ranked]

end

/-! ## What stands in a filter -/

theorem children_ranked (filter : Filter) :
    filter.ranked.children.Perm (filter.children.map ranked) := by
  cases filter with
  | component _ | layer _ | solutions _ _ | sequence _ _ | unknown => exact List.Perm.refl []
  | all children =>
      rw [ranked, rankedEach_eq_map]
      exact stableSort_perm _
  | any children =>
      rw [ranked, rankedEach_eq_map]
      exact List.Perm.refl _
  | anyLayer child | layerOf _ child | not child => cases child <;> exact List.Perm.refl _

theorem ownCapability_ranked (filter : Filter) :
    filter.ranked.ownCapability = filter.ownCapability := by
  cases filter with
  | component _ | layer _ | solutions _ _ | sequence _ _ | unknown | all _ | any _ => rfl
  | anyLayer child | layerOf _ child | not child => cases child <;> rfl

theorem steps?_ranked (filter : Filter) : filter.ranked.steps? = filter.steps? := by
  cases filter with
  | component _ | layer _ | solutions _ _ | sequence _ _ | unknown | all _ | any _ => rfl
  | anyLayer child | layerOf _ child | not child => cases child <;> rfl

theorem capability_ranked (filter : Filter) : filter.ranked.capability = filter.capability := by
  induction filter using induction_children with
  | step filter ih =>
      rw [capability_eq, capability_eq filter, ownCapability_ranked,
        worstOf_perm filter.children_ranked, worstOf_map ih]

theorem containsSequence_ranked (filter : Filter) :
    filter.ranked.containsSequence = filter.containsSequence := by
  induction filter using induction_children with
  | step filter ih =>
      rw [containsSequence_eq, containsSequence_eq filter, steps?_ranked,
        filter.children_ranked.any_eq, List.any_map]
      exact congrArg _ (any_congr_of_mem ih)

/-- What is collected from a filter itself and then from its children is collected from the ranked
filter too, perhaps in another order. -/
theorem perm_ranked {α : Type} (own collected : Filter → List α)
    (hcollected : ∀ filter, collected filter = own filter ++ filter.children.flatMap collected)
    (hown : ∀ filter, own filter.ranked = own filter) (filter : Filter) :
    (collected filter.ranked).Perm (collected filter) := by
  induction filter using induction_children with
  | step filter ih =>
      rw [hcollected, hcollected filter, hown]
      refine List.Perm.append_left _ ((filter.children_ranked.flatMap_right _).trans ?_)
      rw [List.flatMap_map]
      exact List.Perm.flatMap_left _ ih

theorem allSteps_eq (filter : Filter) :
    filter.allSteps = filter.steps?.getD [] ++ filter.children.flatMap allSteps := by
  cases filter with
  | component _ | layer _ | solutions _ _ | unknown => rfl
  | sequence _ steps => exact (List.append_nil steps).symm
  | all children | any children => exact stepsOfEach_eq children
  | anyLayer child | layerOf _ child | not child =>
      cases child with
      | none => rfl
      | some child => exact (List.flatMap_singleton _ child).symm

theorem allSteps_ranked (filter : Filter) : filter.ranked.allSteps.Perm filter.allSteps :=
  perm_ranked (fun filter => filter.steps?.getD []) allSteps allSteps_eq
    (fun filter => by rw [steps?_ranked]) filter

/-! ## The sequences -/

theorem sequences_ranked (filter : Filter) (polarity : Polarity) :
    (filter.ranked.sequences polarity).Perm (filter.sequences polarity) := by
  induction filter using Filter.induction generalizing polarity with
  | component _ | layer _ | solutions _ _ | sequence _ _ | anyLayerAlone | layerOfAlone _
  | notAlone | unknown => rw [ranked]
  | anyLayer child ih | layerOf _ child ih | not child ih =>
      rw [ranked, sequences, sequences]
      exact ih _
  | all children ih =>
      rw [ranked, sequences, sequences, sequencesOfEach_eq, sequencesOfEach_eq]
      refine ((stableSort_perm _).flatMap_right _).trans ?_
      rw [rankedEach_eq_map, List.flatMap_map]
      exact .flatMap_left children fun child hmem => ih child hmem polarity
  | any children ih =>
      rw [ranked, sequences, sequences, sequencesOfEach_eq, sequencesOfEach_eq, rankedEach_eq_map,
        List.flatMap_map]
      exact .flatMap_left children fun child hmem => ih child hmem polarity

end Strata.Filter
