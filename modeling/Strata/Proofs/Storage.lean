import Strata.Proofs.Interpretation
import Strata.Proofs.Ordering

/-!
# Where layers are stored

Layers have their places by their ordinals, so it does not matter in which order a component has
them stored. What asks for some layer, or compares a layer with others, finds the same layers either
way. Only the walk of a sequence takes them one after another, and it sorts them first; the sort
leaves layers of one ordinal as they came, so those must not be exchanged.
-/

namespace Strata

/-! ## The same layers in another order -/

namespace Component

/-- Whether two components are the same but for the order in which their layers are stored. -/
structure Shuffles (shuffled component : Component) : Prop where
  rest : shuffled = { component with layers := shuffled.layers }
  perm : shuffled.layers.Perm component.layers

/-- Whether layers of one ordinal are stored in the same order as well. -/
structure Rearranges (rearranged component : Component) : Prop
    extends Shuffles rearranged component where
  stable : ∀ ordinal : Ordinal, (rearranged.layers.filter fun layer => layer.ordinal == ordinal)
    = component.layers.filter fun layer => layer.ordinal == ordinal

theorem normalize_rearranges (component : Component) :
    component.normalize.Rearranges component where
  rest := rfl
  perm := Layer.sort_perm component.layers
  stable := (Layer.isStableSort_sort component.layers).stable

theorem Rearranges.sort_eq {rearranged component : Component}
    (h : rearranged.Rearranges component) :
    Layer.sort rearranged.layers = Layer.sort component.layers := by
  have hsort := Layer.isStableSort_sort rearranged.layers
  have hstable : Layer.IsStableSort (Layer.sort rearranged.layers) component.layers :=
    { perm := hsort.perm.trans h.perm
      ordered := hsort.ordered
      stable := fun ordinal => (hsort.stable ordinal).trans (h.stable ordinal) }
  exact hstable.eq_sort

end Component

section

variable {shuffled component : Component} (h : shuffled.Shuffles component)

include h

theorem ComponentField.get_of_shuffles (field : ComponentField) :
    field.get shuffled = field.get component := by
  rw [h.rest]
  cases field <;> rfl

/-! ## Filters -/

theorem ComponentCriterion.holds_of_shuffles (test : ComponentCriterion) :
    test.holds shuffled = test.holds component := by
  cases test with
  | field tested operator value => rw [holds, holds, tested.get_of_shuffles h]
  | type value => rw [holds, holds, h.rest]

theorem AttributeDiff.holds_of_shuffles (diff : AttributeDiff) (excluded : ExcludedAttributes)
    (layer : Layer) :
    diff.holds excluded shuffled layer = diff.holds excluded component layer := by
  -- The layers that are compared with are the same, and they are only asked whether all differ.
  have htargets (test : Layer → Bool) :
      (shuffled.layers.filter (diff.isTarget layer)).all test
        = (component.layers.filter (diff.isTarget layer)).all test :=
    (h.perm.filter _).all_eq
  simp only [holds, htargets]

theorem LayerCriterion.holds_of_shuffles (test : LayerCriterion) (excluded : ExcludedAttributes)
    (layer : Layer) :
    test.holds excluded shuffled layer = test.holds excluded component layer := by
  cases test with
  | differs diff => exact diff.holds_of_shuffles h excluded layer
  | managed _ | publisher _ _ | condition _ | holdsAttribute _ _ _ _ | changes _ | isOf _ =>
      rw [holds, holds]

theorem Scope.someLayer_of_shuffles (scope : Scope) (test : Layer → Bool) :
    scope.someLayer shuffled test = scope.someLayer component test := by
  cases scope with
  | component => exact h.perm.any_eq
  | layer this => rfl

/-- If sequences are answered alike, so are filters. -/
theorem Filter.valueIn_of_shuffles {interpretation : Interpretation}
    {excluded : ExcludedAttributes} (filter : Filter) (polarity : Polarity) (scope : Scope) :
    filter.valueIn interpretation excluded shuffled polarity scope
      = filter.valueIn interpretation excluded component polarity scope := by
  induction filter using Filter.induction generalizing polarity scope with
  | component test => rw [valueIn, valueIn, test.holds_of_shuffles h]
  | layer test =>
      rw [valueIn, valueIn, scope.someLayer_of_shuffles h]
      exact congrArg _ (funext fun layer => test.holds_of_shuffles h excluded layer)
  | solutions quantifier names =>
      rw [valueIn, valueIn]
      simp only [scope.someLayer_of_shuffles h]
  | sequence _ _ | anyLayerAlone | notAlone | unknown => rw [valueIn, valueIn]
  | anyLayer child ih =>
      rw [valueIn, valueIn, h.perm.any_eq]
      exact List.any_congr rfl fun layer => ih polarity (.layer layer)
  | layerOfAlone solution => rw [valueIn, valueIn, scope.someLayer_of_shuffles h]
  | layerOf solution child ih =>
      rw [valueIn, valueIn, scope.someLayer_of_shuffles h]
      simp only [ih polarity]
  | all children ih =>
      rw [valueIn, valueIn, allValuesIn_eq, allValuesIn_eq]
      exact all_congr_of_mem fun child hmem => ih child hmem polarity scope
  | any children ih =>
      rw [valueIn, valueIn, anyValueIn_eq, anyValueIn_eq]
      exact any_congr_of_mem fun child hmem => ih child hmem polarity scope
  | not child ih => rw [valueIn, valueIn, ih]

end

theorem Filter.holds_of_rearranges {rearranged component : Component}
    (h : rearranged.Rearranges component) (filter : Filter) (excluded : ExcludedAttributes) :
    filter.holds excluded rearranged = filter.holds excluded component := by
  have hinterpretation : rearranged.interpretation = component.interpretation := by
    simp only [Component.interpretation, SequenceMode.accepts, h.sort_eq]
  rw [holds_eq_valueIn, holds_eq_valueIn, hinterpretation, filter.valueIn_of_shuffles h.toShuffles]

/-! ## Predicates -/

section

variable {shuffled component : Component}

theorem MatchLogic.lacksCounterparts_of_shuffles (h : shuffled.Shuffles component)
    (logic : MatchLogic) (candidates : AttributePredicate) (targets : DiffTargets)
    (layer : Layer) :
    logic.lacksCounterparts candidates targets shuffled layer
      = logic.lacksCounterparts candidates targets component layer := by
  have hcounterpart (a : LayerAttribute) :
      a.hasCounterpartIn (shuffled.layers.filter (targets.includes layer))
        = a.hasCounterpartIn (component.layers.filter (targets.includes layer)) :=
    (h.perm.filter _).any_eq
  cases logic <;> simp only [lacksCounterparts, hcounterpart]

theorem tests_hold_of_shuffles (h : shuffled.Shuffles component) :
    (∀ test : ComponentTest, test.holds shuffled = test.holds component) ∧
    ∀ (test : LayerTest) (layer : Layer),
      test.holds shuffled layer = test.holds component layer := by
  refine tests_induction (fun test ih => ?_) (fun test ih layer => ?_)
  · cases test with
    | field column test =>
        rw [ComponentTest.holds, ComponentTest.holds, column.get_of_shuffles h]
    | anyLayer inner =>
        rw [ComponentTest.holds, ComponentTest.holds, h.perm.any_eq]
        refine List.any_congr rfl fun layer => ?_
        exact (LayerPredicate.truth_defines_holds shuffled layer).congr
          (LayerPredicate.truth_defines_holds component layer)
          fun test hmem => ih inner rfl test hmem layer
  · cases test with
    | solution _ _ | solutionIn _ | managed _ | ordinalAbove _ | ordinalBelow _
    | anyAttribute _ => rw [LayerTest.holds, LayerTest.holds]
    | differs candidates logic targets =>
        rw [LayerTest.holds, LayerTest.holds]
        exact logic.lacksCounterparts_of_shuffles h candidates targets layer
    | owner inner =>
        rw [LayerTest.holds, LayerTest.holds]
        exact (ComponentPredicate.truth_defines_holds shuffled).congr
          (ComponentPredicate.truth_defines_holds component) (ih inner rfl)

theorem ComponentPredicate.holds_of_shuffles (h : shuffled.Shuffles component)
    (predicate : ComponentPredicate) :
    ComponentPredicate.holds shuffled predicate = ComponentPredicate.holds component predicate :=
  (truth_defines_holds shuffled).congr (truth_defines_holds component)
    fun test _ => (tests_hold_of_shuffles h).1 test

end

/-! ## Rearranged components -/

namespace Component

/-- Putting layers in order rearranges a component, and no filter and no predicate tells apart two
components of which one is a rearrangement of the other. -/
theorem same_meaning_of_rearranges (component : Component) :
    component.normalize.Rearranges component ∧
    ∀ rearranged : Component, rearranged.Rearranges component →
      (∀ (excluded : ExcludedAttributes) (filter : Option Filter),
        satisfies excluded filter rearranged = satisfies excluded filter component) ∧
      ∀ predicate : ComponentPredicate,
        ComponentPredicate.holds rearranged predicate
          = ComponentPredicate.holds component predicate := by
  refine ⟨component.normalize_rearranges, fun rearranged h => ⟨fun excluded filter => ?_, ?_⟩⟩
  · cases filter with
    | none => rfl
    | some filter => exact filter.holds_of_rearranges h excluded
  · exact ComponentPredicate.holds_of_shuffles h.toShuffles

/-- Two layers of one ordinal and one below them, stored in two ways of which neither is sorted. -/
theorem same_meaning_of_rearranges_around_tie :
    let component (layers : List Layer) : Component :=
      { logicalName := "account", componentType := "Form", layers }
    let core : Layer := { solution := "Core", ordinal := 3 }
    let patch : Layer := { solution := "Patch", ordinal := 3 }
    let base : Layer := { solution := "Base", ordinal := 1 }
    let filter : Filter := .sequence .strict [.literal "base", .literal "core", .literal "patch"]
    let predicate : ComponentPredicate :=
      .atom (.anyLayer (.and [.atom (.ordinalAbove 1), .atom (.owner (hasLayerOf "BASE"))]))
    satisfies .standard (some filter) (component [core, base, patch]) = true ∧
    satisfies .standard (some filter) (component [core, patch, base]) = true ∧
    ComponentPredicate.holds (component [core, base, patch]) predicate = true ∧
    ComponentPredicate.holds (component [core, patch, base]) predicate = true := by
  intro component core patch base filter predicate
  have h : (component [core, base, patch]).Rearranges (component [core, patch, base]) :=
    { rest := rfl
      perm := (List.Perm.swap patch base []).cons core
      stable := fun ordinal => by
        by_cases hbase : base.ordinal = ordinal
        · rw [← hbase]
          rfl
        · have hout : (base.ordinal == ordinal) = false := beq_false_of_ne hbase
          simp only [component, List.filter_cons, hout]
          rfl }
  obtain ⟨hfilter, hpredicate⟩ := (same_meaning_of_rearranges _).2 _ h
  have hsatisfies : satisfies .standard (some filter) (component [core, patch, base]) = true := by
    decide +kernel
  have hholds : ComponentPredicate.holds (component [core, patch, base]) predicate = true := by
    decide +kernel
  exact ⟨(hfilter _ _).trans hsatisfies, hsatisfies, (hpredicate _).trans hholds, hholds⟩

/-- Layers of one ordinal must not be exchanged: a sequence takes them as they are stored. -/
example :
    let component (layers : List Layer) : Component :=
      { logicalName := "account", componentType := "Form", layers }
    let core : Layer := { solution := "Core", ordinal := 3 }
    let patch : Layer := { solution := "Patch", ordinal := 3 }
    let filter : Filter := .sequence .strict [.literal "Core", .literal "Patch"]
    satisfies .standard (some filter) (component [core, patch]) = true ∧
      satisfies .standard (some filter) (component [patch, core]) = false := by
  decide +kernel

end Component

end Strata
