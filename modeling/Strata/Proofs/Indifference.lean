import Mathlib.Data.List.Basic
import Strata.Proofs.Classification
import Strata.Proofs.Extraction
import Strata.Proofs.Interpretation
import Strata.Proofs.Spelling

/-!
# Nothing regards case

Of a filter in lowercase and a component in lowercase everything is true that is true of the two as
they are written. What filters mean and what their predicates ask for are here two cases of one
evaluation (`Filter.valueIn`), so that one induction is enough for both; they differ only in
sequences, and of the predicate of a sequence what counts is what it asks for each of the steps
(`Step.Met`).

Two filters that differ in case only have one lowercase, and so nothing tells them apart: not what
they mean, not the predicates they become, not what a store can do with them and not what is asked
beforehand for their sake, but for the spelling in which it is asked (`indifferent_to_case`).
-/

namespace Strata

/-! ## Predicates of sequences -/

theorem LayerCondition.key_key (condition : LayerCondition) :
    condition.key.key = condition.key := by
  rw [key, key, Text.lowercase_lowercase]

section

variable {component : Component} {before after : List Step}

theorem Pushdown.stepRange?_lowercased (lookups : Lookups) (step : Step) :
    stepRange? lookups step.lowercased = stepRange? lookups step := by
  cases step with
  | literal solution => exact lookups.range?_congr (Text.same_lowercase_self solution)
  | choice _ | dynamic _ => rfl

theorem Lookups.bounds_lowercased (lookups : Lookups) (ordinal : Ordinal) :
    lookups.Bounds (before.map Step.lowercased) (after.map Step.lowercased) ordinal
      ↔ lookups.Bounds before after ordinal := by
  have hranges : Pushdown.stepRange? lookups ∘ Step.lowercased = Pushdown.stepRange? lookups :=
    funext fun step => Pushdown.stepRange?_lowercased lookups step
  rw [bounds_iff, bounds_iff, List.filterMap_map, List.filterMap_map, hranges]

theorem Component.exists_layer_lowercased {property : Layer → Prop} :
    (∃ layer ∈ component.lowercased.layers, property layer)
      ↔ ∃ layer ∈ component.layers, property layer.lowercased := by
  rw [lowercased]
  constructor
  · rintro ⟨other, hmem, hproperty⟩
    obtain ⟨layer, hlayer, rfl⟩ := List.mem_map.1 hmem
    exact ⟨layer, hlayer, hproperty⟩
  · rintro ⟨layer, hlayer, hproperty⟩
    exact ⟨layer.lowercased, List.mem_map_of_mem hlayer, hproperty⟩

theorem Step.met_lowercased {lookups : Option Lookups} (step : Step) :
    step.lowercased.Met lookups component.lowercased (before.map lowercased) (after.map lowercased)
      ↔ step.Met lookups component before after := by
  cases step with
  | literal solution =>
      rw [lowercased, Met, Met, Component.exists_layer_lowercased]
      refine exists_congr fun layer => and_congr_right fun _ => ?_
      rw [layer.isOf_lowercased]
      refine and_congr_right fun _ => forall₂_congr fun known _ => ?_
      exact known.bounds_lowercased layer.ordinal
  | choice solutions =>
      rw [lowercased, Met, Met, Component.exists_layer_lowercased]
      simp only [Layer.any_isOf_lowercased]
  | dynamic raw =>
      rw [lowercased, Met, Met, raw.condition?_lowercased]
      simp only [Component.exists_layer_lowercased, Layer.lowercased, Text.lowercase_lowercase]
      constructor
      · intro h known condition solutions hknown hcondition hsolutions
        refine h known condition.key solutions hknown ?_ ?_
        · rw [hcondition, Option.map_some]
        · rw [known.resolved?_congr condition.key_key, hsolutions]
      · intro h known key solutions hknown hkey hsolutions
        obtain ⟨condition, hcondition, rfl⟩ := Option.map_eq_some_iff.1 hkey
        rw [known.resolved?_congr condition.key_key] at hsolutions
        exact h known condition solutions hknown hcondition hsolutions

theorem Pushdown.holds_sequence_lowercased (lookups : Option Lookups) (steps : List Step)
    (polarity : Polarity) :
    ComponentPredicate.holds component.lowercased
        (sequence lookups (steps.map Step.lowercased) polarity)
      = ComponentPredicate.holds component (sequence lookups steps polarity) := by
  cases polarity with
  | negative => rfl
  | positive =>
      rw [Bool.eq_iff_iff, holds_sequence_iff, holds_sequence_iff]
      constructor
      · intro h before step after hsteps
        refine step.met_lowercased.1 (h _ _ _ ?_)
        rw [hsteps, List.map_append, List.map_cons]
      · intro h before step after hsteps
        obtain ⟨earlier, rest, hsplit, rfl, hrest⟩ := List.map_eq_append_iff.1 hsteps
        obtain ⟨this, later, rfl, rfl, rfl⟩ := List.map_eq_cons_iff.1 hrest
        exact this.met_lowercased.2 (h earlier this later hsplit)

end

/-! ## Filters -/

/-- A scope in lowercase. -/
def Scope.lowercased : Scope → Scope
  | .component => .component
  | .layer this => .layer this.lowercased

section

variable {component : Component} {excluded : ExcludedAttributes}

theorem Scope.someLayer_lowercased {test lowercasedTest : Layer → Bool}
    (h : ∀ layer, lowercasedTest layer.lowercased = test layer) (scope : Scope) :
    scope.lowercased.someLayer component.lowercased lowercasedTest
      = scope.someLayer component test := by
  cases scope with
  | component =>
      rw [lowercased, someLayer, someLayer, Component.lowercased, List.any_map]
      exact List.any_congr rfl h
  | layer layer => exact h layer

theorem Quantifier.holds_lowercased {test lowercasedTest : String → Bool}
    (h : ∀ name, lowercasedTest (Text.lowercase name) = test name) (quantifier : Quantifier)
    (names : List String) :
    quantifier.holds (names.map Text.lowercase) lowercasedTest = quantifier.holds names test := by
  cases quantifier <;> simp only [holds, List.any_map, List.all_map, Function.comp_def, h]

namespace Filter

/-- If sequences in lowercase are answered as they are otherwise, so are filters. -/
theorem valueIn_lowercased {interpretation lowercasedInterpretation : Interpretation}
    (hsequence : ∀ mode steps polarity,
      lowercasedInterpretation.sequence mode (steps.map Step.lowercased) polarity
        = interpretation.sequence mode steps polarity)
    (hunknown : lowercasedInterpretation.unknown = interpretation.unknown)
    (filter : Filter) (polarity : Polarity) (scope : Scope) :
    filter.lowercased.valueIn lowercasedInterpretation excluded component.lowercased polarity
        scope.lowercased
      = filter.valueIn interpretation excluded component polarity scope := by
  have hof (solution : String) (scope : Scope) :
      (scope.lowercased.someLayer component.lowercased fun layer =>
          layer.isOf (Text.lowercase solution))
        = scope.someLayer component fun layer => layer.isOf solution := by
    refine scope.someLayer_lowercased fun layer => ?_
    rw [layer.isOf_lowercased]
  induction filter using Filter.induction generalizing polarity scope with
  | component test =>
      rw [lowercased, valueIn, valueIn, test.holds_lowercased]
  | layer test =>
      rw [lowercased, valueIn, valueIn]
      exact scope.someLayer_lowercased fun layer => test.holds_lowercased excluded component layer
  | solutions quantifier names =>
      rw [lowercased, valueIn, valueIn]
      refine quantifier.holds_lowercased (fun name => ?_) names
      rw [hof]
  | sequence mode steps => rw [lowercased, valueIn, valueIn, hsequence]
  | anyLayerAlone | notAlone => rw [lowercased, valueIn, valueIn]
  | anyLayer child ih =>
      rw [lowercased, valueIn, valueIn]
      exact Scope.component.someLayer_lowercased fun layer => ih polarity (.layer layer)
  | layerOfAlone solution =>
      rw [lowercased, valueIn, valueIn, hof]
  | layerOf solution child ih =>
      rw [lowercased, valueIn, valueIn]
      refine scope.someLayer_lowercased fun layer => ?_
      rw [layer.isOf_lowercased, ← ih polarity (.layer layer), Scope.lowercased]
  | all children ih =>
      rw [lowercased, valueIn, valueIn, allValuesIn_eq, allValuesIn_eq, lowercasedEach_eq_map,
        List.all_map]
      exact all_congr_of_mem fun child hmem => ih child hmem polarity scope
  | any children ih =>
      rw [lowercased, valueIn, valueIn, anyValueIn_eq, anyValueIn_eq, lowercasedEach_eq_map,
        List.any_map]
      exact any_congr_of_mem fun child hmem => ih child hmem polarity scope
  | not child ih => rw [lowercased, valueIn, valueIn, ih]
  | unknown => rw [lowercased, valueIn, valueIn, hunknown]

theorem holds_lowercased (filter : Filter) :
    filter.lowercased.holds excluded component.lowercased = filter.holds excluded component := by
  have hsequence : ∀ mode steps polarity,
      component.lowercased.interpretation.sequence mode (steps.map Step.lowercased) polarity
        = component.interpretation.sequence mode steps polarity :=
    fun mode steps _ => mode.accepts_lowercased steps component.layers
  rw [holds_eq_valueIn, holds_eq_valueIn]
  exact valueIn_lowercased hsequence (by rfl) filter .positive .component

theorem holds_predicate_lowercased (pushdown : Pushdown) (filter : Filter) :
    ComponentPredicate.holds component.lowercased (pushdown.predicate (some filter.lowercased))
      = ComponentPredicate.holds component (pushdown.predicate (some filter)) := by
  have hsequence : ∀ mode steps polarity,
      (pushdown.interpretation component.lowercased).sequence mode (steps.map Step.lowercased)
          polarity
        = (pushdown.interpretation component).sequence mode steps polarity :=
    fun _ steps polarity => Pushdown.holds_sequence_lowercased pushdown.lookups steps polarity
  rw [Pushdown.holds_predicate_eq_valueIn, Pushdown.holds_predicate_eq_valueIn]
  exact valueIn_lowercased hsequence (by rfl) filter .positive .component

end Filter

end

/-! ## What a store can do -/

namespace Filter

theorem capability_lowercased (filter : Filter) :
    filter.lowercased.capability = filter.capability := by
  induction filter using Filter.induction with
  | component _ | layer _ | solutions _ _ | sequence _ _ | anyLayerAlone | layerOfAlone _
  | notAlone | unknown => simp only [lowercased, capability]
  | anyLayer child ih | layerOf _ child ih | not child ih =>
      rw [lowercased, capability, capability, ih]
  | all children ih | any children ih =>
      rw [lowercased, capability, capability, lowercasedEach_eq_map, worstOf_map ih]

end Filter

/-! ## What is asked -/

theorem Filter.allSteps_lowercased (filter : Filter) :
    filter.lowercased.allSteps = filter.allSteps.map Step.lowercased := by
  induction filter using Filter.induction with
  | component _ | layer _ | solutions _ _ | anyLayerAlone | layerOfAlone _ | notAlone | unknown =>
      simp only [lowercased, allSteps, List.map_nil]
  | sequence mode steps => rw [lowercased, allSteps, allSteps]
  | anyLayer child ih | layerOf _ child ih | not child ih =>
      rw [lowercased, allSteps, allSteps, ih]
  | all children ih | any children ih =>
      rw [lowercased, allSteps, allSteps, lowercasedEach_eq_map, stepsOfEach_eq, stepsOfEach_eq,
        List.flatMap_map, List.map_flatMap]
      exact List.flatMap_congr ih

theorem Step.solutions_lowercased (step : Step) :
    step.lowercased.solutions = step.solutions.map Text.lowercase := by
  cases step <;> rfl

theorem Step.condition?_lowercased (step : Step) :
    step.lowercased.condition? = step.condition?.map LayerCondition.key := by
  cases step with
  | literal _ | choice _ => rfl
  | dynamic raw => exact raw.condition?_lowercased

namespace Lookup

theorem distinctNames_lowercased (names : List String) :
    distinctNames (names.map Text.lowercase) = (distinctNames names).map Text.lowercase := by
  have hentries : (names.map Text.lowercase).map (fun name => (Text.lowercase name, name))
      = (names.map fun name => (Text.lowercase name, name)).map
        fun entry => (entry.1, Text.lowercase entry.2) := by
    simp only [List.map_map, Function.comp_def, Text.lowercase_lowercase]
  have hkept := insertEach_map (f := Text.lowercase)
    (names.map fun name => (Text.lowercase name, name)) []
  rw [List.map_nil] at hkept
  rw [distinctNames_eq, distinctNames_eq, hentries, hkept, List.map_map, List.map_map]
  rfl

theorem addDistinct_key (kept : List LayerCondition) (condition : LayerCondition) :
    addDistinct (kept.map LayerCondition.key) condition.key
      = (addDistinct kept condition).map LayerCondition.key := by
  rw [addDistinct, addDistinct, List.any_map]
  simp only [Function.comp_def, LayerCondition.key_key]
  split
  · rfl
  · rw [List.map_append]
    rfl

theorem distinctConditions_key (conditions : List LayerCondition) :
    distinctConditions (conditions.map LayerCondition.key)
      = (distinctConditions conditions).map LayerCondition.key := by
  suffices h : ∀ kept : List LayerCondition,
      (conditions.map LayerCondition.key).foldl addDistinct (kept.map LayerCondition.key)
        = (conditions.foldl addDistinct kept).map LayerCondition.key from h []
  induction conditions with
  | nil => exact fun _ => rfl
  | cons condition conditions ih =>
      intro kept
      rw [List.map_cons, List.foldl_cons, List.foldl_cons, addDistinct_key, ih]

/-- What is asked for a filter in lowercase is what is asked for the filter, in lowercase. -/
theorem extract_lowercased (filter : Filter) :
    extract filter.lowercased = (extract filter).map lowercased := by
  have hnames : filter.lowercased.allSteps.flatMap Step.solutions
      = (filter.allSteps.flatMap Step.solutions).map Text.lowercase := by
    rw [filter.allSteps_lowercased, List.flatMap_map, List.map_flatMap]
    exact List.flatMap_congr fun step _ => step.solutions_lowercased
  have hconditions : filter.lowercased.allSteps.filterMap Step.condition?
      = (filter.allSteps.filterMap Step.condition?).map LayerCondition.key := by
    rw [filter.allSteps_lowercased, List.filterMap_map, List.map_filterMap]
    exact List.filterMap_congr fun step _ => step.condition?_lowercased
  rw [extract, extract, hnames, hconditions, distinctNames_lowercased, distinctConditions_key,
    List.isEmpty_map, List.map_append, List.map_map, List.map_map]
  congr 1
  split <;> rfl

end Lookup

/-! ## Two spellings -/

namespace Filter

/-- Of two filters and two components that differ in case only, all is said alike: whether the
component satisfies the filter, whether it satisfies the predicate that any lookups make of the
filter, what a store can do with the filter, and which names and conditions are asked for. -/
theorem indifferent_to_case {filter other : Filter} {component twin : Component}
    (hfilter : filter.lowercased = other.lowercased)
    (hcomponent : component.lowercased = twin.lowercased) (excluded : ExcludedAttributes) :
    filter.holds excluded component = other.holds excluded twin ∧
    (∀ lookups : Option Lookups,
      ComponentPredicate.holds component (Pushdown.predicate { excluded, lookups } (some filter))
        = ComponentPredicate.holds twin (Pushdown.predicate { excluded, lookups } (some other))) ∧
    filter.capability = other.capability ∧
    (Lookup.extract filter).map Lookup.lowercased
      = (Lookup.extract other).map Lookup.lowercased := by
  refine ⟨?_, fun lookups => ?_, ?_, ?_⟩
  · rw [← filter.holds_lowercased, ← other.holds_lowercased, hfilter, hcomponent]
  · rw [← filter.holds_predicate_lowercased, ← other.holds_predicate_lowercased, hfilter,
      hcomponent]
  · rw [← filter.capability_lowercased, ← other.capability_lowercased, hfilter]
  · rw [← Lookup.extract_lowercased, ← Lookup.extract_lowercased, hfilter]

/-- A filter in capitals and a component that is not, then the other way about. The word ends in a
sigma, which is another letter there than within a word. -/
theorem indifferent_to_case_of_capitals :
    let filter (word base patch : String) : Filter := .all [
      .sequence .flexible [
        .dynamic { field := "publisher", operator := "endswith", value := word }, .literal patch],
      .not (some (.layerOf base (some (.layer (.holdsAttribute patch .contains word none))))),
      .layer (.differs { source := patch, mode := .specific, targets := [base], names := [word] })]
    let component (word base patch : String) : Component :=
      { logicalName := word, displayName := some base, componentType := "Form", layers := [
          { solution := base, ordinal := 0, publisher := some word },
          { solution := patch, ordinal := 1,
            attributes := [{ name := word, value := base, type := .string, hash := "1f" }] }] }
    let capitals := filter "ΟΔΟΣ" "BASE" "PATCH"
    let mixture := filter "Οδος" "base" "Patch"
    let written := component "Οδος" "base" "Patch"
    let rewritten := component "ΟΔΟΣ" "BASE" "PATCH"
    let lookups := Lookups.empty.insertRange "patch" ⟨1, 1⟩
    let predicate (filter : Filter) : ComponentPredicate :=
      Pushdown.predicate { excluded := .standard, lookups := some lookups } (some filter)
    capitals.lowercased = mixture.lowercased ∧ written.lowercased = rewritten.lowercased ∧
    capitals.holds .standard written = true ∧ mixture.holds .standard rewritten = true ∧
    ComponentPredicate.holds written (predicate capitals) = true ∧
    ComponentPredicate.holds rewritten (predicate mixture) = true := by
  intro filter component capitals mixture written rewritten lookups predicate
  have hword : Text.lowercase "ΟΔΟΣ" = Text.lowercase "Οδος" := by decide +kernel
  have hbase : Text.lowercase "BASE" = Text.lowercase "base" := by decide +kernel
  have hpatch : Text.lowercase "PATCH" = Text.lowercase "Patch" := by decide +kernel
  have hfilter : capitals.lowercased = mixture.lowercased := by
    simp only [capitals, mixture, filter, lowercased, lowercasedEach, List.map_cons, List.map_nil,
      Step.lowercased, RawCondition.lowercased, LayerCriterion.lowercased,
      AttributeDiff.lowercased, hword, hbase, hpatch]
  have hcomponent : written.lowercased = rewritten.lowercased := by
    simp only [written, rewritten, component, Component.lowercased, Layer.lowercased,
      LayerAttribute.lowercased, List.map_cons, Option.map_some, hword, hbase, hpatch]
  obtain ⟨hholds, hpredicate, -, -⟩ := indifferent_to_case hfilter hcomponent .standard
  have hwritten : capitals.holds .standard written = true := by decide +kernel
  have hfound : ComponentPredicate.holds written (predicate capitals) = true := by decide +kernel
  exact ⟨hfilter, hcomponent, hwritten, hholds.symm.trans hwritten, hfound,
    (hpredicate (some lookups)).symm.trans hfound⟩

end Filter

end Strata
