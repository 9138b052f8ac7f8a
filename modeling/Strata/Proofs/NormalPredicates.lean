import Strata.Proofs.Interpretation
import Strata.Proofs.NormalForms

/-!
# Predicates of filters are in normal form

Whatever a filter becomes is built by the connectives from tests, and the predicates that tests hold
are built in the same way. So all of it is in normal form, on the levels of components, of layers and
of attributes (`Pushdown.component_isNormal`, `Pushdown.layer_isNormal`), for every filter, polarity
and lookups. Between the levels the constants are folded as well: no test looks for a layer or an
attribute that satisfies what nothing does, and none asks of the component what is decided.
-/

namespace Strata

/-! ## The levels -/

/-- Normal form of predicates about attributes. -/
abbrev AttributePredicate.IsNormal (predicate : AttributePredicate) : Prop :=
  Formula.IsNormal (fun _ => True) predicate

mutual

/-- Normal form of what tests of components hold. -/
inductive ComponentTest.IsNormal : ComponentTest → Prop
  | field (column : ComponentField) (test : TextTest) : ComponentTest.IsNormal (.field column test)
  | anyLayer {inner : Formula LayerTest} (possible : Formula.isConst false inner = false)
      (normal : inner.IsNormal LayerTest.IsNormal) : ComponentTest.IsNormal (.anyLayer inner)

/-- Normal form of what tests of layers hold. -/
inductive LayerTest.IsNormal : LayerTest → Prop
  | solution (column : LayerField) (test : TextTest) : LayerTest.IsNormal (.solution column test)
  | solutionIn (names : List String) : LayerTest.IsNormal (.solutionIn names)
  | managed (value : Bool) : LayerTest.IsNormal (.managed value)
  | ordinalAbove (bound : Ordinal) : LayerTest.IsNormal (.ordinalAbove bound)
  | ordinalBelow (bound : Ordinal) : LayerTest.IsNormal (.ordinalBelow bound)
  | anyAttribute {inner : AttributePredicate} (isOpen : Formula.isOpen inner = true)
      (normal : inner.IsNormal) : LayerTest.IsNormal (.anyAttribute inner)
  | differs {candidates : AttributePredicate} (logic : MatchLogic) (targets : DiffTargets)
      (normal : candidates.IsNormal) : LayerTest.IsNormal (.differs candidates logic targets)
  | owner {inner : Formula ComponentTest} (isOpen : inner.isOpen = true)
      (normal : inner.IsNormal ComponentTest.IsNormal) : LayerTest.IsNormal (.owner inner)

end

/-- Normal form of predicates about components. -/
abbrev ComponentPredicate.IsNormal (predicate : ComponentPredicate) : Prop :=
  Formula.IsNormal ComponentTest.IsNormal predicate

/-- Normal form of predicates about layers. -/
abbrev LayerPredicate.IsNormal (predicate : LayerPredicate) : Prop :=
  Formula.IsNormal LayerTest.IsNormal predicate

/-! ## Between the levels -/

theorem Formula.IsNormal.someLayer {inner : LayerPredicate} (h : inner.IsNormal) :
    inner.someLayer.IsNormal := by
  match inner with
  | .const false => exact .const false
  | .const true | .and _ | .or _ | .not _ | .atom _ => exact .atom (.anyLayer rfl h)

theorem Formula.IsNormal.ofOwner {inner : ComponentPredicate} (h : inner.IsNormal) :
    inner.ofOwner.IsNormal := by
  match inner with
  | .const b => exact .const b
  | .and _ | .or _ | .not _ | .atom _ => exact .atom (.owner rfl h)

theorem Formula.IsNormal.someAttribute {inner : AttributePredicate} (h : inner.IsNormal)
    (hne : inner ≠ .const true) : inner.someAttribute.IsNormal := by
  match inner with
  | .const false => exact .const false
  | .const true => exact absurd rfl hne
  | .and _ | .or _ | .not _ | .atom _ => exact .atom (.anyAttribute rfl h)

/-- A conjunction with a test in it is not true of everything. -/
theorem AttributePredicate.all_cons_atom_ne (test : AttributeTest)
    (parts : List AttributePredicate) : Formula.all (.atom test :: parts) ≠ .const true := by
  intro h
  -- It is false where the test fails.
  have hvalue : (Formula.all (.atom test :: parts)).eval (fun _ => false) = true := by
    rw [h]
    rfl
  rw [Formula.eval_all, List.all_cons, Bool.and_eq_true] at hvalue
  exact Bool.false_ne_true hvalue.1

/-! ## Tests -/

theorem named_isNormal (solution : String) : (named solution).IsNormal :=
  .atom (.solution .name _)

theorem hasLayerOf_isNormal (solution : String) : (hasLayerOf solution).IsNormal :=
  (named_isNormal solution).someLayer

theorem ComponentCriterion.predicate_isNormal (test : ComponentCriterion) :
    test.predicate.IsNormal := by
  cases test <;> exact .atom (.field _ _)

namespace Pushdown

theorem notExcluded_isNormal (excluded : ExcludedAttributes) : (notExcluded excluded).IsNormal := by
  rw [notExcluded]
  split
  · exact .const true
  · exact Formula.isNormal_negate (.atom trivial)

theorem relevantChange_isNormal (excluded : ExcludedAttributes) :
    ∀ part ∈ relevantChange excluded, part.IsNormal := by
  rw [relevantChange, List.forall_mem_cons, List.forall_mem_singleton]
  exact ⟨.atom trivial, notExcluded_isNormal excluded⟩

theorem candidates_isNormal (excluded : ExcludedAttributes) (diff : AttributeDiff) :
    (candidates excluded diff).IsNormal := by
  refine Formula.isNormal_all (List.forall_mem_append.2 ⟨?_, ?_⟩)
  · split
    · exact relevantChange_isNormal excluded
    · exact List.forall_mem_nil _
  · split
    · exact List.forall_mem_nil _
    · exact List.forall_mem_singleton.2 (.atom trivial)

theorem criterion_isNormal (excluded : ExcludedAttributes) (test : LayerCriterion) :
    (criterion excluded test).IsNormal := by
  cases test with
  | managed value => exact .atom (.managed value)
  | publisher operator value => exact .atom (.solution .publisher _)
  | condition condition => exact .atom (.solution condition.field _)
  | holdsAttribute name operator value type =>
      refine Formula.IsNormal.someAttribute (Formula.isNormal_all ?_)
        (AttributePredicate.all_cons_atom_ne _ _)
      rw [List.forall_mem_cons, List.forall_mem_cons, List.forall_mem_singleton]
      refine ⟨.atom trivial, .atom trivial, ?_⟩
      cases type with
      | none => exact .const true
      | some type => exact .atom trivial
  | changes solution =>
      refine Formula.isNormal_all ?_
      rw [List.forall_mem_cons, List.forall_mem_singleton]
      refine ⟨?_, Formula.IsNormal.someAttribute
        (Formula.isNormal_all (relevantChange_isNormal excluded))
        (AttributePredicate.all_cons_atom_ne _ _)⟩
      cases solution with
      | none => exact .const true
      | some solution => exact named_isNormal solution
  | differs diff =>
      refine Formula.isNormal_all ?_
      rw [List.forall_mem_cons, List.forall_mem_singleton]
      exact ⟨named_isNormal diff.source, .atom (.differs _ _ (candidates_isNormal excluded diff))⟩
  | isOf solution => exact named_isNormal solution

theorem isNormal_quantified {α : Type} {tests : α → Prop} {parts : List (Formula α)}
    (quantifier : Quantifier) (h : ∀ part ∈ parts, part.IsNormal tests) :
    (quantified quantifier parts).IsNormal tests := by
  cases quantifier with
  | any => exact Formula.isNormal_any h
  | all => exact Formula.isNormal_all h
  | none => exact Formula.isNormal_negate (Formula.isNormal_any h)

theorem isNormal_layerOf (solution : String) {predicate : LayerPredicate} (h : predicate.IsNormal) :
    LayerPredicate.IsNormal (Formula.all [named solution, predicate]) :=
  Formula.isNormal_all
    (List.forall_mem_cons.2 ⟨named_isNormal solution, List.forall_mem_singleton.2 h⟩)

/-! ## Sequences -/

theorem bounds_isNormal (lookups : Lookups) (before after : List Step) :
    ∀ part ∈ bounds lookups before after, part.IsNormal := by
  refine List.forall_mem_append.2 ⟨?_, ?_⟩
  · exact List.forall_mem_map.2 fun bound _ => .atom (.ordinalAbove bound)
  · exact List.forall_mem_map.2 fun bound _ => .atom (.ordinalBelow bound)

theorem narrowStep_isNormal (lookups : Option Lookups) (before : List Step) (step : Step)
    (after : List Step) : ∀ part ∈ narrowStep lookups before step after, part.IsNormal := by
  cases step with
  | literal solution =>
      refine List.forall_mem_singleton.2 (Formula.IsNormal.someLayer
        (Formula.isNormal_all (List.forall_mem_cons.2 ⟨named_isNormal solution, ?_⟩)))
      cases lookups with
      | none => exact List.forall_mem_nil _
      | some lookups => exact bounds_isNormal lookups before after
  | choice solutions =>
      exact List.forall_mem_singleton.2 (Formula.isNormal_any
        (List.forall_mem_map.2 fun solution _ => hasLayerOf_isNormal solution))
  | dynamic raw =>
      simp only [narrowStep]
      split
      · exact List.forall_mem_map.2 fun solutions _ =>
          Formula.IsNormal.someLayer (.atom (.solutionIn solutions))
      · exact List.forall_mem_nil _

theorem narrowSteps_isNormal (lookups : Option Lookups) (before steps : List Step) :
    ∀ part ∈ narrowSteps lookups before steps, part.IsNormal := by
  induction steps generalizing before with
  | nil => exact List.forall_mem_nil _
  | cons step steps ih =>
      exact List.forall_mem_append.2 ⟨narrowStep_isNormal lookups before step steps, ih _⟩

theorem sequence_isNormal (lookups : Option Lookups) (steps : List Step) (polarity : Polarity) :
    (sequence lookups steps polarity).IsNormal := by
  cases polarity with
  | positive => exact Formula.isNormal_all (narrowSteps_isNormal lookups [] steps)
  | negative => exact .const false

/-! ## Filters -/

variable (pushdown : Pushdown)

theorem layer_isNormal (filter : Filter) (polarity : Polarity) :
    (pushdown.layer filter polarity).IsNormal := by
  induction filter using Filter.induction generalizing polarity with
  | component test =>
      rw [layer]
      exact test.predicate_isNormal.ofOwner
  | layer test =>
      rw [layer]
      exact criterion_isNormal pushdown.excluded test
  | solutions quantifier names =>
      rw [layer]
      exact isNormal_quantified quantifier
        (List.forall_mem_map.2 fun name _ => named_isNormal name)
  | sequence mode steps =>
      rw [layer]
      exact (sequence_isNormal pushdown.lookups steps polarity).ofOwner
  | anyLayerAlone | notAlone | unknown =>
      rw [layer]
      exact .const _
  | anyLayer child ih =>
      rw [layer]
      exact (ih polarity).someLayer.ofOwner
  | layerOfAlone solution =>
      rw [layer]
      exact isNormal_layerOf solution (.const true)
  | layerOf solution child ih =>
      rw [layer]
      exact isNormal_layerOf solution (ih polarity)
  | all children ih =>
      rw [layer, layers_eq_map]
      exact Formula.isNormal_all (List.forall_mem_map.2 fun child hmem => ih child hmem polarity)
  | any children ih =>
      rw [layer, layers_eq_map]
      exact Formula.isNormal_any (List.forall_mem_map.2 fun child hmem => ih child hmem polarity)
  | not child ih =>
      rw [layer]
      exact Formula.isNormal_negate (ih polarity.flip)

theorem component_isNormal (filter : Filter) (polarity : Polarity) :
    (pushdown.component filter polarity).IsNormal := by
  induction filter using Filter.induction generalizing polarity with
  | component test =>
      rw [component]
      exact test.predicate_isNormal
  | layer test =>
      rw [component]
      exact (criterion_isNormal pushdown.excluded test).someLayer
  | solutions quantifier names =>
      rw [component]
      exact isNormal_quantified quantifier
        (List.forall_mem_map.2 fun name _ => hasLayerOf_isNormal name)
  | sequence mode steps =>
      rw [component]
      exact sequence_isNormal pushdown.lookups steps polarity
  | anyLayerAlone | notAlone | unknown =>
      rw [component]
      exact .const _
  | anyLayer child _ =>
      rw [component]
      exact (pushdown.layer_isNormal child polarity).someLayer
  | layerOfAlone solution =>
      rw [component]
      exact (isNormal_layerOf solution (.const true)).someLayer
  | layerOf solution child _ =>
      rw [component]
      exact (isNormal_layerOf solution (pushdown.layer_isNormal child polarity)).someLayer
  | all children ih =>
      rw [component, components_eq_map]
      exact Formula.isNormal_all (List.forall_mem_map.2 fun child hmem => ih child hmem polarity)
  | any children ih =>
      rw [component, components_eq_map]
      exact Formula.isNormal_any (List.forall_mem_map.2 fun child hmem => ih child hmem polarity)
  | not child ih =>
      rw [component]
      exact Formula.isNormal_negate (ih polarity.flip)

end Pushdown

end Strata
