import Strata.Config
import Strata.Lookup
import Strata.Predicate.Basic

/-!
# From filters to predicates

The predicate that a store is asked for in place of a filter. A filter that a store can evaluate
becomes a predicate of the same meaning. What it cannot evaluate becomes the weakest answer that no
component is lost by: true, or false where the filter stands under an odd number of negations. A
sequence, which a store can evaluate in part, becomes what follows from it: that its literal
solutions are there, one of each of its choices, and what lookups have to say of ordinals and
conditions.
-/

namespace Strata

/-- Whether a filter stands under an even or an odd number of negations. -/
inductive Polarity where
  | positive
  | negative
  deriving DecidableEq, Repr

namespace Polarity

/-- The polarity under one more negation. -/
def flip : Polarity → Polarity
  | .positive => .negative
  | .negative => .positive

/-- The constant that loses no component in this place. -/
def widest : Polarity → Bool
  | .positive => true
  | .negative => false

end Polarity

/-- What predicates are made with: the attributes that count for nothing, and the lookups that there
are. -/
structure Pushdown where
  excluded : ExcludedAttributes
  lookups : Option Lookups := none

/-! ## Tests -/

/-- That a layer is of a solution. -/
def named (solution : String) : LayerPredicate := .atom (.solution .name (.equals solution))

/-- That some layer is of a solution. -/
def hasLayerOf (solution : String) : ComponentPredicate := (named solution).someLayer

/-- The test of a component's criterion. -/
def ComponentCriterion.predicate : ComponentCriterion → ComponentPredicate
  | .field column operator value => .atom (.field column (.ofOperator operator value))
  | .type value => .atom (.field .componentType (.equals value))

/-- The predicate of a condition on a layer. -/
def LayerCondition.predicate (condition : LayerCondition) : LayerPredicate :=
  .atom (.solution condition.field (.ofOperator condition.operator condition.value))

namespace Pushdown

/-- That an attribute is not excluded. -/
def notExcluded (excluded : ExcludedAttributes) : AttributePredicate :=
  if excluded.isEmpty then .const true
  else Formula.negate (.atom (.nameIn excluded.names))

/-- That an attribute was changed and is not excluded. -/
def relevantChange (excluded : ExcludedAttributes) : List AttributePredicate :=
  [.atom (.changed true), notExcluded excluded]

/-- The attributes that are compared. -/
def candidates (excluded : ExcludedAttributes) (diff : AttributeDiff) : AttributePredicate :=
  Formula.all ((if diff.onlyChanged then relevantChange excluded else [])
    ++ (if diff.names.isEmpty then [] else [.atom (.nameIn (diff.names.map Text.lowercase))]))

/-- The layers that attributes are compared with. -/
def targets (diff : AttributeDiff) : DiffTargets :=
  match diff.mode with
  | .allBelow => .lowerOrdinal
  | .specific => .solutions (diff.targets.map Text.lowercase)

/-- The predicate of a layer's criterion. -/
def criterion (excluded : ExcludedAttributes) : LayerCriterion → LayerPredicate
  | .managed value => .atom (.managed value)
  | .publisher operator value => .atom (.solution .publisher (.ofOperator operator value))
  | .condition condition => condition.predicate
  | .holdsAttribute name operator value type =>
    AttributePredicate.someAttribute (Formula.all [
      .atom (.name (.equals name)),
      .atom (.value (.ofOperator operator value)),
      type.elim (.const true) fun type => .atom (.typeIs type)])
  | .changes solution =>
    Formula.all [
      solution.elim (.const true) named,
      AttributePredicate.someAttribute (Formula.all (relevantChange excluded))]
  | .differs diff =>
    Formula.all [
      named diff.source,
      .atom (.differs (candidates excluded diff) diff.logic (targets diff))]
  | .isOf solution => named solution

/-! ## Sequences -/

/-- The range of a step's solution, if the step is literal and the range is known. -/
def stepRange? (lookups : Lookups) : Step → Option OrdinalRange
  | .literal solution => lookups.range? solution
  | _ => none

/-- What lookups say of the ordinal of a literal step's layer: it lies above the lowest layer of
every literal step before it, and below the highest of every one after it. -/
def bounds (lookups : Lookups) (before after : List Step) : List LayerPredicate :=
  let lower := ((before.filterMap (stepRange? lookups)).map (·.min)).max?
  let upper := ((after.filterMap (stepRange? lookups)).map (·.max)).min?
  lower.toList.map (fun bound => .atom (.ordinalAbove bound))
    ++ upper.toList.map fun bound => .atom (.ordinalBelow bound)

/-- What follows from one step of a sequence, given the steps before and after it. -/
def narrowStep (lookups : Option Lookups) (before : List Step) (step : Step) (after : List Step) :
    List ComponentPredicate :=
  match step with
  | .literal solution =>
    [LayerPredicate.someLayer (Formula.all
      (named solution :: lookups.elim [] fun lookups => bounds lookups before after))]
  | .choice solutions => [Formula.any (solutions.map hasLayerOf)]
  | .dynamic raw =>
    match lookups, raw.condition? with
    | some lookups, some condition =>
      (lookups.resolved? condition).toList.map fun solutions =>
        LayerPredicate.someLayer (.atom (.solutionIn solutions))
    | _, _ => []

/-- What follows from the steps of a sequence, given those before them. -/
def narrowSteps (lookups : Option Lookups) (before : List Step) :
    List Step → List ComponentPredicate
  | [] => []
  | step :: after =>
    narrowStep lookups before step after ++ narrowSteps lookups (before ++ [step]) after

/-- What a sequence becomes. -/
def sequence (lookups : Option Lookups) (steps : List Step) : Polarity → ComponentPredicate
  | .positive => Formula.all (narrowSteps lookups [] steps)
  | .negative => .const false

/-! ## Filters -/

/-- Combines predicates about solutions. -/
def quantified (quantifier : Quantifier) (parts : List (Formula α)) : Formula α :=
  match quantifier with
  | .any => Formula.any parts
  | .all => Formula.all parts
  | .none => (Formula.any parts).negate

variable (pushdown : Pushdown)

mutual

/-- The predicate of a filter in the scope of a component. -/
def component : Filter → Polarity → ComponentPredicate
  | .component test, _ => test.predicate
  | .layer test, _ => (criterion pushdown.excluded test).someLayer
  | .solutions quantifier names, _ => quantified quantifier (names.map hasLayerOf)
  | .sequence _ steps, polarity => sequence pushdown.lookups steps polarity
  | .anyLayer none, _ => .const true
  | .anyLayer (some child), polarity => (layer child polarity).someLayer
  | .layerOf solution none, _ => LayerPredicate.someLayer (Formula.all [named solution, .const true])
  | .layerOf solution (some child), polarity =>
    LayerPredicate.someLayer (Formula.all [named solution, layer child polarity])
  | .all children, polarity => Formula.all (components children polarity)
  | .any children, polarity => Formula.any (components children polarity)
  | .not none, _ => .const true
  | .not (some child), polarity => (component child polarity.flip).negate
  | .unknown, polarity => .const polarity.widest

/-- The predicates of filters in the scope of a component. -/
def components : List Filter → Polarity → List ComponentPredicate
  | [], _ => []
  | child :: rest, polarity => component child polarity :: components rest polarity

/-- The predicate of a filter in the scope of a layer. -/
def layer : Filter → Polarity → LayerPredicate
  | .component test, _ => test.predicate.ofOwner
  | .layer test, _ => criterion pushdown.excluded test
  | .solutions quantifier names, _ => quantified quantifier (names.map named)
  | .sequence _ steps, polarity => (sequence pushdown.lookups steps polarity).ofOwner
  | .anyLayer none, _ => .const true
  | .anyLayer (some child), polarity => (layer child polarity).someLayer.ofOwner
  | .layerOf solution none, _ => Formula.all [named solution, .const true]
  | .layerOf solution (some child), polarity => Formula.all [named solution, layer child polarity]
  | .all children, polarity => Formula.all (layers children polarity)
  | .any children, polarity => Formula.any (layers children polarity)
  | .not none, _ => .const true
  | .not (some child), polarity => (layer child polarity.flip).negate
  | .unknown, polarity => .const polarity.widest

/-- The predicates of filters in the scope of a layer. -/
def layers : List Filter → Polarity → List LayerPredicate
  | [], _ => []
  | child :: rest, polarity => layer child polarity :: layers rest polarity

end

/-- The predicate of a filter that may be absent. -/
def predicate (filter : Option Filter) : ComponentPredicate :=
  match filter with
  | none => .const true
  | some filter => component pushdown filter .positive

end Pushdown

end Strata
