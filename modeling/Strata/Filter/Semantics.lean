import Strata.Config
import Strata.Filter.Sequence

/-!
# What filters mean

Whether a component satisfies a filter, looking at the component itself. This is what every other
way of answering the question has to agree with.

A filter is looked at in a scope: that of the component, or that of one of its layers, which
`anyLayer` and `layerOf` open. The two differ in what a test of a layer is about. In the scope of the
component some layer has to pass it, in that of a layer this layer does. Everything else is the same
in both.
-/

namespace Strata

/-! ## Tests -/

/-- Whether a component passes a test. -/
def ComponentCriterion.holds (test : ComponentCriterion) (component : Component) : Bool :=
  match test with
  | .field tested operator value => operator.apply (tested.get component) value
  | .type value => Text.same component.componentType value

/-- Whether an attribute was changed and is not excluded. -/
def LayerAttribute.isRelevantChange (excluded : ExcludedAttributes) (a : LayerAttribute) : Bool :=
  a.changed && !excluded.contains a.name

/-- Whether an attribute has the name and the hash of another. -/
def LayerAttribute.isCounterpart (a b : LayerAttribute) : Bool :=
  b.hash == a.hash && Text.same b.name a.name

namespace AttributeDiff

/-- Whether a layer is one that the attributes of another are compared with. -/
def isTarget (diff : AttributeDiff) (source layer : Layer) : Bool :=
  match diff.mode with
  | .allBelow => layer.ordinal < source.ordinal
  | .specific => layer.ordinal != source.ordinal && diff.targets.any layer.isOf

/-- Whether an attribute is one of those that are compared. -/
def isCandidate (diff : AttributeDiff) (excluded : ExcludedAttributes) (a : LayerAttribute) : Bool :=
  (!diff.onlyChanged || a.isRelevantChange excluded)
    && (diff.names.isEmpty || diff.names.any (Text.same a.name))

/-- Whether the attributes of a layer differ from those of the layers it is compared with. With no
attribute to compare they do not. -/
def holds (diff : AttributeDiff) (excluded : ExcludedAttributes) (component : Component)
    (layer : Layer) : Bool :=
  let targets := component.layers.filter (diff.isTarget layer)
  let candidates := layer.attributes.filter (diff.isCandidate excluded)
  let differs (a : LayerAttribute) : Bool :=
    targets.all fun target => target.attributes.all fun b => !a.isCounterpart b
  layer.isOf diff.source && match diff.logic with
    | .any => candidates.any differs
    | .all => !candidates.isEmpty && candidates.all differs

end AttributeDiff

/-- Whether a layer of a component passes a test. -/
def LayerCriterion.holds (test : LayerCriterion) (excluded : ExcludedAttributes)
    (component : Component) (layer : Layer) : Bool :=
  match test with
  | .managed value => layer.managed == value
  | .publisher operator value => operator.apply (LayerField.publisher.get layer) value
  | .condition tested => layer.satisfies tested
  | .holdsAttribute name operator value type =>
    layer.attributes.any fun a =>
      Text.same a.name name && operator.apply a.value value && type.all fun type => a.type == type
  | .changes solution =>
    solution.all layer.isOf && layer.attributes.any fun a => a.isRelevantChange excluded
  | .differs diff => diff.holds excluded component layer
  | .isOf solution => layer.isOf solution

/-! ## Filters -/

/-- What a filter is looked at in. -/
inductive Scope where
  | component
  | layer (layer : Layer)

/-- Whether a test of layers is passed in a scope. -/
def Scope.someLayer (scope : Scope) (component : Component) (test : Layer → Bool) : Bool :=
  match scope with
  | .component => component.layers.any test
  | .layer this => test this

/-- Whether enough of some names pass a test. -/
def Quantifier.holds (quantifier : Quantifier) (names : List String) (test : String → Bool) : Bool :=
  match quantifier with
  | .any => names.any test
  | .all => names.all test
  | .none => !names.any test

namespace Filter

variable (excluded : ExcludedAttributes) (component : Component)

mutual

/-- Whether a component satisfies a filter in a scope. -/
def holdsIn : Filter → Scope → Bool
  | .component test, _ => test.holds component
  | .layer test, scope => scope.someLayer component (test.holds excluded component)
  | .solutions quantifier names, scope =>
    quantifier.holds names fun name => scope.someLayer component fun layer => layer.isOf name
  | .sequence mode steps, _ => mode.accepts steps component.layers
  | .anyLayer none, _ => true
  | .anyLayer (some child), _ => component.layers.any fun layer => holdsIn child (.layer layer)
  | .layerOf solution none, scope => scope.someLayer component fun layer => layer.isOf solution
  | .layerOf solution (some child), scope =>
    scope.someLayer component fun layer => layer.isOf solution && holdsIn child (.layer layer)
  | .all children, scope => allHoldIn children scope
  | .any children, scope => anyHoldsIn children scope
  | .not none, _ => true
  | .not (some child), scope => !holdsIn child scope
  | .unknown, _ => false

/-- Whether a component satisfies all of some filters in a scope. -/
def allHoldIn : List Filter → Scope → Bool
  | [], _ => true
  | child :: rest, scope => holdsIn child scope && allHoldIn rest scope

/-- Whether a component satisfies one of some filters in a scope. -/
def anyHoldsIn : List Filter → Scope → Bool
  | [], _ => false
  | child :: rest, scope => holdsIn child scope || anyHoldsIn rest scope

end

/-- Whether a component satisfies a filter. -/
def holds (filter : Filter) : Bool := holdsIn excluded component filter .component

end Filter

/-- Whether a component satisfies a filter that may be absent: every component does then. -/
def satisfies (excluded : ExcludedAttributes) (filter : Option Filter) (component : Component) :
    Bool :=
  filter.all fun filter => filter.holds excluded component

end Strata
