import Strata.Predicate.Basic

/-!
# What predicates mean

Whether a component, a layer or an attribute satisfies a predicate, as a store would find it.
-/

namespace Strata

/-- Whether an attribute passes a test. -/
def AttributeTest.holds (a : LayerAttribute) : AttributeTest → Bool
  | .name test => test.holds a.name
  | .value test => test.holds a.value
  | .typeIs type => a.type == type
  | .changed flag => a.changed == flag
  | .nameIn names => names.contains (Text.lowercase a.name)

/-- Whether an attribute satisfies a predicate. -/
def AttributePredicate.holds (predicate : AttributePredicate) (a : LayerAttribute) : Bool :=
  predicate.eval (AttributeTest.holds a)

/-- Whether a layer is one that the attributes of another are compared with. -/
def DiffTargets.includes (targets : DiffTargets) (source layer : Layer) : Bool :=
  match targets with
  | .lowerOrdinal => layer.ordinal < source.ordinal
  | .solutions names =>
    layer.ordinal != source.ordinal && names.contains (Text.lowercase layer.solution)

/-- Whether attributes of layers have one of the same name and hash. -/
def LayerAttribute.hasCounterpartIn (a : LayerAttribute) (layers : List Layer) : Bool :=
  layers.any fun layer => layer.attributes.any fun b =>
    b.hash == a.hash && Text.lowercase b.name == Text.lowercase a.name

/-- Whether candidates among the attributes of a layer have no counterparts in other layers. -/
def MatchLogic.lacksCounterparts (logic : MatchLogic) (candidates : AttributePredicate)
    (targets : DiffTargets) (component : Component) (layer : Layer) : Bool :=
  let compared := component.layers.filter (targets.includes layer)
  let selected := layer.attributes.filter candidates.holds
  match logic with
  | .any => selected.any fun a => !a.hasCounterpartIn compared
  | .all => !selected.isEmpty && selected.all fun a => !a.hasCounterpartIn compared

section

variable (component : Component)

mutual

/-- Whether the component passes a test. -/
def ComponentTest.holds : ComponentTest → Bool
  | .field column test => test.holds (column.get component)
  | .anyLayer inner => component.layers.any fun layer => LayerPredicate.holds inner layer

/-- Whether the component satisfies a predicate. -/
def ComponentPredicate.holds : Formula ComponentTest → Bool
  | .const b => b
  | .and parts => ComponentPredicate.allHold parts
  | .or parts => ComponentPredicate.anyHolds parts
  | .not inner => !ComponentPredicate.holds inner
  | .atom test => test.holds

/-- Whether the component satisfies all of some predicates. -/
def ComponentPredicate.allHold : List (Formula ComponentTest) → Bool
  | [] => true
  | part :: rest => ComponentPredicate.holds part && ComponentPredicate.allHold rest

/-- Whether the component satisfies one of some predicates. -/
def ComponentPredicate.anyHolds : List (Formula ComponentTest) → Bool
  | [] => false
  | part :: rest => ComponentPredicate.holds part || ComponentPredicate.anyHolds rest

/-- Whether a layer of the component passes a test. -/
def LayerTest.holds : LayerTest → Layer → Bool
  | .solution column test, layer => test.holds (column.get layer)
  | .solutionIn names, layer => names.contains (Text.lowercase layer.solution)
  | .managed flag, layer => layer.managed == flag
  | .ordinalAbove bound, layer => bound < layer.ordinal
  | .ordinalBelow bound, layer => layer.ordinal < bound
  | .anyAttribute inner, layer => layer.attributes.any (AttributePredicate.holds inner)
  | .differs candidates logic targets, layer =>
    logic.lacksCounterparts candidates targets component layer
  | .owner inner, _ => ComponentPredicate.holds inner

/-- Whether a layer of the component satisfies a predicate. -/
def LayerPredicate.holds : Formula LayerTest → Layer → Bool
  | .const b, _ => b
  | .and parts, layer => LayerPredicate.allHold parts layer
  | .or parts, layer => LayerPredicate.anyHolds parts layer
  | .not inner, layer => !LayerPredicate.holds inner layer
  | .atom test, layer => test.holds layer

/-- Whether a layer of the component satisfies all of some predicates. -/
def LayerPredicate.allHold : List (Formula LayerTest) → Layer → Bool
  | [], _ => true
  | part :: rest, layer => LayerPredicate.holds part layer && LayerPredicate.allHold rest layer

/-- Whether a layer of the component satisfies one of some predicates. -/
def LayerPredicate.anyHolds : List (Formula LayerTest) → Layer → Bool
  | [], _ => false
  | part :: rest, layer => LayerPredicate.holds part layer || LayerPredicate.anyHolds rest layer

end

end

end Strata
