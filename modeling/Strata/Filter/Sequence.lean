import Strata.Filter.Basic

/-!
# Sequences

A sequence walks its steps and the layers of a component, in the order of their ordinals, side by
side. A layer that a step accepts takes both further. A layer that it does not accept ends a strict
walk and is passed over by a flexible one. The sequence is satisfied once no step is left; layers
may be.
-/

namespace Strata

namespace Layer

/-- Whether a layer satisfies a condition. -/
def satisfies (layer : Layer) (condition : LayerCondition) : Bool :=
  condition.operator.apply (condition.field.get layer) condition.value

end Layer

namespace Step

/-- Whether a step accepts a layer. -/
def accepts (step : Step) (layer : Layer) : Bool :=
  match step with
  | .literal solution => layer.isOf solution
  | .choice solutions => solutions.any layer.isOf
  | .dynamic raw =>
    match raw.condition? with
    | some condition => layer.satisfies condition
    | none => false

end Step

/-- Walks steps and layers side by side. -/
def SequenceMode.walk (mode : SequenceMode) : List Step → List Layer → Bool
  | [], _ => true
  | _ :: _, [] => false
  | step :: steps, layer :: layers =>
    if step.accepts layer then walk mode steps layers
    else match mode with
      | .strict => false
      | .flexible => walk mode (step :: steps) layers

/-- Whether layers, whatever their order, satisfy a sequence. -/
def SequenceMode.accepts (mode : SequenceMode) (steps : List Step) (layers : List Layer) : Bool :=
  mode.walk steps (Layer.sort layers)

end Strata
