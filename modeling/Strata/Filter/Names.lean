import Strata.Filter.Basic
import Strata.Order.Table

/-!
# The solutions a filter names

All names of solutions that stand in a filter, in lowercase, sorted and without repeats. Conditions
on solutions name none.
-/

namespace Strata

/-- The solutions that a step names. -/
def Step.solutions : Step → List String
  | .literal solution => [solution]
  | .choice solutions => solutions
  | .dynamic _ => []

/-- The solutions that a test of a layer names. -/
def LayerCriterion.solutions : LayerCriterion → List String
  | .isOf solution => [solution]
  | .differs diff => diff.source :: diff.targets
  | .changes solution => solution.toList
  | _ => []

namespace Filter

mutual

/-- The solutions that a filter names, as they are written, from left to right. -/
def mentioned : Filter → List String
  | .component _ => []
  | .layer test => test.solutions
  | .solutions _ names => names
  | .sequence _ steps => steps.flatMap Step.solutions
  | .anyLayer (some child) => child.mentioned
  | .layerOf solution none => [solution]
  | .layerOf solution (some child) => solution :: child.mentioned
  | .all children => mentionedIn children
  | .any children => mentionedIn children
  | .not (some child) => child.mentioned
  | _ => []

/-- The solutions that some filters name. -/
def mentionedIn : List Filter → List String
  | [] => []
  | child :: rest => child.mentioned ++ mentionedIn rest

end

/-- The solutions that a filter names, in lowercase and sorted. -/
def solutionNames (filter : Filter) : List String :=
  filter.mentioned.foldl (fun names name => insertName (Text.lowercase name) names) []

end Filter

end Strata
