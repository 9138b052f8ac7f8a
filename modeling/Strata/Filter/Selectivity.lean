import Strata.Filter.Basic
import Strata.Order.StableSort

/-!
# Selectivity

A coarse estimate of the share of components that satisfy a filter, from 0 for none to 1 for all.
It decides nothing; it orders work. `Filter.ranked` puts the filters under every conjunction in the
order of their estimates, the most selective first.
-/

namespace Strata

/-- The share of texts that a comparison holds of. -/
def Operator.selectivity : Operator → Float
  | .equals => 0.1
  | .beginsWith => 0.3
  | .contains => 0.4
  | .endsWith => 0.4
  | .notEquals => 0.9

/-- A power, by squaring. `factor` is the power of the base that the next binary digit of the
exponent stands for. -/
def powerFrom (result factor : Float) (exponent : Nat) : Float :=
  let result := if exponent % 2 = 1 then result * factor else result
  if exponent / 2 = 0 then result else powerFrom result (factor * factor) (exponent / 2)
termination_by exponent

/-- The share of layers' components that a test holds of. -/
def LayerCriterion.selectivity : LayerCriterion → Float
  | .managed _ => 0.5
  | .publisher operator _ => max operator.selectivity 0.3
  | .condition tested => max tested.operator.selectivity 0.2
  | .holdsAttribute .. => 0.3
  | .changes _ => 0.5
  | .differs _ => 0.4
  | .isOf _ => 0.3

/-- The share of components that some solutions leave. -/
def Quantifier.selectivity (quantifier : Quantifier) (count : Nat) : Float :=
  match quantifier with
  | .any => min (0.3 * Float.ofNat count) 1.0
  | .all => powerFrom 1.0 0.3 count
  | .none => if count = 0 then 1.0 else 0.7

namespace Filter

mutual

/-- The share of components that satisfy a filter. -/
def selectivity : Filter → Float
  | .component (.field _ operator _) => operator.selectivity
  | .component (.type _) => 0.2
  | .layer test => test.selectivity
  | .solutions quantifier names => quantifier.selectivity names.length
  | .sequence .strict _ => 0.1
  | .sequence .flexible _ => 0.2
  | .anyLayer none => 1.0
  | .anyLayer (some child) => child.selectivity
  | .layerOf _ none => 0.3 * 1.0
  | .layerOf _ (some child) => 0.3 * child.selectivity
  | .all children => productOf 1.0 children
  | .any children => greatestOf 0.0 children
  | .not none => 1.0
  | .not (some child) => 1.0 - child.selectivity
  | .unknown => 1.0

/-- The product of a share and those of some filters, from left to right. -/
def productOf (share : Float) : List Filter → Float
  | [] => share
  | child :: rest => productOf (share * child.selectivity) rest

/-- The greatest of a share and those of some filters. -/
def greatestOf (share : Float) : List Filter → Float
  | [] => share
  | child :: rest => greatestOf (max share child.selectivity) rest

end

/-- The estimate in units of a millionth of a millionth, to the nearest, halves away from zero. -/
def selectivityPico (filter : Option Filter) : Nat :=
  ((filter.elim 1.0 selectivity * 1000000000000.0).round).toUInt64.toNat

/-! ## Ranking -/

/-- The place of a double among all doubles: by sign, then by size. -/
def floatRank (x : Float) : Int :=
  let bits := x.toBits.toNat
  if bits < 0x8000000000000000 then bits else 0x7fffffffffffffff - (bits : Int)

/-- Whether a filter is at least as selective as another. -/
def atLeastAsSelective (a b : Filter) : Bool := floatRank a.selectivity ≤ floatRank b.selectivity

mutual

/-- The filter with the children of every conjunction in the order of their selectivity. -/
def ranked : Filter → Filter
  | .all children => .all (stableSort atLeastAsSelective (rankedEach children))
  | .any children => .any (rankedEach children)
  | .not (some child) => .not (some child.ranked)
  | .anyLayer (some child) => .anyLayer (some child.ranked)
  | .layerOf solution (some child) => .layerOf solution (some child.ranked)
  | .component test => .component test
  | .layer test => .layer test
  | .solutions quantifier names => .solutions quantifier names
  | .sequence mode steps => .sequence mode steps
  | .anyLayer none => .anyLayer none
  | .layerOf solution none => .layerOf solution none
  | .not none => .not none
  | .unknown => .unknown

/-- Filters, each of them ranked. -/
def rankedEach : List Filter → List Filter
  | [] => []
  | child :: rest => child.ranked :: rankedEach rest

end

end Filter

end Strata
