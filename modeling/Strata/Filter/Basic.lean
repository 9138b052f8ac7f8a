import Strata.Component.Field
import Strata.Operator

/-!
# Filters

A filter is a condition on components. The vocabulary is closed: a filter of a kind that is not
known is `unknown`, and no component satisfies it.

Filters are of four sorts. Some test the component itself, some test one of its layers, one walks
the whole stack of layers in order, and the rest combine other filters. What they mean is in
`Strata.Filter.Semantics`.
-/

namespace Strata

/-! ## Parts of filters -/

/-- A condition on a text of a layer. -/
structure LayerCondition where
  field : LayerField
  operator : Operator := default
  value : String
  deriving DecidableEq, Repr

/-- What tells conditions apart: they compare without regard to case. -/
def LayerCondition.key (condition : LayerCondition) : LayerCondition :=
  { condition with value := Text.lowercase condition.value }

/-- A condition on a layer as it was written, with tags that may mean nothing. -/
structure RawCondition where
  field : String := ""
  operator : String := ""
  value : String := ""
  deriving DecidableEq, Repr

/-- The condition that was meant, or why there is none. -/
def RawCondition.parse (raw : RawCondition) : Wire.Decoded LayerCondition := do
  let field ← Wire.Tag.parse raw.field
  let operator ← Wire.Tag.parse raw.operator
  return { field, operator, value := raw.value }

/-- The condition that was meant, if there is one. -/
def RawCondition.condition? (raw : RawCondition) : Option LayerCondition := raw.parse.toOption

/-- One step of a sequence of layers. -/
inductive Step where
  /-- The layer of this solution. -/
  | literal (solution : String)
  /-- The layer of any of these solutions. -/
  | choice (solutions : List String)
  /-- A layer that satisfies a condition; none does if the condition means nothing. -/
  | dynamic (raw : RawCondition)
  deriving DecidableEq, Repr

/-- Whether layers may lie between the steps of a sequence. -/
inductive SequenceMode where
  | strict
  | flexible
  deriving DecidableEq, Repr

/-- Which layers the attributes of a layer are compared with. -/
inductive TargetMode where
  /-- All that lie below it. -/
  | allBelow
  /-- Those of named solutions. -/
  | specific
  deriving DecidableEq, Repr

instance : Inhabited TargetMode := ⟨.allBelow⟩

instance : Wire.Tag TargetMode where
  title := "TargetMode"
  all := [.allBelow, .specific]
  canonical
    | .allBelow => "AllBelow"
    | .specific => "Specific"
  aliases
    | .allBelow => ["below", "alllower", "lower"]
    | .specific => ["specificsolutions", "explicit", "targets"]

/-- Whether one attribute that differs is enough, or all have to. -/
inductive MatchLogic where
  | any
  | all
  deriving DecidableEq, Repr

instance : Inhabited MatchLogic := ⟨.any⟩

instance : Wire.Tag MatchLogic where
  title := "MatchLogic"
  all := [.any, .all]
  canonical
    | .any => "Any"
    | .all => "All"
  aliases
    | .any => ["or"]
    | .all => ["and"]

/-- A comparison of the attributes of one layer with those of others. -/
structure AttributeDiff where
  source : String
  mode : TargetMode := default
  targets : List String := []
  onlyChanged : Bool := false
  names : List String := []
  logic : MatchLogic := default
  deriving DecidableEq, Repr

/-- A test of the component itself. -/
inductive ComponentCriterion where
  | field (field : ComponentField) (operator : Operator) (value : String)
  | type (value : String)
  deriving DecidableEq, Repr

/-- A test of one layer. -/
inductive LayerCriterion where
  | managed (value : Bool)
  | publisher (operator : Operator) (value : String)
  | condition (condition : LayerCondition)
  | holdsAttribute (name : String) (operator : Operator) (value : String)
      (type : Option AttributeType)
  | changes (solution : Option String)
  | differs (diff : AttributeDiff)
  | isOf (solution : String)
  deriving DecidableEq, Repr

/-- How many of some solutions have to be there. -/
inductive Quantifier where
  | any
  | all
  | none
  deriving DecidableEq, Repr

/-! ## Filters -/

/-- A condition on components. -/
inductive Filter where
  | component (test : ComponentCriterion)
  /-- Some layer passes; within the scope of a layer, that layer does. -/
  | layer (test : LayerCriterion)
  | solutions (quantifier : Quantifier) (names : List String)
  | sequence (mode : SequenceMode) (steps : List Step)
  /-- Some layer satisfies the child in its own scope. Satisfied if there is no child. -/
  | anyLayer (child : Option Filter)
  /-- The layer of a solution satisfies the child in its own scope. It has to exist even if there is
  no child. -/
  | layerOf (solution : String) (child : Option Filter)
  | all (children : List Filter)
  | any (children : List Filter)
  /-- The child is not satisfied. Satisfied if there is no child. -/
  | not (child : Option Filter)
  | unknown

namespace Filter

/-- The filter that some layer is of a solution. -/
def has (solution : String) : Filter := .layer (.isOf solution)

/-- The steps of a sequence. -/
def steps? : Filter → Option (List Step)
  | .sequence _ steps => some steps
  | _ => none

/-- The filters directly under this one. -/
def children : Filter → List Filter
  | .all children => children
  | .any children => children
  | .not child => child.toList
  | .anyLayer child => child.toList
  | .layerOf _ child => child.toList
  | _ => []

mutual

/-- Whether a sequence occurs in the filter. -/
def containsSequence : Filter → Bool
  | .sequence _ _ => true
  | .all children => anyContainsSequence children
  | .any children => anyContainsSequence children
  | .not (some child) => child.containsSequence
  | .anyLayer (some child) => child.containsSequence
  | .layerOf _ (some child) => child.containsSequence
  | _ => false

/-- Whether a sequence occurs in one of the filters. -/
def anyContainsSequence : List Filter → Bool
  | [] => false
  | child :: rest => child.containsSequence || anyContainsSequence rest

end

end Filter

end Strata
