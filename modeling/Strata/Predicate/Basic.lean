import Strata.Component.Field
import Strata.Filter.Basic
import Strata.Predicate.Formula
import Strata.Predicate.Like

/-!
# Predicates

What a relational store is asked for. Predicates are formulas on three levels: about a component,
about one of its layers, and about one of a layer's attributes. Each level reaches the next one
through an existential test, and a predicate about a layer may be one about its component.

Names in lists are in lowercase.
-/

namespace Strata

/-- A test of a text column. Comparisons do not regard case. -/
inductive TextTest where
  | equals (value : String)
  | notEquals (value : String)
  | like (pattern : String)
  deriving DecidableEq, Repr

namespace TextTest

/-- The test of an operator and its operand, which is taken literally. -/
def ofOperator (operator : Operator) (operand : String) : TextTest :=
  match operator with
  | .equals => .equals operand
  | .notEquals => .notEquals operand
  | .contains => .like ("%" ++ Like.escapeText operand ++ "%")
  | .beginsWith => .like (Like.escapeText operand ++ "%")
  | .endsWith => .like ("%" ++ Like.escapeText operand)

/-- Whether a text passes. -/
def holds (test : TextTest) (input : String) : Bool :=
  match test with
  | .equals value => Text.folded input == Text.folded value
  | .notEquals value => Text.folded input != Text.folded value
  | .like pattern => Like.matchChars (Text.folded pattern) (Text.folded input)

end TextTest

/-- A test of an attribute. -/
inductive AttributeTest where
  | name (test : TextTest)
  | value (test : TextTest)
  | typeIs (type : AttributeType)
  | changed (value : Bool)
  | nameIn (names : List String)

/-- A predicate about an attribute. -/
abbrev AttributePredicate := Formula AttributeTest

/-- The layers that attributes are compared with. -/
inductive DiffTargets where
  /-- Those below the layer. -/
  | lowerOrdinal
  /-- Those of these solutions, the layer itself excepted. -/
  | solutions (names : List String)
  deriving DecidableEq, Repr

mutual

/-- A test of a component. -/
inductive ComponentTest where
  | field (field : ComponentField) (test : TextTest)
  /-- Some layer of the component satisfies the predicate. -/
  | anyLayer (inner : Formula LayerTest)

/-- A test of a layer. -/
inductive LayerTest where
  | solution (field : LayerField) (test : TextTest)
  | solutionIn (names : List String)
  | managed (value : Bool)
  | ordinalAbove (bound : Ordinal)
  | ordinalBelow (bound : Ordinal)
  /-- Some attribute of the layer satisfies the predicate. -/
  | anyAttribute (inner : Formula AttributeTest)
  /-- Of the candidates among the layer's attributes, some or all have no counterpart of the same
  name and hash among the targets' attributes. -/
  | differs (candidates : Formula AttributeTest) (logic : MatchLogic) (targets : DiffTargets)
  /-- The component of the layer satisfies the predicate. -/
  | owner (inner : Formula ComponentTest)

end

/-- A predicate about a component. -/
abbrev ComponentPredicate := Formula ComponentTest

/-- A predicate about a layer. -/
abbrev LayerPredicate := Formula LayerTest

/-- The predicate that some layer satisfies another. -/
def LayerPredicate.someLayer (inner : LayerPredicate) : ComponentPredicate :=
  match inner with
  | .const false => .const false
  | inner => .atom (.anyLayer inner)

/-- The predicate that some attribute satisfies another. -/
def AttributePredicate.someAttribute (inner : AttributePredicate) : LayerPredicate :=
  match inner with
  | .const false => .const false
  | inner => .atom (.anyAttribute inner)

/-- The predicate that the component satisfies another. -/
def ComponentPredicate.ofOwner (inner : ComponentPredicate) : LayerPredicate :=
  match inner with
  | .const b => .const b
  | inner => .atom (.owner inner)

end Strata
