import Strata.Proofs.Connectives
import Strata.Proofs.NormalForms

/-!
# Predicates without their levels

On which level a part of a predicate stands makes no difference to what a store finds, nor to how it
is written: a predicate about the component of a layer is written as if it were one about the layer,
and constants and connectives look alike everywhere. What is left of a predicate then is a condition
(`Condition`). In the scope of a component, a layer of it and an attribute of that one (`Rows`) it
is true or false, and subqueries put other layers and attributes into the scope.

The predicates of the three levels are conditions of the same meaning (`holds_condition`).
-/

namespace Strata

open Formula (Connective)

/-! ## Conditions -/

/-- A column that is compared with texts. -/
inductive Column where
  | component (field : ComponentField)
  | layer (field : LayerField)
  | attributeName
  | attributeValue
  deriving DecidableEq, Repr

/-- A condition. A connective has two parts or more. -/
inductive Condition where
  | const (value : Bool)
  | joined (connective : Connective) (first second : Condition) (rest : List Condition)
  | not (inner : Condition)
  | compare (column : Column) (test : TextTest)
  | member (column : Column) (names : List String)
  | hasType (type : AttributeType)
  | changed (value : Bool)
  | managed (value : Bool)
  | ordinalAbove (bound : Ordinal)
  | ordinalBelow (bound : Ordinal)
  | someLayer (inner : Condition)
  | someAttribute (inner : Condition)
  | differs (candidates : Condition) (logic : MatchLogic) (targets : DiffTargets)

/-- The condition that joins others. -/
def Condition.gather (connective : Connective) : List Condition → Condition
  | [] => .const !connective.absorbing
  | [part] => part
  | first :: second :: rest => .joined connective first second rest

/-- The condition that a test of an attribute is written as. -/
def AttributeTest.condition : AttributeTest → Condition
  | .name test => .compare .attributeName test
  | .value test => .compare .attributeValue test
  | .typeIs type => .hasType type
  | .changed expected => .changed expected
  | .nameIn names => .member .attributeName names

mutual

def AttributePredicate.condition : Formula AttributeTest → Condition
  | .const value => .const value
  | .and parts => .gather .all (AttributePredicate.conditionEach parts)
  | .or parts => .gather .any (AttributePredicate.conditionEach parts)
  | .not inner => .not (AttributePredicate.condition inner)
  | .atom test => test.condition

def AttributePredicate.conditionEach : List (Formula AttributeTest) → List Condition
  | [] => []
  | part :: rest => AttributePredicate.condition part :: AttributePredicate.conditionEach rest

end

mutual

def ComponentTest.condition : ComponentTest → Condition
  | .field field test => .compare (.component field) test
  | .anyLayer inner => .someLayer (LayerPredicate.condition inner)

def ComponentPredicate.condition : Formula ComponentTest → Condition
  | .const value => .const value
  | .and parts => .gather .all (ComponentPredicate.conditionEach parts)
  | .or parts => .gather .any (ComponentPredicate.conditionEach parts)
  | .not inner => .not (ComponentPredicate.condition inner)
  | .atom test => test.condition

def ComponentPredicate.conditionEach : List (Formula ComponentTest) → List Condition
  | [] => []
  | part :: rest => ComponentPredicate.condition part :: ComponentPredicate.conditionEach rest

def LayerTest.condition : LayerTest → Condition
  | .solution field test => .compare (.layer field) test
  | .solutionIn names => .member (.layer .name) names
  | .managed value => .managed value
  | .ordinalAbove bound => .ordinalAbove bound
  | .ordinalBelow bound => .ordinalBelow bound
  | .anyAttribute inner => .someAttribute (AttributePredicate.condition inner)
  | .differs candidates logic targets =>
    .differs (AttributePredicate.condition candidates) logic targets
  | .owner inner => ComponentPredicate.condition inner

def LayerPredicate.condition : Formula LayerTest → Condition
  | .const value => .const value
  | .and parts => .gather .all (LayerPredicate.conditionEach parts)
  | .or parts => .gather .any (LayerPredicate.conditionEach parts)
  | .not inner => .not (LayerPredicate.condition inner)
  | .atom test => test.condition

def LayerPredicate.conditionEach : List (Formula LayerTest) → List Condition
  | [] => []
  | part :: rest => LayerPredicate.condition part :: LayerPredicate.conditionEach rest

end

/-! ## What conditions mean -/

/-- The rows that are in scope. -/
structure Rows where
  component : Component
  layer : Layer
  attr : LayerAttribute

/-- The text in a column. -/
def Column.get (rows : Rows) : Column → String
  | .component field => field.get rows.component
  | .layer field => field.get rows.layer
  | .attributeName => rows.attr.name
  | .attributeValue => rows.attr.value

/-- The value of a connective under values of its parts. -/
def combine : Connective → List Bool → Bool
  | .all, values => values.all id
  | .any, values => values.any id

/-- Whether some or all of the attributes of a selection have no counterparts in other layers. -/
def MatchLogic.lacks (logic : MatchLogic) (selected : List LayerAttribute)
    (compared : List Layer) : Bool :=
  match logic with
  | .any => selected.any fun a => !a.hasCounterpartIn compared
  | .all => !selected.isEmpty && selected.all fun a => !a.hasCounterpartIn compared

mutual

/-- Whether a condition is true of the rows in scope. -/
def Condition.holds : Condition → Rows → Bool
  | .const value, _ => value
  | .joined connective first second rest, rows =>
    combine connective (first.holds rows :: second.holds rows :: Condition.holdsEach rest rows)
  | .not inner, rows => !inner.holds rows
  | .compare column test, rows => test.holds (column.get rows)
  | .member column names, rows => names.contains (Text.lowercase (column.get rows))
  | .hasType type, rows => rows.attr.type == type
  | .changed value, rows => rows.attr.changed == value
  | .managed value, rows => rows.layer.managed == value
  | .ordinalAbove bound, rows => bound < rows.layer.ordinal
  | .ordinalBelow bound, rows => rows.layer.ordinal < bound
  | .someLayer inner, rows =>
    rows.component.layers.any fun layer => inner.holds { rows with layer }
  | .someAttribute inner, rows =>
    rows.layer.attributes.any fun attr => inner.holds { rows with attr }
  | .differs candidates logic targets, rows =>
    logic.lacks
      (rows.layer.attributes.filter fun attr => candidates.holds { rows with attr })
      (rows.component.layers.filter (targets.includes rows.layer))

/-- Which of some conditions are true of the rows in scope. -/
def Condition.holdsEach : List Condition → Rows → List Bool
  | [], _ => []
  | part :: rest, rows => part.holds rows :: Condition.holdsEach rest rows

end

theorem Condition.holdsEach_eq_map (parts : List Condition) (rows : Rows) :
    Condition.holdsEach parts rows = parts.map (·.holds rows) := by
  induction parts with
  | nil => rw [Condition.holdsEach, List.map_nil]
  | cons part parts ih => rw [Condition.holdsEach, ih, List.map_cons]

theorem Condition.holds_gather (connective : Connective) (parts : List Condition) (rows : Rows) :
    (gather connective parts).holds rows = combine connective (parts.map (·.holds rows)) := by
  match parts with
  | [] => cases connective <;> rw [gather, Condition.holds] <;> rfl
  | [part] => cases connective <;> simp [gather, combine]
  | first :: second :: rest =>
      rw [gather, Condition.holds, Condition.holdsEach_eq_map, List.map_cons, List.map_cons]

/-! ## Predicates are conditions -/

/-- The recursion that leaves levels out. -/
def Condition.recursion : Formula.Recursion Condition (List Condition) where
  const := .const
  and := .gather .all
  or := .gather .any
  not := .not
  nil := []
  cons := List.cons

theorem AttributePredicate.recursion_defines_condition :
    Condition.recursion.Defines AttributePredicate.condition AttributePredicate.conditionEach :=
  ⟨fun _ => rfl, fun _ => rfl, fun _ => rfl, fun _ => rfl, rfl, fun _ _ => rfl⟩

theorem ComponentPredicate.recursion_defines_condition :
    Condition.recursion.Defines ComponentPredicate.condition ComponentPredicate.conditionEach :=
  ⟨fun _ => rfl, fun _ => rfl, fun _ => rfl, fun _ => rfl, rfl, fun _ _ => rfl⟩

theorem LayerPredicate.recursion_defines_condition :
    Condition.recursion.Defines LayerPredicate.condition LayerPredicate.conditionEach :=
  ⟨fun _ => rfl, fun _ => rfl, fun _ => rfl, fun _ => rfl, rfl, fun _ _ => rfl⟩

theorem Condition.carries_holds (rows : Rows) :
    Formula.Recursion.Carries (fun condition value => condition.holds rows = value)
      (fun conditions values =>
        (combine .all (conditions.map (·.holds rows)), combine .any (conditions.map (·.holds rows)))
          = values)
      Condition.recursion Formula.truth where
  const value := by rw [Condition.recursion, Condition.holds, Formula.truth]
  and h := by
    rw [← h]
    exact holds_gather .all _ rows
  or h := by
    rw [← h]
    exact holds_gather .any _ rows
  not h := by
    rw [Condition.recursion, Condition.holds, h, Formula.truth]
  nil := rfl
  cons h hrest := by
    rw [← h, ← hrest]
    rfl

/-- A formula has the meaning of its condition if its tests have. -/
theorem Condition.holds_of_tests {α : Type} {formula : Formula α} {condition : Formula α → Condition}
    {conditionEach : List (Formula α) → List Condition} {value : α → Bool} {rows : Rows}
    (hcondition : Condition.recursion.Defines condition conditionEach)
    (htests : formula.EachTest fun test => (condition (.atom test)).holds rows = value test) :
    (condition formula).holds rows = formula.eval value :=
  (carries_holds rows).relates hcondition (Formula.truth_defines_eval value) htests

theorem AttributeTest.holds_condition (rows : Rows) (test : AttributeTest) :
    test.condition.holds rows = test.holds rows.attr := by
  cases test <;> rw [AttributeTest.condition, Condition.holds] <;> rfl

theorem AttributePredicate.holds_condition (rows : Rows) (predicate : AttributePredicate) :
    (AttributePredicate.condition predicate).holds rows
      = predicate.eval (AttributeTest.holds rows.attr) :=
  Condition.holds_of_tests recursion_defines_condition fun test _ => test.holds_condition rows

theorem tests_hold_condition :
    (∀ (test : ComponentTest) (rows : Rows),
      test.condition.holds rows = test.holds rows.component) ∧
    ∀ (test : LayerTest) (rows : Rows),
      test.condition.holds rows = test.holds rows.component rows.layer := by
  refine tests_induction (fun test ih rows => ?_) (fun test ih rows => ?_)
  · cases test with
    | field field test =>
        rw [ComponentTest.condition, Condition.holds, ComponentTest.holds, Column.get]
    | anyLayer inner =>
        rw [ComponentTest.condition, Condition.holds, ComponentTest.holds]
        refine congrArg (List.any _) (funext fun layer => ?_)
        rw [LayerPredicate.holds_eq_eval]
        exact Condition.holds_of_tests LayerPredicate.recursion_defines_condition
          fun test hmem => ih inner rfl test hmem { rows with layer }
  · cases test with
    | solution field test =>
        rw [LayerTest.condition, Condition.holds, LayerTest.holds, Column.get]
    | solutionIn names =>
        rw [LayerTest.condition, Condition.holds, LayerTest.holds, Column.get, LayerField.get]
    | managed _ | ordinalAbove _ | ordinalBelow _ =>
        rw [LayerTest.condition, Condition.holds, LayerTest.holds]
    | anyAttribute inner =>
        rw [LayerTest.condition, Condition.holds, LayerTest.holds]
        exact congrArg (List.any _) (funext fun attr =>
          AttributePredicate.holds_condition { rows with attr } inner)
    | differs candidates logic targets =>
        rw [LayerTest.condition, Condition.holds, LayerTest.holds]
        refine congrArg (logic.lacks · _) (congrArg (List.filter · _) (funext fun attr => ?_))
        exact AttributePredicate.holds_condition { rows with attr } candidates
    | owner inner =>
        rw [LayerTest.condition, LayerTest.holds, ComponentPredicate.holds_eq_eval]
        exact Condition.holds_of_tests ComponentPredicate.recursion_defines_condition
          fun test hmem => ih inner rfl test hmem rows

theorem ComponentPredicate.holds_condition (rows : Rows) (predicate : ComponentPredicate) :
    (ComponentPredicate.condition predicate).holds rows
      = predicate.eval (ComponentTest.holds rows.component) :=
  Condition.holds_of_tests recursion_defines_condition
    fun test _ => tests_hold_condition.1 test rows

end Strata
