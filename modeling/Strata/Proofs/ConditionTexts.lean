import Strata.Proofs.Clauses
import Strata.Proofs.Conditions

/-!
# The text of conditions

A condition begins in one of a few ways (`Opening`), and goes on from there (`Condition.text`). A
predicate in normal form, in which every connective has parts to be written between, has the text of
its condition (`text_condition`).
-/

namespace Strata

open Formula (Connective)
open Sql

/-- What a column is written as. -/
def Column.sql : Column → List Fragment
  | .component field => field.column
  | .layer field => field.column
  | .attributeName => [.fixed "a.name"]
  | .attributeValue => [.fixed "a.value"]

/-- What stands between the parts of a connective. -/
def separator : Connective → String
  | .all => " AND "
  | .any => " OR "

/-- What a condition begins with. -/
inductive Opening where
  | constant (value : Bool)
  | parenthesis
  | negation
  | column (column : Column)
  | type
  | changed
  | managed
  | above
  | below
  | layers
  | attributes
  deriving DecidableEq, Repr

/-- What is to be read of the beginning of a condition. -/
def Opening.symbols : Opening → List Symbol
  | .constant value => Sql.symbols (Sql.constant value)
  | .parenthesis => word "("
  | .negation => word "NOT ("
  | .column compared => Sql.symbols (lower compared.sql)
  | .type => word "a.attribute_type = "
  | .changed => word "a.changed = "
  | .managed => word "l.managed = "
  | .above => word "l.ordinal > "
  | .below => word "l.ordinal < "
  | .layers => word "EXISTS (SELECT 1 FROM layers l WHERE l.component_id = c.id AND "
  | .attributes => word ("EXISTS (SELECT 1 FROM " ++ attributeRows ++ " AND ")

/-- What is to be read of a test after its column. -/
def TextTest.rest : TextTest → List Symbol
  | .equals value => word " = " ++ symbols (lower [.literal value])
  | .notEquals value => word " <> " ++ symbols (lower [.literal value])
  | .like pattern =>
    word " LIKE " ++ (symbols (lower [.literal pattern])
      ++ symbols [.fixed " ESCAPE ", .literal (String.singleton Like.escape)])

/-- What is to be read of a comparison after its candidates. -/
def MatchLogic.rest (logic : MatchLogic) (candidates : List Symbol) (targets : DiffTargets) :
    List Symbol :=
  match logic with
  | .any => word " AND NOT " ++ (symbols targets.counterpart ++ word ")")
  | .all =>
    word ")" ++ (word " AND NOT " ++ (Opening.symbols .attributes ++ (candidates
      ++ (word " AND " ++ (symbols targets.counterpart ++ word ")")))))

mutual

/-- What is to be read of a condition. -/
def Condition.text : Condition → List Symbol
  | .const value => Opening.symbols (.constant value)
  | .joined connective first second rest =>
    Opening.symbols .parenthesis ++ (first.text ++ (word (separator connective)
      ++ (second.text ++ Condition.textEach connective rest)))
  | .not inner => Opening.symbols .negation ++ (inner.text ++ word ")")
  | .compare column test => Opening.symbols (.column column) ++ test.rest
  | .member column names =>
    Opening.symbols (.column column) ++ (word " IN (" ++ (symbols (literals names) ++ word ")"))
  | .hasType type => Opening.symbols .type ++ symbols [.literal (Wire.Tag.canonical type)]
  | .changed value => Opening.symbols .changed ++ symbols [flag value]
  | .managed value => Opening.symbols .managed ++ symbols [flag value]
  | .ordinalAbove bound => Opening.symbols .above ++ symbols [ordinal bound]
  | .ordinalBelow bound => Opening.symbols .below ++ symbols [ordinal bound]
  | .someLayer inner => Opening.symbols .layers ++ (inner.text ++ word ")")
  | .someAttribute inner => Opening.symbols .attributes ++ (inner.text ++ word ")")
  | .differs candidates logic targets =>
    Opening.symbols .attributes ++ (candidates.text ++ logic.rest candidates.text targets)

/-- What is to be read of the other parts of a connective. -/
def Condition.textEach (connective : Connective) : List Condition → List Symbol
  | [] => word ")"
  | part :: rest =>
    word (separator connective) ++ (part.text ++ Condition.textEach connective rest)

end

theorem Condition.symbols_separated {connective : Connective} (part : List Fragment)
    {parts : List (List Fragment)} {conditions : List Condition}
    (h : conditions.map Condition.text = parts.map symbols) :
    symbols (separated (separator connective) (part :: parts)) ++ word ")"
      = symbols part ++ textEach connective conditions := by
  induction parts generalizing part conditions with
  | nil =>
      obtain rfl := List.map_eq_nil_iff.1 h
      rw [separated, textEach]
  | cons next parts ih =>
      obtain ⟨condition, conditions, rfl, hnext, hparts⟩ := List.map_eq_cons_iff.1 h
      rw [separated, symbols_append, symbols_fixed, List.append_assoc, List.append_assoc,
        ih next hparts, textEach, hnext]
      exact List.cons_ne_nil _ _

/-- A connective of two parts or more is written as the condition that joins them. -/
theorem Condition.text_gather (connective : Connective) {conditions : List Condition}
    {parts : List (List Fragment)} (two_le : 2 ≤ conditions.length)
    (h : conditions.map Condition.text = parts.map symbols) :
    (gather connective conditions).text = symbols (connected (separator connective) parts) := by
  match conditions, two_le with
  | first :: second :: rest, _ =>
      obtain ⟨part, parts, rfl, hpart, hparts⟩ := List.map_eq_cons_iff.1 h.symm
      rw [connected, symbols_append, symbols_fixed, symbols_fixed, symbols_nil, List.append_nil,
        List.append_assoc, symbols_separated part hparts.symm, hpart, gather, Condition.text,
        textEach, Opening.symbols]

theorem Condition.text_denied (fragments : List Fragment) :
    Opening.symbols .negation ++ (symbols fragments ++ word ")")
      = symbols (.fixed "NOT (" :: fragments ++ [.fixed ")"]) := by
  rw [symbols_append, symbols_fixed, symbols_fixed, symbols_nil, List.append_nil,
    List.append_assoc, Opening.symbols]

theorem Column.text_compare (column : Column) (test : TextTest) :
    (Condition.compare column test).text = symbols (test.sql column.sql) := by
  rw [Condition.text, Opening.symbols]
  cases test with
  | equals value | notEquals value =>
      rw [TextTest.rest, TextTest.sql, symbols_append, symbols_fixed]
  | like pattern =>
      rw [TextTest.rest, TextTest.sql, symbols_append, symbols_append, symbols_fixed,
        symbols_fixed, List.append_assoc, List.append_assoc]

theorem Column.text_member (column : Column) (names : List String) :
    (Condition.member column names).text = symbols (oneOf column.sql names) := by
  rw [Condition.text, Opening.symbols, oneOf, symbols_append, symbols_append, symbols_fixed,
    symbols_fixed, symbols_nil, List.append_nil, List.append_assoc, List.append_assoc]

theorem AttributeTest.text_condition (test : AttributeTest) :
    test.condition.text = symbols test.sql := by
  cases test with
  | name test => exact Column.text_compare .attributeName test
  | value test => exact Column.text_compare .attributeValue test
  | typeIs _ | changed _ => rw [condition, Condition.text, sql, symbols_fixed, Opening.symbols]
  | nameIn names => exact Column.text_member .attributeName names

theorem Condition.text_some {opening : Opening} {rows : String} {condition : List Symbol}
    {fragments : List Fragment}
    (hopening : opening.symbols = word ("EXISTS (SELECT 1 FROM " ++ rows ++ " AND "))
    (h : condition = symbols fragments) :
    opening.symbols ++ (condition ++ word ")") = symbols (existing rows fragments) := by
  rw [hopening, h, existing, symbols_append, symbols_fixed, symbols_fixed, symbols_nil,
    List.append_nil, List.append_assoc]

theorem MatchLogic.text_differs (logic : MatchLogic) (targets : DiffTargets)
    {candidates : List Symbol} {fragments : List Fragment} (h : candidates = symbols fragments) :
    Opening.symbols .attributes ++ (candidates ++ logic.rest candidates targets)
      = symbols (logic.sql fragments targets) := by
  cases logic <;>
    simp only [rest, sql, existing, h, symbols_append, symbols_fixed, symbols_nil,
      List.append_nil, List.append_assoc, Opening.symbols]

/-! ## Predicates in normal form -/

section

variable {α : Type} {formula : Formula α} {condition : Formula α → Condition}
  {conditionEach : List (Formula α) → List Condition} {sql : Formula α → List Fragment}
  {sqlEach : List (Formula α) → List (List Fragment)}

theorem Condition.text_of_parts {parts : List (Formula α)} (connective : Connective)
    (hcondition : Condition.recursion.Defines condition conditionEach)
    (hsql : Sql.recursion.Defines sql sqlEach) (two_le : 2 ≤ parts.length)
    (h : ∀ part ∈ parts, (condition part).text = symbols (sql part)) :
    (gather connective (conditionEach parts)).text
      = symbols (connected (separator connective) (sqlEach parts)) := by
  rw [hcondition.each_eq_map rfl rfl, hsql.each_eq_map rfl rfl]
  refine text_gather connective ?_ ?_
  · rwa [List.length_map]
  · rw [List.map_map, List.map_map]
    exact List.map_congr_left h

/-- A formula in normal form has the text of its condition if its tests have. -/
theorem Condition.text_of_tests (hcondition : Condition.recursion.Defines condition conditionEach)
    (hsql : Sql.recursion.Defines sql sqlEach)
    (h : formula.IsNormal fun test =>
      (condition (.atom test)).text = symbols (sql (.atom test))) :
    (condition formula).text = symbols (sql formula) := by
  induction h with
  | const value =>
      rw [hcondition.const, hsql.const, Condition.recursion, Condition.text, Opening.symbols,
        Sql.recursion]
  | and two_le _ _ ih =>
      rw [hcondition.and, hsql.and]
      exact text_of_parts .all hcondition hsql two_le ih
  | or two_le _ _ ih =>
      rw [hcondition.or, hsql.or]
      exact text_of_parts .any hcondition hsql two_le ih
  | not _ _ ih =>
      rw [hcondition.not, hsql.not, Condition.recursion, Condition.text, ih]
      exact text_denied _
  | atom h => exact h

end

theorem AttributePredicate.text_condition {predicate : AttributePredicate}
    (h : predicate.IsNormal) :
    (AttributePredicate.condition predicate).text = symbols (AttributePredicate.sql predicate) :=
  Condition.text_of_tests recursion_defines_condition recursion_defines_sql
    (h.mp fun test _ _ => test.text_condition)

theorem tests_text_condition :
    (∀ test : ComponentTest, test.IsNormal → test.condition.text = symbols test.sql) ∧
    ∀ test : LayerTest, test.IsNormal → test.condition.text = symbols test.sql := by
  refine tests_induction (fun test ih h => ?_) (fun test ih h => ?_)
  · cases h with
    | field field test =>
        rw [ComponentTest.condition, ComponentTest.sql]
        exact Column.text_compare (.component field) test
    | @anyLayer inner _ normal =>
        rw [ComponentTest.condition, ComponentTest.sql, Condition.text]
        exact Condition.text_some rfl
          (Condition.text_of_tests LayerPredicate.recursion_defines_condition
            LayerPredicate.recursion_defines_sql (normal.mp (ih inner rfl)))
  · cases h with
    | solution field test =>
        rw [LayerTest.condition, LayerTest.sql]
        exact Column.text_compare (.layer field) test
    | solutionIn names =>
        rw [LayerTest.condition, LayerTest.sql]
        exact Column.text_member (.layer .name) names
    | managed _ | ordinalAbove _ | ordinalBelow _ =>
        rw [LayerTest.condition, LayerTest.sql, Condition.text, symbols_fixed, Opening.symbols]
    | anyAttribute _ normal =>
        rw [LayerTest.condition, LayerTest.sql, Condition.text]
        exact Condition.text_some rfl (AttributePredicate.text_condition normal)
    | differs logic targets normal =>
        rw [LayerTest.condition, LayerTest.sql, Condition.text]
        exact logic.text_differs targets (AttributePredicate.text_condition normal)
    | @owner inner _ normal =>
        rw [LayerTest.condition, LayerTest.sql]
        exact Condition.text_of_tests ComponentPredicate.recursion_defines_condition
          ComponentPredicate.recursion_defines_sql (normal.mp (ih inner rfl))

theorem ComponentPredicate.text_condition {predicate : ComponentPredicate}
    (h : predicate.IsNormal) :
    (ComponentPredicate.condition predicate).text = symbols (ComponentPredicate.sql predicate) :=
  Condition.text_of_tests recursion_defines_condition recursion_defines_sql
    (h.mp fun test _ htest => tests_text_condition.1 test htest)

end Strata
