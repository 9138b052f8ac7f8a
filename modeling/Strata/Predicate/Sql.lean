import Strata.Predicate.Basic

/-!
# Predicates as SQL

The text of a predicate as a condition in SQL. It is put together from fragments, either fixed text
or literals, so that what comes from a user stands in literals only. A literal is enclosed in single
quotes, and a quote in it is doubled.
-/

namespace Strata

namespace Sql

/-- A piece of SQL. -/
inductive Fragment where
  | fixed (text : String)
  | literal (value : String)
  deriving DecidableEq, Repr

/-- The characters of a literal between its quotes. -/
def doubleQuotes : List Char → List Char
  | [] => []
  | c :: rest => if c = '\x27' then c :: c :: doubleQuotes rest else c :: doubleQuotes rest

/-- The characters of a fragment. -/
def Fragment.chars : Fragment → List Char
  | .fixed text => text.toList
  | .literal value => '\x27' :: doubleQuotes value.toList ++ ['\x27']

/-- The text of fragments. -/
def render (fragments : List Fragment) : String :=
  String.ofList (fragments.flatMap Fragment.chars)

/-- Lists of fragments with fixed text between them. -/
def separated (separator : String) : List (List Fragment) → List Fragment
  | [] => []
  | [part] => part
  | part :: rest => part ++ .fixed separator :: separated separator rest

/-- Parts of a connective in parentheses. -/
def connected (connective : String) (parts : List (List Fragment)) : List Fragment :=
  .fixed "(" :: separated connective parts ++ [.fixed ")"]

/-- Literals with commas between them. -/
def literals (values : List String) : List Fragment :=
  separated ", " (values.map fun value => [.literal value])

/-- The lowercase of what fragments stand for. -/
def lower (fragments : List Fragment) : List Fragment :=
  .fixed "LOWER(" :: fragments ++ [.fixed ")"]

/-- A constant. -/
def constant (value : Bool) : List Fragment := [.fixed (if value then "TRUE" else "FALSE")]

/-- A flag. -/
def flag (value : Bool) : Fragment := .fixed (if value then "true" else "false")

/-- An ordinal. -/
def ordinal (value : Ordinal) : Fragment := .fixed (String.ofList (spellInt value.toInt))

/-- A column that may be null and counts as empty then. -/
def coalesced (column : String) : List Fragment :=
  [.fixed ("COALESCE(" ++ column ++ ", "), .literal "", .fixed ")"]

/-- That some row of a table satisfies a condition. -/
def existing (rows : String) (condition : List Fragment) : List Fragment :=
  .fixed ("EXISTS (SELECT 1 FROM " ++ rows ++ " AND ") :: condition ++ [.fixed ")"]

/-- That a column is one of some values. -/
def oneOf (column : List Fragment) (values : List String) : List Fragment :=
  lower column ++ .fixed " IN (" :: literals values ++ [.fixed ")"]

end Sql

open Sql

/-- A test of a column. -/
def TextTest.sql (column : List Fragment) : TextTest → List Fragment
  | .equals value => lower column ++ .fixed " = " :: lower [.literal value]
  | .notEquals value => lower column ++ .fixed " <> " :: lower [.literal value]
  | .like pattern =>
    lower column ++ .fixed " LIKE " :: lower [.literal pattern]
      ++ [.fixed " ESCAPE ", .literal (String.singleton Like.escape)]

/-- The column of a component's field. -/
def ComponentField.column : ComponentField → List Fragment
  | .logicalName => [.fixed "c.logical_name"]
  | .displayName => coalesced "c.display_name"
  | .componentType => [.fixed "c.component_type"]
  | .tableName => coalesced "c.table_logical_name"

/-- The column of a layer's field. -/
def LayerField.column : LayerField → List Fragment
  | .name => [.fixed "l.solution_name"]
  | .publisher => coalesced "l.publisher"
  | .version => coalesced "l.version"

/-! ## Attributes -/

/-- The attributes of a layer. -/
def attributeRows : String := "layer_attributes a WHERE a.layer_id = l.id"

/-- A test of an attribute. -/
def AttributeTest.sql : AttributeTest → List Fragment
  | .name test => test.sql [.fixed "a.name"]
  | .value test => test.sql [.fixed "a.value"]
  | .typeIs type => [.fixed "a.attribute_type = ", .literal (Wire.Tag.canonical type)]
  | .changed expected => [.fixed "a.changed = ", flag expected]
  | .nameIn names => oneOf [.fixed "a.name"] names

mutual

/-- A predicate about an attribute. -/
def AttributePredicate.sql : Formula AttributeTest → List Fragment
  | .const b => constant b
  | .and parts => connected " AND " (AttributePredicate.sqlEach parts)
  | .or parts => connected " OR " (AttributePredicate.sqlEach parts)
  | .not inner => .fixed "NOT (" :: AttributePredicate.sql inner ++ [.fixed ")"]
  | .atom test => test.sql

/-- Predicates about an attribute. -/
def AttributePredicate.sqlEach : List (Formula AttributeTest) → List (List Fragment)
  | [] => []
  | part :: rest => AttributePredicate.sql part :: AttributePredicate.sqlEach rest

end

/-- The condition that selects the layers that attributes are compared with. -/
def DiffTargets.sql : DiffTargets → List Fragment
  | .lowerOrdinal => [.fixed "t.ordinal < l.ordinal"]
  | .solutions names =>
    .fixed "t.ordinal <> l.ordinal AND " :: oneOf [.fixed "t.solution_name"] names

/-- That an attribute has a counterpart among those of the targets. -/
def DiffTargets.counterpart (targets : DiffTargets) : List Fragment :=
  .fixed ("EXISTS (SELECT 1 FROM layers t JOIN layer_attributes b ON b.layer_id = t.id "
      ++ "WHERE t.component_id = l.component_id AND ")
    :: targets.sql
    ++ [.fixed " AND LOWER(b.name) = LOWER(a.name) AND b.content_hash = a.content_hash)"]

/-- That candidates lack counterparts. For all of them to, one has to be there and none may have
one. -/
def MatchLogic.sql (logic : MatchLogic) (candidates : List Fragment) (targets : DiffTargets) :
    List Fragment :=
  match logic with
  | .any => existing attributeRows (candidates ++ .fixed " AND NOT " :: targets.counterpart)
  | .all =>
    existing attributeRows candidates
      ++ .fixed " AND NOT " :: existing attributeRows (candidates ++ .fixed " AND "
        :: targets.counterpart)

/-! ## Components and layers -/

mutual

/-- A test of a component. -/
def ComponentTest.sql : ComponentTest → List Fragment
  | .field column test => test.sql column.column
  | .anyLayer inner => existing "layers l WHERE l.component_id = c.id" (LayerPredicate.sql inner)

/-- A predicate about a component. -/
def ComponentPredicate.sql : Formula ComponentTest → List Fragment
  | .const b => constant b
  | .and parts => connected " AND " (ComponentPredicate.sqlEach parts)
  | .or parts => connected " OR " (ComponentPredicate.sqlEach parts)
  | .not inner => .fixed "NOT (" :: ComponentPredicate.sql inner ++ [.fixed ")"]
  | .atom test => test.sql

/-- Predicates about a component. -/
def ComponentPredicate.sqlEach : List (Formula ComponentTest) → List (List Fragment)
  | [] => []
  | part :: rest => ComponentPredicate.sql part :: ComponentPredicate.sqlEach rest

/-- A test of a layer. -/
def LayerTest.sql : LayerTest → List Fragment
  | .solution column test => test.sql column.column
  | .solutionIn names => oneOf [.fixed "l.solution_name"] names
  | .managed expected => [.fixed "l.managed = ", flag expected]
  | .ordinalAbove bound => [.fixed "l.ordinal > ", ordinal bound]
  | .ordinalBelow bound => [.fixed "l.ordinal < ", ordinal bound]
  | .anyAttribute inner => existing attributeRows (AttributePredicate.sql inner)
  | .differs candidates logic targets => logic.sql (AttributePredicate.sql candidates) targets
  | .owner inner => ComponentPredicate.sql inner

/-- A predicate about a layer. -/
def LayerPredicate.sql : Formula LayerTest → List Fragment
  | .const b => constant b
  | .and parts => connected " AND " (LayerPredicate.sqlEach parts)
  | .or parts => connected " OR " (LayerPredicate.sqlEach parts)
  | .not inner => .fixed "NOT (" :: LayerPredicate.sql inner ++ [.fixed ")"]
  | .atom test => test.sql

/-- Predicates about a layer. -/
def LayerPredicate.sqlEach : List (Formula LayerTest) → List (List Fragment)
  | [] => []
  | part :: rest => LayerPredicate.sql part :: LayerPredicate.sqlEach rest

end

end Strata
