import Strata.Component.Basic

/-!
# Fields that filters address

The texts of a component and of a layer that a comparison may be made with. One that is absent
counts as empty.
-/

namespace Strata

/-- A text of a component. -/
inductive ComponentField where
  | logicalName
  | displayName
  | componentType
  | tableName
  deriving DecidableEq, Repr

instance : Wire.Tag ComponentField where
  title := "AttributeTarget"
  all := [.logicalName, .displayName, .componentType, .tableName]
  canonical
    | .logicalName => "LogicalName"
    | .displayName => "DisplayName"
    | .componentType => "ComponentType"
    | .tableName => "TableLogicalName"
  aliases
    | .logicalName => ["name", "schemaname"]
    | .displayName => []
    | .componentType => ["type"]
    | .tableName => ["table", "tablename", "entitylogicalname"]

/-- The text of a field. -/
def ComponentField.get (field : ComponentField) (component : Component) : String :=
  match field with
  | .logicalName => component.logicalName
  | .displayName => component.displayName.getD ""
  | .componentType => component.componentType
  | .tableName => component.tableName.getD ""

/-- A text of a layer. -/
inductive LayerField where
  | name
  | publisher
  | version
  deriving DecidableEq, Repr

instance : Wire.Tag LayerField where
  title := "SolutionField"
  all := [.name, .publisher, .version]
  canonical
    | .name => "Name"
    | .publisher => "Publisher"
    | .version => "Version"
  aliases
    | .name => ["uniquename", "solution", "solutionname"]
    | .publisher => ["publishername"]
    | .version => []

/-- The text of a field. -/
def LayerField.get (field : LayerField) (layer : Layer) : String :=
  match field with
  | .name => layer.solution
  | .publisher => layer.publisher.getD ""
  | .version => layer.version.getD ""

end Strata
