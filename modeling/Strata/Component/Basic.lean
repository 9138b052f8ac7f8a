import Strata.Digest.Sha256
import Strata.Order.StableSort
import Strata.Text.Lowercase
import Strata.Time.Instant
import Strata.Wire.Tag

/-!
# Components

A component carries a stack of layers, one contribution of a solution each, and a layer carries
attributes. Layers are ordered by their ordinals; layers of one ordinal stay in the order in which
they came.

A component that was read from elsewhere has its layers as they came. `Component.normalize` orders
them, `Component.addLayer` keeps them in order.
-/

namespace Strata

/-- The type of an attribute's value. -/
inductive AttributeType where
  | string
  | number
  | boolean
  | dateTime
  | json
  | xml
  | entityReference
  | optionSet
  | money
  | lookup
  deriving DecidableEq, Repr

instance : Wire.Tag AttributeType where
  title := "AttributeType"
  all := [.string, .number, .boolean, .dateTime, .json, .xml, .entityReference, .optionSet, .money,
    .lookup]
  canonical
    | .string => "String"
    | .number => "Number"
    | .boolean => "Boolean"
    | .dateTime => "DateTime"
    | .json => "Json"
    | .xml => "Xml"
    | .entityReference => "EntityReference"
    | .optionSet => "OptionSet"
    | .money => "Money"
    | .lookup => "Lookup"
  aliases
    | .string => ["text"]
    | .number => ["integer", "decimal"]
    | .boolean => ["bool"]
    | .dateTime => ["date"]
    | .optionSet => ["picklist"]
    | _ => []

/-- The place of a layer in its component. -/
abbrev Ordinal := Int64

/-- A named value of a layer. Values are never compared with each other but by their hashes. -/
structure LayerAttribute where
  name : String
  value : String
  type : AttributeType
  changed : Bool := false
  hash : String
  deriving DecidableEq, Repr

/-- The hash of a value of a type: the SHA-256 digest of the type's tag, a zero byte and the
value. -/
def contentHash (type : AttributeType) (value : String) : String :=
  Sha256.hex ((Wire.Tag.canonical type).toUTF8.toList ++ 0 :: value.toUTF8.toList)

namespace LayerAttribute

/-- An attribute that is hashed here. -/
def make (name value : String) (type : AttributeType) : LayerAttribute :=
  { name, value, type, hash := contentHash type value }

end LayerAttribute

/-- What one solution contributes to a component. -/
structure Layer where
  solution : String
  ordinal : Ordinal
  managed : Bool := false
  publisher : Option String := none
  version : Option String := none
  createdOn : Option Instant := none
  attributes : List LayerAttribute := []
  deriving DecidableEq, Repr

/-- A thing that is filtered. -/
structure Component where
  logicalName : String
  displayName : Option String := none
  componentType : String
  tableName : Option String := none
  layers : List Layer := []
  deriving DecidableEq, Repr

namespace Layer

/-- Whether a layer may stand before another. -/
def le (a b : Layer) : Bool := a.ordinal ≤ b.ordinal

/-- Whether a layer is the contribution of a solution. -/
def isOf (layer : Layer) (solution : String) : Bool := Text.same layer.solution solution

/-- Layers in the order of their ordinals. -/
def sort (layers : List Layer) : List Layer := stableSort le layers

end Layer

namespace Component

/-- Adds a layer to layers that are in order. -/
def addLayer (component : Component) (layer : Layer) : Component :=
  { component with layers := insertByHalving Layer.le layer component.layers }

/-- Puts the layers in order. -/
def normalize (component : Component) : Component :=
  { component with layers := Layer.sort component.layers }

end Component

end Strata
