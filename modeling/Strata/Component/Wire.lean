import Strata.Component.Basic
import Strata.Time.Rfc3339

/-!
# Components on the wire

How components, layers and attributes are written and read. Absent texts are written as null;
everything that has a default may be left out.
-/

namespace Strata

open Wire (Layout Decoded Access required)

/-! ## Points in time -/

/-- A point in time that stands at a place of a text. -/
def Instant.decode : Source → Decoded Instant
  | .str s =>
    match Time.parse s with
    | .ok instant => .ok instant
    | .error fault => .error (.timestamp fault)
  | source => Wire.mismatch source .timestamp

/-- A point in time as a value. -/
def Instant.encode (instant : Instant) : Json := .str (Time.format instant)

/-- An ordinal as a value. -/
def Ordinal.encode (ordinal : Ordinal) : Json := .int ordinal.toInt

/-! ## Attributes -/

namespace LayerAttribute

/-- What is known of an attribute while it is being read. -/
structure Draft where
  name : Option String := none
  value : Option String := none
  type : Option AttributeType := none
  changed : Bool := false
  hash : Option String := none

/-- The fields of an attribute. -/
def layout : Layout Draft LayerAttribute where
  title := "struct LayerAttribute"
  fields := ["name", "value", "attributeType", "changed", "contentHash"]
  draft := {}
  enter draft field source :=
    match field with
    | "name" => do return { draft with name := some (← Wire.text source) }
    | "value" => do return { draft with value := some (← Wire.text source) }
    | "attributeType" => do return { draft with type := some (← Wire.Tag.decode source) }
    | "changed" => do return { draft with changed := ← Wire.boolean source }
    | _ => do return { draft with hash := some (← Wire.text source) }
  build draft := do
    let name ← required "name" draft.name
    let value ← required "value" draft.value
    let type ← required "attributeType" draft.type
    let hash ← required "contentHash" draft.hash
    return { name, value, type, changed := draft.changed, hash }

/-- An attribute that stands at a place of a text. -/
def decode : Source → Decoded LayerAttribute := layout.decode .streamed

/-- An attribute as a value. -/
def encode (a : LayerAttribute) : Json := .obj [
  ("name", .str a.name),
  ("value", .str a.value),
  ("attributeType", Wire.Tag.encode a.type),
  ("changed", .bool a.changed),
  ("contentHash", .str a.hash)]

end LayerAttribute

/-! ## Layers -/

namespace Layer

/-- What is known of a layer while it is being read. -/
structure Draft where
  solution : Option String := none
  ordinal : Option Ordinal := none
  managed : Bool := false
  publisher : Option String := none
  version : Option String := none
  createdOn : Option Instant := none
  attributes : List LayerAttribute := []

/-- The fields of a layer. -/
def layout : Layout Draft Layer where
  title := "struct Layer"
  fields := ["solutionName", "ordinal", "managed", "publisher", "version", "createdOn",
    "attributes"]
  draft := {}
  enter draft field source :=
    match field with
    | "solutionName" => do return { draft with solution := some (← Wire.text source) }
    | "ordinal" => do return { draft with ordinal := some (← Wire.integer64 source) }
    | "managed" => do return { draft with managed := ← Wire.boolean source }
    | "publisher" => do return { draft with publisher := ← Wire.optional Wire.text source }
    | "version" => do return { draft with version := ← Wire.optional Wire.text source }
    | "createdOn" => do return { draft with createdOn := ← Wire.optional Instant.decode source }
    | _ => do return { draft with attributes := ← Wire.list LayerAttribute.decode source }
  build draft := do
    let solution ← required "solutionName" draft.solution
    let ordinal ← required "ordinal" draft.ordinal
    return { solution, ordinal, managed := draft.managed, publisher := draft.publisher,
             version := draft.version, createdOn := draft.createdOn,
             attributes := draft.attributes }

/-- A layer that stands at a place of a text. -/
def decode : Source → Decoded Layer := layout.decode .streamed

/-- A layer as a value. -/
def encode (layer : Layer) : Json := .obj [
  ("solutionName", .str layer.solution),
  ("ordinal", Ordinal.encode layer.ordinal),
  ("managed", .bool layer.managed),
  ("publisher", .option .str layer.publisher),
  ("version", .option .str layer.version),
  ("createdOn", .option Instant.encode layer.createdOn),
  ("attributes", .list LayerAttribute.encode layer.attributes)]

end Layer

/-! ## Components -/

namespace Component

/-- What is known of a component while it is being read. -/
structure Draft where
  logicalName : Option String := none
  displayName : Option String := none
  componentType : Option String := none
  tableName : Option String := none
  layers : List Layer := []

/-- The fields of a component. -/
def layout : Layout Draft Component where
  title := "struct Component"
  fields := ["logicalName", "displayName", "componentType", "tableLogicalName", "layers"]
  draft := {}
  enter draft field source :=
    match field with
    | "logicalName" => do return { draft with logicalName := some (← Wire.text source) }
    | "displayName" => do return { draft with displayName := ← Wire.optional Wire.text source }
    | "componentType" => do return { draft with componentType := some (← Wire.text source) }
    | "tableLogicalName" => do return { draft with tableName := ← Wire.optional Wire.text source }
    | _ => do return { draft with layers := ← Wire.list Layer.decode source }
  build draft := do
    let logicalName ← required "logicalName" draft.logicalName
    let componentType ← required "componentType" draft.componentType
    return { logicalName, displayName := draft.displayName, componentType,
             tableName := draft.tableName, layers := draft.layers }

/-- A component that stands at a place of a text, its layers as they come. -/
def decode : Source → Decoded Component := layout.decode .streamed

/-- A component as a value. -/
def encode (component : Component) : Json := .obj [
  ("logicalName", .str component.logicalName),
  ("displayName", .option .str component.displayName),
  ("componentType", .str component.componentType),
  ("tableLogicalName", .option .str component.tableName),
  ("layers", .list Layer.encode component.layers)]

end Component

end Strata
