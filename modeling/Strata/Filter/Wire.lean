import Strata.Filter.Kind
import Strata.Wire.Decode

/-!
# Filters on the wire

A filter is written as an object whose member `type` tells its kind, with the fields of that kind.
It may be read from such an object, wherever `type` stands in it and whatever else does, or from a
list of the tag and the fields in their order. A filter of a kind that is not known is read as
`unknown`, whatever it holds.

The fields of a filter wait until its kind is known, so that a text is read whole before anything
but the kind of its outermost filter is looked at.
-/

namespace Strata

open Wire (Layout Decoded Access Fault required)

/-! ## Conditions on layers -/

namespace LayerCondition

/-- What is known of a condition while it is being read. -/
structure Draft where
  field : Option LayerField := none
  operator : Operator := default
  value : Option String := none

/-- The fields of a condition. -/
def layout : Layout Draft LayerCondition where
  title := "struct SolutionCondition"
  fields := ["attribute", "operator", "value"]
  draft := {}
  enter draft field source :=
    match field with
    | "attribute" => do return { draft with field := some (← Wire.Tag.decode source) }
    | "operator" => do return { draft with operator := ← Wire.Tag.decode source }
    | _ => do return { draft with value := some (← Wire.text source) }
  build draft := do
    let field ← required "attribute" draft.field
    let value ← required "value" draft.value
    return { field, operator := draft.operator, value }

/-- A condition that stands at a place of a text. -/
def decode : Access → Source → Decoded LayerCondition := layout.decode

/-- The members of a condition. -/
def members (condition : LayerCondition) : List (String × Json) := [
  ("attribute", Wire.Tag.encode condition.field),
  ("operator", Wire.Tag.encode condition.operator),
  ("value", .str condition.value)]

/-- A condition as a value. -/
def encode (condition : LayerCondition) : Json := .obj condition.members

end LayerCondition

namespace RawCondition

/-- The fields of a condition as it was written. -/
def layout : Layout RawCondition RawCondition where
  title := "struct DynamicSolutionQuery"
  fields := ["attribute", "operator", "value"]
  draft := {}
  enter draft field source :=
    match field with
    | "attribute" => do return { draft with field := ← Wire.text source }
    | "operator" => do return { draft with operator := ← Wire.text source }
    | _ => do return { draft with value := ← Wire.text source }
  build draft := .ok draft

/-- A condition that stands at a place of a text, whatever its tags. -/
def decode : Access → Source → Decoded RawCondition := layout.decode

/-- A condition as a value, as it was written. -/
def encode (raw : RawCondition) : Json := .obj [
  ("attribute", .str raw.field),
  ("operator", .str raw.operator),
  ("value", .str raw.value)]

end RawCondition

/-! ## Steps -/

namespace Step

/-- A step: a string is a literal, a list of strings a choice, and an object a condition. -/
def decode (source : Source) : Decoded Step :=
  if !source.isReadable then .error .malformed
  else match Wire.text source, Wire.list Wire.text source, RawCondition.decode .buffered source with
    | .ok solution, _, _ => .ok (.literal solution)
    | _, .ok solutions, _ => .ok (.choice solutions)
    | _, _, .ok raw => .ok (.dynamic raw)
    | _, _, _ => .error (.noVariant "SequenceItem")

/-- A step as a value. -/
def encode : Step → Json
  | .literal solution => .str solution
  | .choice solutions => .list .str solutions
  | .dynamic raw => raw.encode

end Step

/-! ## Comparisons of attributes -/

namespace AttributeDiff

/-- What is known of a comparison while it is being read. -/
structure Draft where
  source : Option String := none
  mode : TargetMode := default
  targets : List String := []
  onlyChanged : Bool := false
  names : List String := []
  logic : MatchLogic := default

/-- The fields of a comparison. -/
def layout : Layout Draft AttributeDiff where
  title := "struct AttributeDiff"
  fields := ["sourceSolution", "targetMode", "targetSolutions", "onlyChangedAttributes",
    "attributeNames", "attributeMatchLogic"]
  draft := {}
  enter draft field source :=
    match field with
    | "sourceSolution" => do return { draft with source := some (← Wire.text source) }
    | "targetMode" => do return { draft with mode := ← Wire.Tag.decode source }
    | "targetSolutions" => do return { draft with targets := ← Wire.list Wire.text source }
    | "onlyChangedAttributes" => do return { draft with onlyChanged := ← Wire.boolean source }
    | "attributeNames" => do return { draft with names := ← Wire.list Wire.text source }
    | _ => do return { draft with logic := ← Wire.Tag.decode source }
  build draft := do
    let source ← required "sourceSolution" draft.source
    return { source, mode := draft.mode, targets := draft.targets, onlyChanged := draft.onlyChanged,
             names := draft.names, logic := draft.logic }

/-- A comparison that stands at a place of a text. -/
def decode : Access → Source → Decoded AttributeDiff := layout.decode

/-- The members of a comparison. -/
def members (diff : AttributeDiff) : List (String × Json) := [
  ("sourceSolution", .str diff.source),
  ("targetMode", Wire.Tag.encode diff.mode),
  ("targetSolutions", .list .str diff.targets),
  ("onlyChangedAttributes", .bool diff.onlyChanged),
  ("attributeNames", .list .str diff.names),
  ("attributeMatchLogic", Wire.Tag.encode diff.logic)]

/-- A comparison as a value. -/
def encode (diff : AttributeDiff) : Json := .obj diff.members

end AttributeDiff

namespace Filter

/-! ## Writing -/

mutual

/-- A filter as a value. -/
def encode : Filter → Json
  | .component (.field field operator value) => .obj [
      ("type", .str "ATTRIBUTE"),
      ("attribute", Wire.Tag.encode field),
      ("operator", Wire.Tag.encode operator),
      ("value", .str value)]
  | .component (.type value) => .obj [("type", .str "COMPONENT_TYPE"), ("value", .str value)]
  | .layer (.managed value) => .obj [("type", .str "MANAGED"), ("value", .bool value)]
  | .layer (.publisher operator value) => .obj [
      ("type", .str "PUBLISHER"),
      ("operator", Wire.Tag.encode operator),
      ("value", .str value)]
  | .layer (.condition condition) => .obj (("type", .str "SOLUTION_QUERY") :: condition.members)
  | .layer (.holdsAttribute name operator value type) => .obj ([
      ("type", .str "LAYER_ATTRIBUTE"),
      ("attributeName", .str name),
      ("operator", Wire.Tag.encode operator),
      ("value", .str value)]
      ++ type.toList.map fun type => ("attributeType", Wire.Tag.encode type))
  | .layer (.changes solution) => .obj (("type", .str "HAS_RELEVANT_CHANGES")
      :: solution.toList.map fun solution => ("solution", .str solution))
  | .layer (.differs diff) => .obj (("type", .str "HAS_ATTRIBUTE_DIFF") :: diff.members)
  | .layer (.isOf solution) => .obj [("type", .str "HAS"), ("solution", .str solution)]
  | .solutions .any names => .obj [("type", .str "HAS_ANY"), ("solutions", .list .str names)]
  | .solutions .all names => .obj [("type", .str "HAS_ALL"), ("solutions", .list .str names)]
  | .solutions .none names => .obj [("type", .str "HAS_NONE"), ("solutions", .list .str names)]
  | .sequence .strict steps => .obj [
      ("type", .str "ORDER_STRICT"),
      ("sequence", .list Step.encode steps)]
  | .sequence .flexible steps => .obj [
      ("type", .str "ORDER_FLEX"),
      ("sequence", .list Step.encode steps)]
  | .anyLayer none => .obj [("type", .str "LAYER_QUERY"), ("child", .null)]
  | .anyLayer (some child) => .obj [("type", .str "LAYER_QUERY"), ("child", child.encode)]
  | .layerOf solution none => .obj [
      ("type", .str "LAYER_ATTRIBUTE_QUERY"),
      ("solution", .str solution),
      ("child", .null)]
  | .layerOf solution (some child) => .obj [
      ("type", .str "LAYER_ATTRIBUTE_QUERY"),
      ("solution", .str solution),
      ("child", child.encode)]
  | .all children => .obj [("type", .str "AND"), ("children", .arr (encodeEach children))]
  | .any children => .obj [("type", .str "OR"), ("children", .arr (encodeEach children))]
  | .not none => .obj [("type", .str "NOT"), ("child", .null)]
  | .not (some child) => .obj [("type", .str "NOT"), ("child", child.encode)]
  | .unknown => .obj [("type", .str "Unknown")]

/-- Filters as values. -/
def encodeEach : List Filter → List Json
  | [] => []
  | child :: rest => child.encode :: encodeEach rest

end

/-- The compact text of a filter. -/
def wire (filter : Filter) : String := filter.encode.render

/-! ## Reading filters that hold no others -/

/-- The title of a kind of filter in messages. -/
def variantTitle (name : String) : String := "struct variant FilterNode::" ++ name

/-- The layout of a kind with one field, which may be left out if there is a value for its
absence. -/
def oneField (title name : String) (decode : Source → Decoded β) (absent : Option β)
    (make : β → Filter) : Layout (Option β) Filter where
  title := variantTitle title
  fields := [name]
  draft := absent
  enter _ _ source := some <$> decode source
  build draft := make <$> required name draft

/-- What is known of a comparison while it is being read. -/
structure Comparison where
  field : Option ComponentField := none
  name : Option String := none
  operator : Operator := default
  value : Option String := none
  type : Option AttributeType := none

/-- The layout of a kind that compares a text. -/
def comparing (title : String) (fields : List String) (make : Comparison → Except String Filter) :
    Layout Comparison Filter where
  title := variantTitle title
  fields := fields
  draft := {}
  enter draft field source :=
    match field with
    | "attribute" => do return { draft with field := some (← Wire.Tag.decode source) }
    | "attributeName" => do return { draft with name := some (← Wire.text source) }
    | "operator" => do return { draft with operator := ← Wire.Tag.decode source }
    | "value" => do return { draft with value := some (← Wire.text source) }
    | _ => do return { draft with type := ← Wire.optional Wire.Tag.decode source }
  build := make

/-- The layout of a test of a component's field. -/
def fieldLayout : Layout Comparison Filter :=
  comparing "Attribute" ["attribute", "operator", "value"] fun draft => do
    let field ← required "attribute" draft.field
    let value ← required "value" draft.value
    return .component (.field field draft.operator value)

/-- The layout of a test of a layer's publisher. -/
def publisherLayout : Layout Comparison Filter :=
  comparing "Publisher" ["operator", "value"] fun draft => do
    let value ← required "value" draft.value
    return .layer (.publisher draft.operator value)

/-- The layout of a test of a layer's attributes. -/
def attributeLayout : Layout Comparison Filter :=
  comparing "LayerAttribute" ["attributeName", "operator", "value", "attributeType"] fun draft => do
    let name ← required "attributeName" draft.name
    let value ← required "value" draft.value
    return .layer (.holdsAttribute name draft.operator value draft.type)

/-- The layout of a kind that names solutions. -/
def solutionsLayout (title : String) (quantifier : Quantifier) :
    Layout (Option (List String)) Filter :=
  oneField title "solutions" (Wire.list Wire.text) (some []) (.solutions quantifier)

/-- The layout of a kind that lists steps. -/
def stepsLayout (title : String) (mode : SequenceMode) : Layout (Option (List Step)) Filter :=
  oneField title "sequence" (Wire.list Step.decode) (some []) (.sequence mode)

/-- The layout of a kind that is not known: it has no fields. -/
def unknownLayout : Layout Unit Filter where
  title := variantTitle "Unknown"
  fields := []
  draft := ()
  enter _ _ _ := .ok ()
  build _ := .ok .unknown

/-- Reads the fields of a filter that holds no others. -/
def decodeLeaf (kind : Kind) (body : Source) : Decoded Filter :=
  match kind with
  | .field => fieldLayout.decode .buffered body
  | .componentType =>
    (oneField "ComponentType" "value" Wire.text none (.component ∘ .type)).decode .buffered body
  | .managed =>
    (oneField "Managed" "value" Wire.boolean none (.layer ∘ .managed)).decode .buffered body
  | .publisher => publisherLayout.decode .buffered body
  | .condition => (.layer ∘ .condition) <$> LayerCondition.decode .buffered body
  | .holdsAttribute => attributeLayout.decode .buffered body
  | .changes =>
    (oneField "HasRelevantChanges" "solution" (Wire.optional Wire.text) (some none)
      (.layer ∘ .changes)).decode .buffered body
  | .differs => (.layer ∘ .differs) <$> AttributeDiff.decode .buffered body
  | .has => (oneField "Has" "solution" Wire.text none has).decode .buffered body
  | .hasAny => (solutionsLayout "HasAny" .any).decode .buffered body
  | .hasAll => (solutionsLayout "HasAll" .all).decode .buffered body
  | .hasNone => (solutionsLayout "HasNone" .none).decode .buffered body
  | .orderStrict => (stepsLayout "OrderStrict" .strict).decode .buffered body
  | .orderFlexible => (stepsLayout "OrderFlex" .flexible).decode .buffered body
  | _ => unknownLayout.decode .buffered body

/-! ## Reading filters that hold others -/

/-- A field of a filter that holds others. -/
inductive BranchField where
  | solution
  | child
  | children
  deriving DecidableEq, Repr

/-- The name of a field. -/
def BranchField.name : BranchField → String
  | .solution => "solution"
  | .child => "child"
  | .children => "children"

/-- What is known of a filter that holds others while it is being read. -/
structure Branch where
  solution : Option String := none
  child : Option (Option Filter) := none
  children : Option (List Filter) := none

/-- Whether a field is known already. -/
def Branch.knows (draft : Branch) : BranchField → Bool
  | .solution => draft.solution.isSome
  | .child => draft.child.isSome
  | .children => draft.children.isSome

/-- How a filter that holds others is read: its title, its fields, and what they make. -/
structure BranchLayout where
  title : String
  fields : List BranchField
  build : Branch → Except String Filter

/-- The layout of a kind that holds others. -/
def Kind.branch? : Kind → Option BranchLayout
  | .anyLayer => some ⟨variantTitle "LayerQuery", [.child],
      fun draft => .ok (.anyLayer (draft.child.getD none))⟩
  | .layerOf => some ⟨variantTitle "LayerAttributeQuery", [.solution, .child], fun draft => do
      return .layerOf (← required "solution" draft.solution) (draft.child.getD none)⟩
  | .all => some ⟨variantTitle "And", [.children],
      fun draft => .ok (.all (draft.children.getD []))⟩
  | .any => some ⟨variantTitle "Or", [.children],
      fun draft => .ok (.any (draft.children.getD []))⟩
  | .not => some ⟨variantTitle "Not", [.child], fun draft => .ok (.not (draft.child.getD none))⟩
  | _ => none

/-- Enters the value of a field. `child` and `children` read it as a filter and as filters. -/
def Branch.enter (draft : Branch) (field : BranchField) (value : Source)
    (child : Unit → Decoded Filter) (children : Unit → Decoded (List Filter)) : Decoded Branch :=
  match field with
  | .solution => do return { draft with solution := some (← Wire.text value) }
  | .child =>
    match value with
    | .null => .ok { draft with child := some none }
    | _ => do return { draft with child := some (some (← child ())) }
  | .children => do return { draft with children := some (← children ()) }

/-- The filter of a draft that was made from an object. -/
def BranchLayout.buildNamed (layout : BranchLayout) (draft : Branch) : Decoded Filter :=
  match layout.build draft with
  | .ok filter => .ok filter
  | .error name => .error (.missingField name)

/-- The filter of a draft that was made from a list. -/
def BranchLayout.buildPlaced (layout : BranchLayout) (draft : Branch) : Decoded Filter :=
  match layout.build draft with
  | .ok filter => .ok filter
  | .error name =>
    .error (.invalidLength ((layout.fields.map BranchField.name).idxOf name)
      (.elements layout.title layout.fields.length))

/-- The kind of a filter. Inside of a filter it may be told by its number. -/
def decodeKind (access : Access) : Source → Decoded Kind
  | .num n =>
    match access, n.integer? with
    | .buffered, some (.ofNat place) => .ok (.ofPlace place)
    | _, _ => Wire.mismatch (.num n) .variantName
  | source => Wire.kindName (.ok ∘ .ofTag) source

mutual

/-- A filter that stands at a place of a text. -/
def decode (access : Access) : Source → Decoded Filter
  | .obj members stop => do
    let (kind, body) ←
      Wire.tagged "FilterNode" "type" access (decodeKind access) (.obj members stop)
    match kind.branch? with
    | none => decodeLeaf kind body
    | some layout => do layout.buildNamed (← decodeMembers layout.fields {} members)
  | .arr (head :: items) stop => do
    let (kind, body) ←
      Wire.tagged "FilterNode" "type" access (decodeKind access) (.arr (head :: items) stop)
    match kind.branch? with
    | none => decodeLeaf kind body
    | some layout => do
      let draft ← decodeElements layout.fields {} items
      if layout.fields.length < items.length then
        .error (.invalidLength items.length (.exactly layout.fields.length))
      else layout.buildPlaced draft
  | source => do
    let (_, _) ← Wire.tagged "FilterNode" "type" access (decodeKind access) source
    .error .malformed

/-- Enters the members of an object. Members that are no fields are passed over. -/
def decodeMembers (fields : List BranchField) (draft : Branch) :
    List (String × Source) → Decoded Branch
  | [] => .ok draft
  | (name, value) :: rest =>
    match fields.find? fun field => field.name = name with
    | none => decodeMembers fields draft rest
    | some field =>
      if draft.knows field then .error (.duplicateField name)
      else do
        let draft ← draft.enter field value (fun _ => decode .buffered value) fun _ =>
          match value with
          | .arr items _ => decodeEach items
          | _ => Wire.mismatch value .list
        decodeMembers fields draft rest

/-- Enters elements into the fields they stand for. -/
def decodeElements (fields : List BranchField) (draft : Branch) : List Source → Decoded Branch
  | [] => .ok draft
  | value :: rest =>
    match fields with
    | [] => .ok draft
    | field :: fields => do
      let draft ← draft.enter field value (fun _ => decode .buffered value) fun _ =>
        match value with
        | .arr items _ => decodeEach items
        | _ => Wire.mismatch value .list
      decodeElements fields draft rest

/-- Filters one after the other. -/
def decodeEach : List Source → Decoded (List Filter)
  | [] => .ok []
  | item :: rest => do
    let filter ← decode .buffered item
    let more ← decodeEach rest
    return filter :: more

end

/-- The filter that a text stands for. -/
def ofText (text : String) : Decoded Filter := Wire.decodeText (decode .streamed) text

end Filter

end Strata
