import Strata.Filter.Basic

/-!
# Kinds of filters

The kinds that are told apart on the wire, and the tag of each. Kinds of one place are those that a
text read whole may name by number.
-/

namespace Strata

/-- A kind of filter. -/
inductive Filter.Kind where
  | field
  | componentType
  | managed
  | publisher
  | anyLayer
  | condition
  | holdsAttribute
  | layerOf
  | changes
  | differs
  | all
  | any
  | not
  | has
  | hasAny
  | hasAll
  | hasNone
  | orderStrict
  | orderFlexible
  | unknown
  deriving DecidableEq, Repr

namespace Filter.Kind

/-- The kinds that are known, in the order of their numbers. -/
def known : List Kind := [.field, .componentType, .managed, .publisher, .anyLayer, .condition,
  .holdsAttribute, .layerOf, .changes, .differs, .all, .any, .not, .has, .hasAny, .hasAll, .hasNone,
  .orderStrict, .orderFlexible]

/-- The tag of a kind. -/
def tag : Kind → String
  | .field => "ATTRIBUTE"
  | .componentType => "COMPONENT_TYPE"
  | .managed => "MANAGED"
  | .publisher => "PUBLISHER"
  | .anyLayer => "LAYER_QUERY"
  | .condition => "SOLUTION_QUERY"
  | .holdsAttribute => "LAYER_ATTRIBUTE"
  | .layerOf => "LAYER_ATTRIBUTE_QUERY"
  | .changes => "HAS_RELEVANT_CHANGES"
  | .differs => "HAS_ATTRIBUTE_DIFF"
  | .all => "AND"
  | .any => "OR"
  | .not => "NOT"
  | .has => "HAS"
  | .hasAny => "HAS_ANY"
  | .hasAll => "HAS_ALL"
  | .hasNone => "HAS_NONE"
  | .orderStrict => "ORDER_STRICT"
  | .orderFlexible => "ORDER_FLEX"
  | .unknown => "UNKNOWN"

/-- The kind with a tag. Every other text is the tag of an unknown kind. -/
def ofTag (text : String) : Kind := (known.find? fun kind => kind.tag = text).getD .unknown

/-- The kind with a number. Every other number is that of an unknown kind. -/
def ofPlace (place : Nat) : Kind := known.getD place .unknown

end Filter.Kind

/-- The kind of a filter. -/
def Filter.kind : Filter → Filter.Kind
  | .component (.field ..) => .field
  | .component (.type _) => .componentType
  | .layer (.managed _) => .managed
  | .layer (.publisher ..) => .publisher
  | .layer (.condition _) => .condition
  | .layer (.holdsAttribute ..) => .holdsAttribute
  | .layer (.changes _) => .changes
  | .layer (.differs _) => .differs
  | .layer (.isOf _) => .has
  | .solutions .any _ => .hasAny
  | .solutions .all _ => .hasAll
  | .solutions .none _ => .hasNone
  | .sequence .strict _ => .orderStrict
  | .sequence .flexible _ => .orderFlexible
  | .anyLayer _ => .anyLayer
  | .layerOf .. => .layerOf
  | .all _ => .all
  | .any _ => .any
  | .not _ => .not
  | .unknown => .unknown

end Strata
