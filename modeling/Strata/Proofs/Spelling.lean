import Strata.Filter.Semantics
import Strata.Lookup
import Strata.Proofs.Lowercasing
import Strata.Proofs.Ordering

/-!
# Case makes no difference to a test

No comparison regards case. What that comes to for the whole is said with filters and components in
lowercase: two differ in case only exactly if they have one lowercase, and nothing needs to be said
of their many texts one by one.

This module has the parts. A test in lowercase is passed by a component or a layer in lowercase
exactly if it is passed by the two as they are written. Each of these facts comes down to one about
texts, that a text and its lowercase have the same lowercase. Layers are sorted by their ordinals,
which have no case, so what holds of a step holds of a walk.
-/

namespace Strata

/-! ## In lowercase

All texts that are a user's, and nothing else. Tags keep their spelling: a tag that is read without
regard to case is read so where filters are read. -/

/-- An attribute in lowercase. Its hash is that of the value as it was. -/
def LayerAttribute.lowercased (a : LayerAttribute) : LayerAttribute :=
  { a with name := Text.lowercase a.name, value := Text.lowercase a.value }

def Layer.lowercased (layer : Layer) : Layer :=
  { layer with
    solution := Text.lowercase layer.solution
    publisher := layer.publisher.map Text.lowercase
    version := layer.version.map Text.lowercase
    attributes := layer.attributes.map LayerAttribute.lowercased }

def Component.lowercased (component : Component) : Component where
  logicalName := Text.lowercase component.logicalName
  displayName := component.displayName.map Text.lowercase
  componentType := Text.lowercase component.componentType
  tableName := component.tableName.map Text.lowercase
  layers := component.layers.map Layer.lowercased

def RawCondition.lowercased (raw : RawCondition) : RawCondition :=
  { raw with value := Text.lowercase raw.value }

def Step.lowercased : Step → Step
  | .literal solution => .literal (Text.lowercase solution)
  | .choice solutions => .choice (solutions.map Text.lowercase)
  | .dynamic raw => .dynamic raw.lowercased

def AttributeDiff.lowercased (diff : AttributeDiff) : AttributeDiff :=
  { diff with
    source := Text.lowercase diff.source
    targets := diff.targets.map Text.lowercase
    names := diff.names.map Text.lowercase }

def ComponentCriterion.lowercased : ComponentCriterion → ComponentCriterion
  | .field tested operator value => .field tested operator (Text.lowercase value)
  | .type value => .type (Text.lowercase value)

def LayerCriterion.lowercased : LayerCriterion → LayerCriterion
  | .managed value => .managed value
  | .publisher operator value => .publisher operator (Text.lowercase value)
  | .condition tested => .condition tested.key
  | .holdsAttribute name operator value type =>
    .holdsAttribute (Text.lowercase name) operator (Text.lowercase value) type
  | .changes solution => .changes (solution.map Text.lowercase)
  | .differs diff => .differs diff.lowercased
  | .isOf solution => .isOf (Text.lowercase solution)

namespace Filter

mutual

/-- A filter in lowercase. -/
def lowercased : Filter → Filter
  | .component test => .component test.lowercased
  | .layer test => .layer test.lowercased
  | .solutions quantifier names => .solutions quantifier (names.map Text.lowercase)
  | .sequence mode steps => .sequence mode (steps.map Step.lowercased)
  | .anyLayer none => .anyLayer none
  | .anyLayer (some child) => .anyLayer (some child.lowercased)
  | .layerOf solution none => .layerOf (Text.lowercase solution) none
  | .layerOf solution (some child) =>
    .layerOf (Text.lowercase solution) (some child.lowercased)
  | .all children => .all (lowercasedEach children)
  | .any children => .any (lowercasedEach children)
  | .not none => .not none
  | .not (some child) => .not (some child.lowercased)
  | .unknown => .unknown

def lowercasedEach : List Filter → List Filter
  | [] => []
  | child :: rest => child.lowercased :: lowercasedEach rest

end

theorem lowercasedEach_eq_map (filters : List Filter) :
    lowercasedEach filters = filters.map lowercased := by
  induction filters with
  | nil => rfl
  | cons filter filters ih => rw [lowercasedEach, List.map_cons, ih]

end Filter

def Lookup.lowercased : Lookup → Lookup
  | .ordinalRanges solutions => .ordinalRanges (solutions.map Text.lowercase)
  | .resolve condition => .resolve condition.key

/-! ## Texts -/

theorem Operator.apply_lowercase (operator : Operator) (input operand : String) :
    operator.apply (Text.lowercase input) (Text.lowercase operand)
      = operator.apply input operand := by
  simp only [apply, Text.folded_lowercase]

theorem Text.getD_map_lowercase (text : Option String) :
    (text.map lowercase).getD "" = lowercase (text.getD "") := by
  cases text with
  | none => decide
  | some text => rfl

theorem ComponentField.get_lowercased (field : ComponentField) (component : Component) :
    field.get component.lowercased = Text.lowercase (field.get component) := by
  cases field with
  | logicalName | componentType => rfl
  | displayName | tableName => exact Text.getD_map_lowercase _

theorem LayerField.get_lowercased (field : LayerField) (layer : Layer) :
    field.get layer.lowercased = Text.lowercase (field.get layer) := by
  cases field with
  | name => rfl
  | publisher | version => exact Text.getD_map_lowercase _

theorem Layer.isOf_lowercased (layer : Layer) (solution : String) :
    layer.lowercased.isOf (Text.lowercase solution) = layer.isOf solution :=
  Text.same_lowercase layer.solution solution

theorem Layer.any_isOf_lowercased (layer : Layer) (solutions : List String) :
    (solutions.map Text.lowercase).any layer.lowercased.isOf = solutions.any layer.isOf := by
  rw [List.any_map]
  exact List.any_congr rfl fun solution => layer.isOf_lowercased solution

theorem ExcludedAttributes.contains_lowercase (excluded : ExcludedAttributes) (name : String) :
    excluded.contains (Text.lowercase name) = excluded.contains name := by
  rw [contains, contains, Text.lowercase_lowercase]

/-! ## Attributes -/

namespace LayerAttribute

theorem isRelevantChange_lowercased (excluded : ExcludedAttributes) (a : LayerAttribute) :
    a.lowercased.isRelevantChange excluded = a.isRelevantChange excluded := by
  rw [isRelevantChange, isRelevantChange, lowercased, excluded.contains_lowercase]

theorem isCounterpart_lowercased (a b : LayerAttribute) :
    a.lowercased.isCounterpart b.lowercased = a.isCounterpart b := by
  rw [isCounterpart, isCounterpart, lowercased, lowercased, Text.same_lowercase]

end LayerAttribute

namespace AttributeDiff

variable (diff : AttributeDiff) (excluded : ExcludedAttributes)

theorem isTarget_lowercased (source layer : Layer) :
    diff.lowercased.isTarget source.lowercased layer.lowercased = diff.isTarget source layer := by
  rw [isTarget, isTarget, lowercased, layer.any_isOf_lowercased]
  rfl

theorem isCandidate_lowercased (a : LayerAttribute) :
    diff.lowercased.isCandidate excluded a.lowercased = diff.isCandidate excluded a := by
  have hnames : (diff.names.map Text.lowercase).any (Text.same a.lowercased.name)
      = diff.names.any (Text.same a.name) := by
    rw [List.any_map]
    exact List.any_congr rfl fun name => Text.same_lowercase a.name name
  rw [isCandidate, isCandidate, a.isRelevantChange_lowercased, lowercased, List.isEmpty_map,
    hnames]

theorem holds_lowercased (component : Component) (layer : Layer) :
    diff.lowercased.holds excluded component.lowercased layer.lowercased
      = diff.holds excluded component layer := by
  have htargets : component.lowercased.layers.filter (diff.lowercased.isTarget layer.lowercased)
      = (component.layers.filter (diff.isTarget layer)).map Layer.lowercased := by
    rw [Component.lowercased, List.filter_map]
    exact congrArg (List.map _)
      (List.filter_congr fun other _ => diff.isTarget_lowercased layer other)
  have hcandidates : layer.lowercased.attributes.filter (diff.lowercased.isCandidate excluded)
      = (layer.attributes.filter (diff.isCandidate excluded)).map LayerAttribute.lowercased := by
    rw [Layer.lowercased, List.filter_map]
    exact congrArg (List.map _)
      (List.filter_congr fun a _ => diff.isCandidate_lowercased excluded a)
  have hlacks : ∀ (a : LayerAttribute) (target : Layer),
      (target.lowercased.attributes.all fun b => !a.lowercased.isCounterpart b)
        = target.attributes.all fun b => !a.isCounterpart b := by
    intro a target
    rw [Layer.lowercased, List.all_map]
    exact List.all_congr rfl fun b => by rw [Function.comp_apply, a.isCounterpart_lowercased]
  simp only [holds, htargets, hcandidates, List.any_map, List.all_map, List.isEmpty_map,
    Function.comp_def, hlacks]
  rw [lowercased, layer.isOf_lowercased]

end AttributeDiff

/-! ## Tests -/

theorem ComponentCriterion.holds_lowercased (test : ComponentCriterion) (component : Component) :
    test.lowercased.holds component.lowercased = test.holds component := by
  cases test with
  | field tested operator value =>
      rw [lowercased, holds, holds, ComponentField.get_lowercased, Operator.apply_lowercase]
  | type value => exact Text.same_lowercase component.componentType value

theorem Layer.satisfies_lowercased (layer : Layer) (condition : LayerCondition) :
    layer.lowercased.satisfies condition.key = layer.satisfies condition := by
  rw [satisfies, satisfies, LayerCondition.key, LayerField.get_lowercased,
    Operator.apply_lowercase]

theorem LayerCriterion.holds_lowercased (test : LayerCriterion) (excluded : ExcludedAttributes)
    (component : Component) (layer : Layer) :
    test.lowercased.holds excluded component.lowercased layer.lowercased
      = test.holds excluded component layer := by
  cases test with
  | managed value => rw [lowercased, holds, holds, Layer.lowercased]
  | publisher operator value =>
      rw [lowercased, holds, holds, LayerField.get_lowercased, Operator.apply_lowercase]
  | condition condition => exact layer.satisfies_lowercased condition
  | holdsAttribute name operator value type =>
      rw [lowercased, holds, holds, Layer.lowercased, List.any_map]
      refine List.any_congr rfl fun a => ?_
      rw [Function.comp_apply, LayerAttribute.lowercased, Text.same_lowercase,
        Operator.apply_lowercase]
  | changes solution =>
      have hsolution : (solution.map Text.lowercase).all layer.lowercased.isOf
          = solution.all layer.isOf := by
        cases solution with
        | none => rw [Option.map_none, Option.all_none, Option.all_none]
        | some solution => exact layer.isOf_lowercased solution
      have hchanges : (layer.lowercased.attributes.any fun a => a.isRelevantChange excluded)
          = layer.attributes.any fun a => a.isRelevantChange excluded := by
        rw [Layer.lowercased, List.any_map]
        exact List.any_congr rfl fun a => a.isRelevantChange_lowercased excluded
      rw [lowercased, holds, holds, hsolution, hchanges]
  | differs diff => exact diff.holds_lowercased excluded component layer
  | isOf solution => exact layer.isOf_lowercased solution

/-! ## Sequences -/

theorem RawCondition.condition?_lowercased (raw : RawCondition) :
    raw.lowercased.condition? = raw.condition?.map LayerCondition.key := by
  rw [condition?, condition?, parse, parse, lowercased]
  cases (Wire.Tag.parse raw.field : Wire.Decoded LayerField) with
  | error _ => rfl
  | ok field =>
      cases (Wire.Tag.parse raw.operator : Wire.Decoded Operator) with
      | error _ => rfl
      | ok operator => rfl

theorem Step.accepts_lowercased (step : Step) (layer : Layer) :
    step.lowercased.accepts layer.lowercased = step.accepts layer := by
  cases step with
  | literal solution => exact layer.isOf_lowercased solution
  | choice solutions => exact layer.any_isOf_lowercased solutions
  | dynamic raw =>
      rw [lowercased, accepts, accepts, raw.condition?_lowercased]
      cases raw.condition? with
      | none => rfl
      | some condition => exact layer.satisfies_lowercased condition

theorem Layer.sort_lowercased (layers : List Layer) :
    sort (layers.map lowercased) = (sort layers).map lowercased :=
  stableSort_map (fun _ _ => rfl) layers

namespace SequenceMode

variable (mode : SequenceMode)

theorem walk_lowercased (steps : List Step) (layers : List Layer) :
    mode.walk (steps.map Step.lowercased) (layers.map Layer.lowercased)
      = mode.walk steps layers := by
  induction layers generalizing steps with
  | nil => cases steps <;> rfl
  | cons layer layers ih =>
      cases steps with
      | nil => rfl
      | cons step steps =>
          -- A flexible walk that passes the layer over goes on with all of its steps.
          have hskip := ih (step :: steps)
          rw [List.map_cons] at hskip
          simp only [List.map_cons, walk, step.accepts_lowercased, ih, hskip]

theorem accepts_lowercased (steps : List Step) (layers : List Layer) :
    mode.accepts (steps.map Step.lowercased) (layers.map Layer.lowercased)
      = mode.accepts steps layers := by
  rw [accepts, accepts, Layer.sort_lowercased, walk_lowercased]

end SequenceMode

end Strata
