import Strata.Component.Wire
import Strata.Predicate.Basic

/-!
# Predicates on the wire

A predicate is written as an object whose only member is named for its head. Predicates are read
while their text is, so that what comes first in the text is what a refusal is about.
-/

namespace Strata

open Wire (Layout Decoded Fault Expected required alone bareVariant atEnd mismatch)

/-- The only member of an object. -/
def single (name : String) (value : Json) : Json := .obj [(name, value)]

/-- What kind of value a variant has whose value is not a record. -/
def newtypeForm (_ : String) : Expected := .newtypeVariant

/-! ## Tests of texts -/

namespace TextTest

/-- The heads of tests of texts. -/
def heads : List String := ["Equals", "NotEquals", "Like"]

/-- A test of a text that stands at a place of a text. -/
def decode : Source → Decoded TextTest
  | .str name => bareVariant heads newtypeForm name
  | .obj ((name, value) :: rest) stop =>
    match name with
    | "Equals" => alone rest stop (equals <$> Wire.text value)
    | "NotEquals" => alone rest stop (notEquals <$> Wire.text value)
    | "Like" => alone rest stop (like <$> Wire.text value)
    | _ => .error (.unknownVariant name heads)
  | _ => .error .malformed

/-- A test of a text as a value. -/
def encode : TextTest → Json
  | .equals value => single "Equals" (.str value)
  | .notEquals value => single "NotEquals" (.str value)
  | .like pattern => single "Like" (.str pattern)

end TextTest

/-! ## Predicates about attributes -/

/-- The heads of predicates about attributes. -/
def AttributePredicate.heads : List String :=
  ["Const", "And", "Or", "Not", "Name", "Value", "TypeIs", "Changed", "NameIn"]

/-- A test of an attribute as a value. -/
def AttributeTest.encode : AttributeTest → Json
  | .name test => single "Name" test.encode
  | .value test => single "Value" test.encode
  | .typeIs type => single "TypeIs" (Wire.Tag.encode type)
  | .changed expected => single "Changed" (.bool expected)
  | .nameIn names => single "NameIn" (.list .str names)

mutual

/-- A predicate about an attribute that stands at a place of a text. -/
def AttributePredicate.decode : Source → Decoded (Formula AttributeTest)
  | .obj ((name, value) :: rest) stop =>
    match name with
    | "Const" => alone rest stop (.const <$> Wire.boolean value)
    | "And" => alone rest stop (match value with
      | .arr items stop => do
        let parts ← AttributePredicate.decodeEach items
        atEnd stop (.ok (.and parts))
      | value => mismatch value .list)
    | "Or" => alone rest stop (match value with
      | .arr items stop => do
        let parts ← AttributePredicate.decodeEach items
        atEnd stop (.ok (.or parts))
      | value => mismatch value .list)
    | "Not" => alone rest stop (.not <$> AttributePredicate.decode value)
    | "Name" => alone rest stop ((.atom ∘ .name) <$> TextTest.decode value)
    | "Value" => alone rest stop ((.atom ∘ .value) <$> TextTest.decode value)
    | "TypeIs" => alone rest stop ((.atom ∘ .typeIs) <$> Wire.Tag.decode value)
    | "Changed" => alone rest stop ((.atom ∘ .changed) <$> Wire.boolean value)
    | "NameIn" => alone rest stop ((.atom ∘ .nameIn) <$> Wire.list Wire.text value)
    | _ => .error (.unknownVariant name AttributePredicate.heads)
  | .str name => bareVariant AttributePredicate.heads newtypeForm name
  | _ => .error .malformed

/-- Predicates about an attribute, one after the other. -/
def AttributePredicate.decodeEach : List Source → Decoded (List (Formula AttributeTest))
  | [] => .ok []
  | item :: rest => do
    let part ← AttributePredicate.decode item
    let more ← AttributePredicate.decodeEach rest
    return part :: more

end

mutual

/-- A predicate about an attribute as a value. -/
def AttributePredicate.encode : Formula AttributeTest → Json
  | .const b => single "Const" (.bool b)
  | .and parts => single "And" (.arr (AttributePredicate.encodeEach parts))
  | .or parts => single "Or" (.arr (AttributePredicate.encodeEach parts))
  | .not inner => single "Not" (AttributePredicate.encode inner)
  | .atom test => test.encode

/-- Predicates about an attribute as values. -/
def AttributePredicate.encodeEach : List (Formula AttributeTest) → List Json
  | [] => []
  | part :: rest => AttributePredicate.encode part :: AttributePredicate.encodeEach rest

end

/-! ## Targets of a comparison -/

namespace DiffTargets

/-- The heads of targets. -/
def heads : List String := ["LowerOrdinal", "Solutions"]

/-- Targets that stand at a place of a text. -/
def decode : Source → Decoded DiffTargets
  | .str name =>
    match name with
    | "LowerOrdinal" => .ok .lowerOrdinal
    | _ => bareVariant heads newtypeForm name
  | .obj ((name, value) :: rest) stop =>
    match name with
    | "LowerOrdinal" => alone rest stop ((fun _ => .lowerOrdinal) <$> Wire.unit value)
    | "Solutions" => alone rest stop (.solutions <$> Wire.list Wire.text value)
    | _ => .error (.unknownVariant name heads)
  | _ => .error .malformed

/-- Targets as a value. -/
def encode : DiffTargets → Json
  | .lowerOrdinal => .str "LowerOrdinal"
  | .solutions names => single "Solutions" (.list .str names)

end DiffTargets

/-! ## Predicates about components and layers -/

namespace ComponentTest

/-- The fields of a test of a component's field. -/
def fieldLayout : Layout (Option ComponentField × Option TextTest) ComponentTest where
  title := "struct variant Predicate::Field"
  fields := ["field", "test"]
  draft := (none, none)
  enter draft field source :=
    match field with
    | "field" => do return (some (← Wire.Tag.decode source), draft.2)
    | _ => do return (draft.1, some (← TextTest.decode source))
  build draft := do return .field (← required "field" draft.1) (← required "test" draft.2)

end ComponentTest

namespace LayerTest

/-- The fields of a test of a layer's field. -/
def solutionLayout : Layout (Option LayerField × Option TextTest) LayerTest where
  title := "struct variant LayerPredicate::Solution"
  fields := ["field", "test"]
  draft := (none, none)
  enter draft field source :=
    match field with
    | "field" => do return (some (← Wire.Tag.decode source), draft.2)
    | _ => do return (draft.1, some (← TextTest.decode source))
  build draft := do return .solution (← required "field" draft.1) (← required "test" draft.2)

/-- What is known of a comparison of attributes while it is being read. -/
structure Comparison where
  candidates : Option AttributePredicate := none
  logic : Option MatchLogic := none
  targets : Option DiffTargets := none

/-- The fields of a comparison of attributes. -/
def differsLayout : Layout Comparison LayerTest where
  title := "struct variant LayerPredicate::AttributeDiff"
  fields := ["candidates", "logic", "targets"]
  draft := {}
  enter draft field source :=
    match field with
    | "candidates" => do
      return { draft with candidates := some (← AttributePredicate.decode source) }
    | "logic" => do return { draft with logic := some (← Wire.Tag.decode source) }
    | _ => do return { draft with targets := some (← DiffTargets.decode source) }
  build draft := do
    let candidates ← required "candidates" draft.candidates
    let logic ← required "logic" draft.logic
    let targets ← required "targets" draft.targets
    return .differs candidates logic targets

end LayerTest

/-- The heads of predicates about components. -/
def ComponentPredicate.heads : List String := ["Const", "And", "Or", "Not", "Field", "AnyLayer"]

/-- What kind of value a head of a predicate about components has. -/
def ComponentPredicate.form (head : String) : Expected :=
  if head = "Field" then .structVariant else .newtypeVariant

/-- The heads of predicates about layers. -/
def LayerPredicate.heads : List String :=
  ["Const", "And", "Or", "Not", "Solution", "SolutionIn", "Managed", "OrdinalAbove",
    "OrdinalBelow", "AnyAttribute", "AttributeDiff", "Outer"]

/-- What kind of value a head of a predicate about layers has. -/
def LayerPredicate.form (head : String) : Expected :=
  if head = "Solution" ∨ head = "AttributeDiff" then .structVariant else .newtypeVariant

mutual

/-- A predicate about a component that stands at a place of a text. -/
def ComponentPredicate.decode : Source → Decoded (Formula ComponentTest)
  | .obj ((name, value) :: rest) stop =>
    match name with
    | "Const" => alone rest stop (.const <$> Wire.boolean value)
    | "And" => alone rest stop (match value with
      | .arr items stop => do
        let parts ← ComponentPredicate.decodeEach items
        atEnd stop (.ok (.and parts))
      | value => mismatch value .list)
    | "Or" => alone rest stop (match value with
      | .arr items stop => do
        let parts ← ComponentPredicate.decodeEach items
        atEnd stop (.ok (.or parts))
      | value => mismatch value .list)
    | "Not" => alone rest stop (.not <$> ComponentPredicate.decode value)
    | "Field" => alone rest stop (.atom <$> ComponentTest.fieldLayout.decode .streamed value)
    | "AnyLayer" => alone rest stop ((.atom ∘ .anyLayer) <$> LayerPredicate.decode value)
    | _ => .error (.unknownVariant name ComponentPredicate.heads)
  | .str name => bareVariant ComponentPredicate.heads ComponentPredicate.form name
  | _ => .error .malformed

/-- Predicates about a component, one after the other. -/
def ComponentPredicate.decodeEach : List Source → Decoded (List (Formula ComponentTest))
  | [] => .ok []
  | item :: rest => do
    let part ← ComponentPredicate.decode item
    let more ← ComponentPredicate.decodeEach rest
    return part :: more

/-- A predicate about a layer that stands at a place of a text. -/
def LayerPredicate.decode : Source → Decoded (Formula LayerTest)
  | .obj ((name, value) :: rest) stop =>
    match name with
    | "Const" => alone rest stop (.const <$> Wire.boolean value)
    | "And" => alone rest stop (match value with
      | .arr items stop => do
        let parts ← LayerPredicate.decodeEach items
        atEnd stop (.ok (.and parts))
      | value => mismatch value .list)
    | "Or" => alone rest stop (match value with
      | .arr items stop => do
        let parts ← LayerPredicate.decodeEach items
        atEnd stop (.ok (.or parts))
      | value => mismatch value .list)
    | "Not" => alone rest stop (.not <$> LayerPredicate.decode value)
    | "Solution" => alone rest stop (.atom <$> LayerTest.solutionLayout.decode .streamed value)
    | "SolutionIn" => alone rest stop ((.atom ∘ .solutionIn) <$> Wire.list Wire.text value)
    | "Managed" => alone rest stop ((.atom ∘ .managed) <$> Wire.boolean value)
    | "OrdinalAbove" => alone rest stop ((.atom ∘ .ordinalAbove) <$> Wire.integer64 value)
    | "OrdinalBelow" => alone rest stop ((.atom ∘ .ordinalBelow) <$> Wire.integer64 value)
    | "AnyAttribute" =>
      alone rest stop ((.atom ∘ .anyAttribute) <$> AttributePredicate.decode value)
    | "AttributeDiff" => alone rest stop (.atom <$> LayerTest.differsLayout.decode .streamed value)
    | "Outer" => alone rest stop ((.atom ∘ .owner) <$> ComponentPredicate.decode value)
    | _ => .error (.unknownVariant name LayerPredicate.heads)
  | .str name => bareVariant LayerPredicate.heads LayerPredicate.form name
  | _ => .error .malformed

/-- Predicates about a layer, one after the other. -/
def LayerPredicate.decodeEach : List Source → Decoded (List (Formula LayerTest))
  | [] => .ok []
  | item :: rest => do
    let part ← LayerPredicate.decode item
    let more ← LayerPredicate.decodeEach rest
    return part :: more

end

mutual

/-- A test of a component as a value. -/
def ComponentTest.encode : ComponentTest → Json
  | .field column test => single "Field" (.obj [
      ("field", Wire.Tag.encode column),
      ("test", test.encode)])
  | .anyLayer inner => single "AnyLayer" (LayerPredicate.encode inner)

/-- A predicate about a component as a value. -/
def ComponentPredicate.encode : Formula ComponentTest → Json
  | .const b => single "Const" (.bool b)
  | .and parts => single "And" (.arr (ComponentPredicate.encodeEach parts))
  | .or parts => single "Or" (.arr (ComponentPredicate.encodeEach parts))
  | .not inner => single "Not" (ComponentPredicate.encode inner)
  | .atom test => test.encode

/-- Predicates about a component as values. -/
def ComponentPredicate.encodeEach : List (Formula ComponentTest) → List Json
  | [] => []
  | part :: rest => ComponentPredicate.encode part :: ComponentPredicate.encodeEach rest

/-- A test of a layer as a value. -/
def LayerTest.encode : LayerTest → Json
  | .solution column test => single "Solution" (.obj [
      ("field", Wire.Tag.encode column),
      ("test", test.encode)])
  | .solutionIn names => single "SolutionIn" (.list .str names)
  | .managed expected => single "Managed" (.bool expected)
  | .ordinalAbove bound => single "OrdinalAbove" (Ordinal.encode bound)
  | .ordinalBelow bound => single "OrdinalBelow" (Ordinal.encode bound)
  | .anyAttribute inner => single "AnyAttribute" (AttributePredicate.encode inner)
  | .differs candidates logic targets => single "AttributeDiff" (.obj [
      ("candidates", AttributePredicate.encode candidates),
      ("logic", Wire.Tag.encode logic),
      ("targets", targets.encode)])
  | .owner inner => single "Outer" (ComponentPredicate.encode inner)

/-- A predicate about a layer as a value. -/
def LayerPredicate.encode : Formula LayerTest → Json
  | .const b => single "Const" (.bool b)
  | .and parts => single "And" (.arr (LayerPredicate.encodeEach parts))
  | .or parts => single "Or" (.arr (LayerPredicate.encodeEach parts))
  | .not inner => single "Not" (LayerPredicate.encode inner)
  | .atom test => test.encode

/-- Predicates about a layer as values. -/
def LayerPredicate.encodeEach : List (Formula LayerTest) → List Json
  | [] => []
  | part :: rest => LayerPredicate.encode part :: LayerPredicate.encodeEach rest

end

end Strata
