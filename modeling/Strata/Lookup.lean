import Strata.Filter.Wire
import Strata.Component.Wire
import Strata.Filter.Names
import Strata.Order.Table

/-!
# Lookups

What a store cannot find out while it evaluates a predicate, and what can be asked beforehand so that
the predicate says more: which ordinals the layers of a solution have, and which solutions satisfy a
condition. `Lookup.extract` lists what to ask for a filter. `Lookups` holds the answers.

Solutions and conditions are told apart without regard to case.
-/

namespace Strata

open Wire (Layout Decoded required)

/-- The least and the greatest ordinal of some layers. -/
structure OrdinalRange where
  min : Ordinal
  max : Ordinal
  deriving DecidableEq, Repr

namespace OrdinalRange

/-- The range extended to an ordinal. -/
def extend (range : OrdinalRange) (ordinal : Ordinal) : OrdinalRange :=
  ⟨if range.min ≤ ordinal then range.min else ordinal,
    if ordinal ≤ range.max then range.max else ordinal⟩

/-- The range of ordinals, if there are any. -/
def ofList : List Ordinal → Option OrdinalRange
  | [] => none
  | ordinal :: rest => some (rest.foldl extend ⟨ordinal, ordinal⟩)

/-- The fields of a range. -/
def layout : Layout (Option Ordinal × Option Ordinal) OrdinalRange where
  title := "struct OrdinalRange"
  fields := ["min", "max"]
  draft := (none, none)
  enter draft field source :=
    match field with
    | "min" => do return (some (← Wire.integer64 source), draft.2)
    | _ => do return (draft.1, some (← Wire.integer64 source))
  build draft := do return ⟨← required "min" draft.1, ← required "max" draft.2⟩

/-- A range that stands at a place of a text. -/
def decode : Source → Decoded OrdinalRange := layout.decode .streamed

/-- A range as a value. -/
def encode (range : OrdinalRange) : Json := .obj [
  ("min", Ordinal.encode range.min),
  ("max", Ordinal.encode range.max)]

end OrdinalRange

/-! ## Questions -/

/-- A question to ask beforehand. -/
inductive Lookup where
  /-- The ordinals of the layers of each of these solutions. -/
  | ordinalRanges (solutions : List String)
  /-- The solutions of layers that satisfy a condition. -/
  | resolve (condition : LayerCondition)
  deriving DecidableEq, Repr

namespace Filter

mutual

/-- The steps of all sequences in a filter, from left to right. -/
def allSteps : Filter → List Step
  | .sequence _ steps => steps
  | .anyLayer (some child) => child.allSteps
  | .layerOf _ (some child) => child.allSteps
  | .all children => stepsOfEach children
  | .any children => stepsOfEach children
  | .not (some child) => child.allSteps
  | _ => []

/-- The steps of all sequences in some filters. -/
def stepsOfEach : List Filter → List Step
  | [] => []
  | child :: rest => child.allSteps ++ stepsOfEach rest

end

end Filter

/-- The condition of a step, if it has one that means something. -/
def Step.condition? : Step → Option LayerCondition
  | .dynamic raw => raw.condition?
  | _ => none

namespace Lookup

/-- Names that differ in more than case, in the order of their lowercase and each in its first
spelling. -/
def distinctNames (names : List String) : List String :=
  (names.foldl (fun kept name => insertFirst (Text.lowercase name) name kept) []).map (·.2)

/-- Conditions that differ in their keys, each where and as it comes first. -/
def distinctConditions (conditions : List LayerCondition) : List LayerCondition :=
  conditions.foldl (fun kept c => if kept.any fun k => k.key == c.key then kept else kept ++ [c]) []

/-- The questions whose answers the predicate of a filter can use. -/
def extract (filter : Filter) : List Lookup :=
  let names := distinctNames (filter.allSteps.flatMap Step.solutions)
  let conditions := distinctConditions (filter.allSteps.filterMap Step.condition?)
  (if names.isEmpty then [] else [.ordinalRanges names]) ++ conditions.map .resolve

/-! ### On the wire -/

/-- The names of the kinds of questions. -/
def kinds : List String := ["ordinalRanges", "resolveSolutions"]

/-- The fields of a question for ordinals. -/
def rangesLayout : Layout (Option (List String)) Lookup where
  title := "struct variant PrefetchOperation::OrdinalRanges"
  fields := ["solutionNames"]
  draft := none
  enter _ _ source := some <$> Wire.list Wire.text source
  build draft := do return .ordinalRanges (← required "solutionNames" draft)

/-- The fields of a question for solutions. -/
def resolveLayout : Layout (Option LayerCondition) Lookup where
  title := "struct variant PrefetchOperation::ResolveSolutions"
  fields := ["query"]
  draft := none
  enter _ _ source := some <$> LayerCondition.decode .buffered source
  build draft := do return .resolve (← required "query" draft)

/-- A kind of question. -/
inductive Kind where
  | ordinalRanges
  | resolve
  deriving DecidableEq, Repr

/-- The kind of question with a name. -/
def decodeKind (name : String) : Decoded Kind :=
  match name with
  | "ordinalRanges" => .ok .ordinalRanges
  | "resolveSolutions" => .ok .resolve
  | _ => .error (.unknownVariant name kinds)

/-- A question that stands at a place of a text. -/
def decode (source : Source) : Decoded Lookup := do
  let (kind, body) ←
    Wire.tagged "PrefetchOperation" "kind" .streamed (Wire.kindName decodeKind) source
  match kind with
  | .ordinalRanges => rangesLayout.decode .buffered body
  | .resolve => resolveLayout.decode .buffered body

/-- A question as a value. -/
def encode : Lookup → Json
  | .ordinalRanges solutions => .obj [
      ("kind", .str "ordinalRanges"),
      ("solutionNames", .list .str solutions)]
  | .resolve tested => .obj [("kind", .str "resolveSolutions"), ("query", tested.encode)]

end Lookup

/-! ## Answers -/

/-- What answers questions. -/
structure Accessor (ε : Type) where
  ordinalRanges : List String → Except ε (List (String × OrdinalRange))
  resolve : LayerCondition → Except ε (List String)

/-- The answers that are there: ranges by solution in lowercase, solutions in lowercase by the key of
the condition. -/
structure Lookups where
  ranges : Table String OrdinalRange := []
  resolutions : Table LayerCondition (List String) := []

namespace Lookups

/-- No answers. -/
def empty : Lookups := {}

/-- Whether there are no answers. -/
def isEmpty (lookups : Lookups) : Bool := lookups.ranges.isEmpty && lookups.resolutions.isEmpty

/-- Adds the range of a solution. -/
def insertRange (lookups : Lookups) (solution : String) (range : OrdinalRange) : Lookups :=
  { lookups with ranges := lookups.ranges.assign (Text.lowercase solution) range }

/-- Adds the solutions that satisfy a condition. -/
def insertResolution (lookups : Lookups) (condition : LayerCondition) (solutions : List String) :
    Lookups :=
  { lookups with
    resolutions := lookups.resolutions.assign condition.key (solutions.map Text.lowercase) }

/-- The range of a solution. -/
def range? (lookups : Lookups) (solution : String) : Option OrdinalRange :=
  lookups.ranges.find? (Text.lowercase solution)

/-- The solutions that satisfy a condition, in lowercase. -/
def resolved? (lookups : Lookups) (condition : LayerCondition) : Option (List String) :=
  lookups.resolutions.find? condition.key

/-- Adds the answer to a question. -/
def ask (accessor : Accessor ε) (lookups : Lookups) (lookup : Lookup) : Except ε Lookups :=
  match lookup with
  | .ordinalRanges solutions => do
    let ranges ← accessor.ordinalRanges solutions
    return ranges.foldl (fun lookups entry => lookups.insertRange entry.1 entry.2) lookups
  | .resolve condition => do
    let solutions ← accessor.resolve condition
    return lookups.insertResolution condition solutions

/-- The answers to questions, asked one after the other. The first that fails is the end of it. -/
def collect (accessor : Accessor ε) (questions : List Lookup) : Except ε Lookups :=
  questions.foldlM (ask accessor) empty

end Lookups

end Strata
