import Strata.Lookup
import Strata.Predicate.Semantics
import Strata.Pushdown

/-!
# Stores

A store returns the components that satisfy a predicate. The one here holds its components in memory
and evaluates predicates as a relational store would; it also answers the questions that are asked
beforehand. Its components have their layers in order.
-/

namespace Strata

open Wire (Decoded)

/-- What returns components that satisfy a predicate. -/
abbrev Query (ε : Type) := ComponentPredicate → Except ε (List Component)

/-- Components in memory. -/
structure Store where
  components : List Component := []
  deriving DecidableEq, Repr

namespace Store

/-- The store of some components. -/
def ofList (components : List Component) : Store := ⟨components.map Component.normalize⟩

/-- Adds a component. -/
def push (store : Store) (component : Component) : Store :=
  ⟨store.components ++ [component.normalize]⟩

/-- The store of the components that a text lists. -/
def ofText (text : String) : Decoded Store :=
  ofList <$> Wire.decodeText (Wire.list Component.decode) text

/-- The components that satisfy a predicate, in the order of the store. -/
def query (store : Store) (predicate : ComponentPredicate) : List Component :=
  store.components.filter fun component => ComponentPredicate.holds component predicate

/-- All layers of all components. -/
def layers (store : Store) : List Layer := store.components.flatMap (·.layers)

/-- The range of a solution's ordinals. -/
def range? (store : Store) (solution : String) : Option OrdinalRange :=
  OrdinalRange.ofList ((store.layers.filter (·.isOf solution)).map (·.ordinal))

/-- Names that differ in more than case, each in its last spelling. -/
def lastSpellings (names : List String) : List String :=
  names.foldr (fun name kept => if kept.any (Text.same name) then kept else name :: kept) []

/-- The ranges of the solutions that have layers, sorted by name. -/
def ordinalRanges (store : Store) (solutions : List String) : List (String × OrdinalRange) :=
  (lastSpellings solutions).foldl
    (fun ranges solution =>
      match store.range? solution with
      | some range => insertFirst solution range ranges
      | none => ranges) []

/-- The solutions of the layers that satisfy a condition, sorted by their lowercase and each in the
spelling that comes first. -/
def resolve (store : Store) (condition : LayerCondition) : List String :=
  let satisfying := store.components.flatMap fun component =>
    component.layers.filter (LayerPredicate.holds component condition.predicate)
  Lookup.distinctNames (satisfying.map (·.solution))

/-- The store as what answers questions. -/
def accessor (store : Store) : Accessor ε where
  ordinalRanges solutions := .ok (store.ordinalRanges solutions)
  resolve condition := .ok (store.resolve condition)

end Store

end Strata
