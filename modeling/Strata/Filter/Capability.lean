import Strata.Filter.Basic
import Strata.Wire.Decode

/-!
# What a store can do with a filter

A relational store decides some filters exactly, narrows down others, and can do nothing with those
of an unknown kind. The worst part of a filter decides for the whole.
-/

namespace Strata

/-- How much of a filter a relational store can evaluate. -/
inductive Capability where
  /-- All of it, exactly. -/
  | full
  /-- It can narrow the candidates; what is exact needs lookups or a look at each of them. -/
  | hybrid
  /-- None of it. -/
  | inMemory
  deriving DecidableEq, Repr

namespace Capability

/-- The worse of two capabilities. -/
def worse : Capability → Capability → Capability
  | .inMemory, _ => .inMemory
  | _, .inMemory => .inMemory
  | .hybrid, _ => .hybrid
  | _, .hybrid => .hybrid
  | .full, .full => .full

/-- The name on the wire. -/
def name : Capability → String
  | .full => "FullySqlTranslatable"
  | .hybrid => "HybridSqlTranslatable"
  | .inMemory => "InMemoryOnly"

/-- The name for readers. -/
def description : Capability → String
  | .full => "fully translatable"
  | .hybrid => "hybrid"
  | .inMemory => "in-memory only"

/-- All capabilities. -/
def all : List Capability := [.full, .hybrid, .inMemory]

/-- The capability that stands at a place of a text. -/
def decode : Source → Wire.Decoded Capability :=
  Wire.variant (all.map name) fun text => all.find? fun c => c.name = text

/-- A capability as a value. -/
def encode (capability : Capability) : Json := .str capability.name

end Capability

namespace Filter

mutual

/-- What a store can do with a filter. -/
def capability : Filter → Capability
  | .component _ => .full
  | .layer _ => .full
  | .solutions _ _ => .full
  | .sequence _ _ => .hybrid
  | .anyLayer none => .full
  | .anyLayer (some child) => child.capability
  | .layerOf _ none => .full
  | .layerOf _ (some child) => child.capability
  | .all children => worstOf children
  | .any children => worstOf children
  | .not none => .full
  | .not (some child) => child.capability
  | .unknown => .inMemory

/-- What a store can do with the worst of some filters. -/
def worstOf : List Filter → Capability
  | [] => .full
  | child :: rest => child.capability.worse (worstOf rest)

end

end Filter

end Strata
