import Strata.Filter.Capability
import Strata.Filter.Kind
import Strata.Filter.Selectivity
import Strata.Pushdown

/-!
# Plans

How a filter is divided between a store and a look at what the store returns. The store gets a
predicate; the residual filter, if there is one, is applied to the components it returns. Whatever
the division, a component passes both exactly if it satisfies the filter.

A filter that the store can evaluate goes to it whole. One that it can narrow goes to it whole and
stays as the residual. Of a conjunction with parts of an unknown kind, the store gets the parts it
can evaluate. Of every other filter with such parts it gets nothing.
-/

namespace Strata

namespace Plan

/-- How the work is divided. -/
inductive Shape where
  /-- The predicate is exact. -/
  | relational
  /-- The predicate narrows, and the residual is the whole filter. -/
  | hybrid
  /-- The predicate is exact for some parts of a conjunction, and the residual is the others. -/
  | split
  /-- There is no predicate to speak of. -/
  | inMemory
  deriving DecidableEq, Repr

namespace Shape

/-- The name on the wire. -/
def name : Shape → String
  | .relational => "Relational"
  | .hybrid => "Hybrid"
  | .split => "Split"
  | .inMemory => "InMemory"

/-- The name for readers. -/
def description : Shape → String
  | .relational => "relational"
  | .hybrid => "hybrid"
  | .split => "split"
  | .inMemory => "in-memory"

/-- All shapes. -/
def all : List Shape := [.relational, .hybrid, .split, .inMemory]

/-- The shape that stands at a place of a text. -/
def decode : Source → Wire.Decoded Shape :=
  Wire.variant (all.map name) fun text => all.find? fun shape => shape.name = text

/-- A shape as a value. -/
def encode (shape : Shape) : Json := .str shape.name

end Shape

/-- Why the work is divided as it is. -/
inductive Rationale where
  | noFilter
  | forced
  | translatable
  /-- So many questions are asked, and the order of sequences may have to be checked. -/
  | hybrid (questions : Nat) (checked : Bool)
  | indivisible (kind : Filter.Kind)
  | nothingTranslatable
  /-- So many parts go to the store, and so many are kept. -/
  | split (pushed kept : Nat)
  deriving DecidableEq, Repr

/-- A count in a message. -/
def count (n : Nat) : String := String.ofList (spellNat n)

/-- The wording of a rationale. -/
def Rationale.message : Rationale → String
  | .noFilter => "no filter: every component matches"
  | .forced => "in-memory evaluation forced by configuration"
  | .translatable => "fully translatable: pure relational predicate"
  | .hybrid questions checked =>
    "hybrid: narrowing predicate with " ++ count questions ++ " pre-fetch operation(s)"
      ++ if checked then ", sequence order checked in memory" else ""
  | .indivisible kind => "in-memory only: " ++ kind.tag ++ " root cannot be split"
  | .nothingTranslatable => "in-memory only: no AND child is translatable"
  | .split pushed kept =>
    "split: " ++ count pushed ++ " AND child(ren) pushed down, " ++ count kept
      ++ " evaluated in memory"

end Plan

/-- How a filter is evaluated. -/
structure Plan where
  capability : Capability
  shape : Plan.Shape
  /-- What the store is asked for, as long as there are no lookups. -/
  predicate : ComponentPredicate
  /-- The filter that the predicate was made from. -/
  pushdown : Option Filter
  /-- The filter that the components returned by the store have to satisfy. -/
  residual : Option Filter
  /-- The questions whose answers make the predicate say more. -/
  lookups : List Lookup
  rationale : Plan.Rationale

namespace Plan

/-- A plan by which the store returns everything. -/
def inMemory (capability : Capability) (filter : Filter) (rationale : Rationale) : Plan where
  capability := capability
  shape := .inMemory
  predicate := .const true
  pushdown := none
  residual := some filter
  lookups := []
  rationale := rationale

/-- The conjunction of filters; of a single one, that one. -/
def conjunction : List Filter → Filter
  | [child] => child
  | children => .all children

/-- Whether a store can evaluate a filter. -/
def isTranslatable (filter : Filter) : Bool := filter.capability = .full

/-- The plan of a filter with parts of an unknown kind. -/
def divide (excluded : ExcludedAttributes) (filter : Filter) : Plan :=
  match filter with
  | .all children =>
    let pushed := children.filter isTranslatable
    let kept := children.filter fun child => !isTranslatable child
    if pushed.isEmpty then inMemory .inMemory (.all kept) .nothingTranslatable
    else {
      capability := .inMemory
      shape := .split
      predicate := Pushdown.predicate { excluded } (some (conjunction pushed))
      pushdown := some (conjunction pushed)
      residual := some (conjunction kept)
      lookups := []
      rationale := .split pushed.length kept.length }
  | filter => inMemory .inMemory filter (.indivisible filter.kind)

/-- The plan of a filter, by what the store can do with it. -/
def ofFilter (config : Config) (filter : Filter) : Plan :=
  let capability := filter.capability
  if config.forceInMemory then inMemory capability filter .forced
  else match capability with
    | .full => {
        capability := capability
        shape := .relational
        predicate := Pushdown.predicate { excluded := config.excluded } (some filter)
        pushdown := some filter
        residual := none
        lookups := []
        rationale := .translatable }
    | .hybrid =>
      let questions := Lookup.extract filter
      let checked := filter.containsSequence
      { capability := capability
        shape := .hybrid
        predicate := Pushdown.predicate { excluded := config.excluded } (some filter)
        pushdown := some filter
        residual := if checked then some filter else none
        lookups := questions
        rationale := .hybrid questions.length checked }
    | .inMemory => divide config.excluded filter

/-- The plan where there is no filter. -/
def everything : Plan where
  capability := .full
  shape := .relational
  predicate := .const true
  pushdown := none
  residual := none
  lookups := []
  rationale := .noFilter

/-- The plan of a filter that may be absent. -/
def make (config : Config) (filter : Option Filter) : Plan :=
  match filter with
  | none => everything
  | some filter => ofFilter config (if config.rankBySelectivity then filter.ranked else filter)

/-- The predicate of a plan once lookups are there. -/
def finalPredicate (plan : Plan) (config : Config) (lookups : Lookups) : ComponentPredicate :=
  match plan.pushdown with
  | some filter =>
    Pushdown.predicate { excluded := config.excluded, lookups := some lookups } (some filter)
  | none => plan.predicate

end Plan

end Strata
