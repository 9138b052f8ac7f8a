import Strata.Filter.Semantics
import Strata.Plan
import Strata.Store

/-!
# Execution

A filter with its plan, ready to be run: ask what is to be asked beforehand, make the predicate, let
the store evaluate it, and keep what satisfies the residual.
-/

namespace Strata

/-- Why something was refused, or did not succeed. -/
inductive Failure where
  | wire (fault : Wire.Fault)
  | config (fault : Wire.Fault)
  | store (fault : Wire.Fault)
  | tag (fault : Wire.Fault)
  | lookupFailed (reason : String)
  | storeFailed (reason : String)
  deriving DecidableEq, Repr

/-- The wording of a failure. -/
def Failure.message : Failure → String
  | .wire fault => "Wire error: " ++ fault.message
  | .config fault => "Config error: " ++ fault.message
  | .store fault => "Store error: " ++ fault.message
  | .tag fault => fault.message
  | .lookupFailed reason => "Prefetch error: " ++ reason
  | .storeFailed reason => "Store error: " ++ reason

/-- A filter that may be absent, and how it is evaluated. -/
structure PlannedFilter where
  filter : Option Filter
  config : Config
  plan : Plan

namespace PlannedFilter

/-- Plans a filter. -/
def make (config : Config) (filter : Option Filter) : PlannedFilter :=
  ⟨filter, config, Plan.make config filter⟩

/-- Plans the filter that a text stands for. -/
def ofText (config : Config) (text : String) : Wire.Decoded PlannedFilter :=
  (make config ∘ some) <$> Filter.ofText text

/-- Whether a component satisfies the filter. -/
def holds (planned : PlannedFilter) (component : Component) : Bool :=
  satisfies planned.config.excluded planned.filter component

/-- Whether a component that the store returned is kept. -/
def keeps (planned : PlannedFilter) (component : Component) : Bool :=
  satisfies planned.config.excluded planned.plan.residual component

/-- The predicate that the store is asked for. Nothing is asked beforehand unless the plan says
so. -/
def predicate (planned : PlannedFilter) (accessor : Accessor ε) : Except ε ComponentPredicate :=
  if planned.plan.lookups.isEmpty then .ok planned.plan.predicate
  else do
    let lookups ← Lookups.collect accessor planned.plan.lookups
    return planned.plan.finalPredicate planned.config lookups

/-- The components that satisfy the filter, found through a store and what answers questions. -/
def executeWith (planned : PlannedFilter) (query : Query ε) (accessor : Accessor ε) :
    Except ε (List Component) := do
  let predicate ← planned.predicate accessor
  let rows ← query predicate
  return rows.filter planned.keeps

/-- The components of a store that satisfy the filter. -/
def execute (planned : PlannedFilter) (store : Store) : Except ε (List Component) :=
  planned.executeWith (fun predicate => .ok (store.query predicate)) store.accessor

end PlannedFilter

end Strata
