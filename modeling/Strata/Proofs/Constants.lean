import Strata.Proofs.NormalPredicates
import Strata.Proofs.Planning

/-!
# Where constants stand

In a predicate in normal form a constant is folded into whatever it stands in, as long as that can
be said without it. Three places are left. The predicate may be nothing but a constant. A component
may be asked for some layer, of whatever kind, which is not the same as being asked for nothing. And
all attributes may be candidates of a comparison, which has a place for a predicate in any case.

The predicates of filters are in normal form, with whatever lookups they are made, and so are those
that plans end up with: a plan that pushes nothing to the store asks for everything there.
-/

namespace Strata

/-! ## Places -/

/-- What a formula is to the predicate in which it stands. -/
inductive Place where
  /-- It is the predicate. -/
  | whole
  /-- It is a part of a connective. -/
  | part
  /-- It is what a negation denies. -/
  | negated
  /-- It is what some layer has to satisfy. -/
  | layer
  /-- It is what some attribute has to satisfy. -/
  | attribute
  /-- It is what the candidates of a comparison satisfy. -/
  | candidates
  /-- It is what the component of a layer has to satisfy. -/
  | owner
  deriving DecidableEq, Repr

/-- Whether a constant may be left in a place. -/
def Place.admits : Place → Bool → Bool
  | .whole, _ => true
  | .layer, value => value
  | .candidates, _ => true
  | _, _ => false

/-! ## Constants with their places -/

mutual

/-- The constants in a predicate that stands in a place, each with where it stands. -/
def AttributePredicate.constants : Place → Formula AttributeTest → List (Place × Bool)
  | place, .const value => [(place, value)]
  | _, .and parts => AttributePredicate.constantsEach parts
  | _, .or parts => AttributePredicate.constantsEach parts
  | _, .not inner => AttributePredicate.constants .negated inner
  | _, .atom _ => []

def AttributePredicate.constantsEach : List (Formula AttributeTest) → List (Place × Bool)
  | [] => []
  | part :: rest =>
    AttributePredicate.constants .part part ++ AttributePredicate.constantsEach rest

end

mutual

def ComponentTest.constants : ComponentTest → List (Place × Bool)
  | .field _ _ => []
  | .anyLayer inner => LayerPredicate.constants .layer inner

def ComponentPredicate.constants : Place → Formula ComponentTest → List (Place × Bool)
  | place, .const value => [(place, value)]
  | _, .and parts => ComponentPredicate.constantsEach parts
  | _, .or parts => ComponentPredicate.constantsEach parts
  | _, .not inner => ComponentPredicate.constants .negated inner
  | _, .atom test => test.constants

def ComponentPredicate.constantsEach : List (Formula ComponentTest) → List (Place × Bool)
  | [] => []
  | part :: rest =>
    ComponentPredicate.constants .part part ++ ComponentPredicate.constantsEach rest

def LayerTest.constants : LayerTest → List (Place × Bool)
  | .anyAttribute inner => AttributePredicate.constants .attribute inner
  | .differs candidates _ _ => AttributePredicate.constants .candidates candidates
  | .owner inner => ComponentPredicate.constants .owner inner
  | .solution _ _ | .solutionIn _ | .managed _ | .ordinalAbove _ | .ordinalBelow _ => []

def LayerPredicate.constants : Place → Formula LayerTest → List (Place × Bool)
  | place, .const value => [(place, value)]
  | _, .and parts => LayerPredicate.constantsEach parts
  | _, .or parts => LayerPredicate.constantsEach parts
  | _, .not inner => LayerPredicate.constants .negated inner
  | _, .atom test => test.constants

def LayerPredicate.constantsEach : List (Formula LayerTest) → List (Place × Bool)
  | [] => []
  | part :: rest => LayerPredicate.constants .part part ++ LayerPredicate.constantsEach rest

end

/-- Whether all of some constants may be left where they are. -/
def Admitted (constants : List (Place × Bool)) : Prop :=
  ∀ constant ∈ constants, constant.1.admits constant.2 = true

theorem admitted_nil : Admitted [] := List.forall_mem_nil _

theorem Admitted.append {first second : List (Place × Bool)} (hfirst : Admitted first)
    (hsecond : Admitted second) : Admitted (first ++ second) :=
  List.forall_mem_append.2 ⟨hfirst, hsecond⟩

/-! ## Normal form leaves no others -/

/-- Whether a formula may stand in a place if it is a constant. -/
def Place.Takes {α : Type} (place : Place) (formula : Formula α) : Prop :=
  ∀ value, formula = .const value → place.admits value = true

namespace Formula

variable {α : Type} {formula : Formula α}

theorem takes_of_isOpen (h : formula.isOpen = true) (place : Place) : place.Takes formula := by
  rintro value rfl
  cases h

theorem isOpen_of_keeps {connective : Connective} (h : connective.keeps formula = true) :
    formula.isOpen = true := by
  cases formula with
  | const _ => cases h
  | and _ | or _ | not _ | atom _ => rfl

theorem isOpen_of_isNegatable (h : formula.isNegatable = true) : formula.isOpen = true := by
  cases formula with
  | const _ => cases h
  | and _ | or _ | not _ | atom _ => rfl

end Formula

/-- The recursion that finds constants, wherever the formula stands. -/
def Place.recursion : Formula.Recursion (Place → List (Place × Bool)) (List (Place × Bool)) where
  const value place := [(place, value)]
  and constants _ := constants
  or constants _ := constants
  not constants _ := constants .negated
  nil := []
  cons constants more := constants .part ++ more

section

variable {α : Type} {formula : Formula α} {parts : List (Formula α)}
  {constants : Formula α → Place → List (Place × Bool)}
  {constantsEach : List (Formula α) → List (Place × Bool)}

theorem admitted_each (hconstants : Place.recursion.Defines constants constantsEach)
    (h : ∀ part ∈ parts, Admitted (constants part .part)) : Admitted (constantsEach parts) := by
  induction parts with
  | nil =>
      rw [hconstants.nil]
      exact admitted_nil
  | cons part parts ih =>
      obtain ⟨hpart, hparts⟩ := List.forall_mem_cons.1 h
      rw [hconstants.cons]
      exact hpart.append (ih hparts)

/-- In a formula in normal form the connectives leave constants nowhere but where it stands. -/
theorem Formula.IsNormal.admitted (hconstants : Place.recursion.Defines constants constantsEach)
    (h : formula.IsNormal fun test => ∀ place, Admitted (constants (.atom test) place))
    (place : Place) (htakes : place.Takes formula) : Admitted (constants formula place) := by
  induction h generalizing place with
  | const value =>
      rw [hconstants.const]
      exact List.forall_mem_singleton.2 (htakes value rfl)
  | and _ kept _ ih =>
      rw [hconstants.and]
      exact admitted_each hconstants fun part hmem =>
        ih part hmem .part (takes_of_isOpen (isOpen_of_keeps (kept part hmem)) _)
  | or _ kept _ ih =>
      rw [hconstants.or]
      exact admitted_each hconstants fun part hmem =>
        ih part hmem .part (takes_of_isOpen (isOpen_of_keeps (kept part hmem)) _)
  | not negatable _ ih =>
      rw [hconstants.not]
      exact ih .negated (takes_of_isOpen (isOpen_of_isNegatable negatable) _)
  | atom normal => exact normal place

end

theorem AttributePredicate.recursion_defines_constants :
    Place.recursion.Defines (fun predicate place => AttributePredicate.constants place predicate)
      AttributePredicate.constantsEach :=
  ⟨fun _ => rfl, fun _ => rfl, fun _ => rfl, fun _ => rfl, rfl, fun _ _ => rfl⟩

theorem ComponentPredicate.recursion_defines_constants :
    Place.recursion.Defines (fun predicate place => ComponentPredicate.constants place predicate)
      ComponentPredicate.constantsEach :=
  ⟨fun _ => rfl, fun _ => rfl, fun _ => rfl, fun _ => rfl, rfl, fun _ _ => rfl⟩

theorem LayerPredicate.recursion_defines_constants :
    Place.recursion.Defines (fun predicate place => LayerPredicate.constants place predicate)
      LayerPredicate.constantsEach :=
  ⟨fun _ => rfl, fun _ => rfl, fun _ => rfl, fun _ => rfl, rfl, fun _ _ => rfl⟩

theorem AttributePredicate.constants_admitted {predicate : AttributePredicate}
    (h : predicate.IsNormal) (place : Place) (htakes : place.Takes predicate) :
    Admitted (AttributePredicate.constants place predicate) :=
  Formula.IsNormal.admitted recursion_defines_constants
    (h.mp fun _ _ _ _ => admitted_nil) place htakes

theorem tests_admitted :
    (∀ test : ComponentTest, test.IsNormal → Admitted test.constants) ∧
    ∀ test : LayerTest, test.IsNormal → Admitted test.constants := by
  refine tests_induction (fun test ih h => ?_) (fun test ih h => ?_)
  · cases h with
    | field _ _ =>
        rw [ComponentTest.constants]
        exact admitted_nil
    | @anyLayer inner possible normal =>
        rw [ComponentTest.constants]
        refine Formula.IsNormal.admitted LayerPredicate.recursion_defines_constants
          (normal.mp fun test hmem htest _ => ih inner rfl test hmem htest) .layer ?_
        -- what is impossible of every layer was folded, so only the other constant is left
        rintro value rfl
        cases value with
        | true => rfl
        | false => cases possible
  · cases h with
    | anyAttribute isOpen normal =>
        rw [LayerTest.constants]
        exact AttributePredicate.constants_admitted normal .attribute
          (Formula.takes_of_isOpen isOpen _)
    | differs _ _ normal =>
        rw [LayerTest.constants]
        exact AttributePredicate.constants_admitted normal .candidates fun _ _ => rfl
    | @owner inner isOpen normal =>
        rw [LayerTest.constants]
        exact Formula.IsNormal.admitted ComponentPredicate.recursion_defines_constants
          (normal.mp fun test hmem htest _ => ih inner rfl test hmem htest) .owner
          (Formula.takes_of_isOpen isOpen _)
    | solution _ _ | solutionIn _ | managed _ | ordinalAbove _ | ordinalBelow _ =>
        rw [LayerTest.constants]
        exact admitted_nil

theorem ComponentPredicate.constants_admitted {predicate : ComponentPredicate}
    (h : predicate.IsNormal) (place : Place) (htakes : place.Takes predicate) :
    Admitted (ComponentPredicate.constants place predicate) :=
  Formula.IsNormal.admitted recursion_defines_constants
    (h.mp fun test _ htest _ => tests_admitted.1 test htest) place htakes

/-! ## Predicates of filters and of plans -/

theorem Pushdown.predicate_isNormal (pushdown : Pushdown) (filter : Option Filter) :
    (pushdown.predicate filter).IsNormal := by
  cases filter with
  | none => exact .const true
  | some filter => exact pushdown.component_isNormal filter .positive

namespace Plan

variable {config : Config}

theorem predicate_of_pushdown_divide {filter : Filter}
    (h : (divide config.excluded filter).pushdown = none) :
    (divide config.excluded filter).predicate = .const true := by
  cases filter with
  | all children =>
      rw [divide] at h ⊢
      split
      · rfl
      · next hpushed =>
          rw [if_neg hpushed] at h
          cases h
  | _ => rfl

/-- A plan that pushes nothing to the store asks for everything. -/
theorem predicate_of_pushdown_eq_none {root : Option Filter}
    (h : (make config root).pushdown = none) : (make config root).predicate = .const true := by
  cases root with
  | none => rfl
  | some filter =>
      rw [make_eq, ofFilter] at h ⊢
      split
      · rfl
      · next hforced =>
          rw [if_neg hforced] at h
          cases hcapability : (planned config filter).capability with
          | full | hybrid =>
              simp only [hcapability] at h
              cases h
          | inMemory =>
              simp only [hcapability] at h ⊢
              exact predicate_of_pushdown_divide h

/-- What a plan ends up asking for is the predicate of what it pushes to the store. -/
theorem finalPredicate_make (config final : Config) (root : Option Filter) (lookups : Lookups) :
    (make config root).finalPredicate final lookups
      = Pushdown.predicate { excluded := final.excluded, lookups := some lookups }
          (make config root).pushdown := by
  rw [finalPredicate]
  split
  · next filter h => rw [h]
  · next h =>
      rw [h, predicate_of_pushdown_eq_none h]
      rfl

end Plan

/-- Whether nothing in a predicate is left to fold: it is in normal form, and its constants stand
where they have to. -/
def ComponentPredicate.IsFolded (predicate : ComponentPredicate) : Prop :=
  predicate.IsNormal ∧ Admitted (ComponentPredicate.constants .whole predicate)

theorem Formula.IsNormal.isFolded {predicate : ComponentPredicate} (h : predicate.IsNormal) :
    predicate.IsFolded :=
  ⟨h, ComponentPredicate.constants_admitted h .whole fun _ _ => rfl⟩

/-- The predicate of a filter, with whatever lookups, and what a plan ends up asking for leave
nothing to fold on any level. -/
theorem Pushdown.predicate_isFolded (filter : Option Filter) :
    (∀ pushdown : Pushdown, (pushdown.predicate filter).IsFolded) ∧
      ∀ (config final : Config) (lookups : Lookups),
        ((Plan.make config filter).finalPredicate final lookups).IsFolded := by
  refine ⟨fun pushdown => (pushdown.predicate_isNormal filter).isFolded,
    fun config final lookups => ?_⟩
  rw [Plan.finalPredicate_make]
  exact (Pushdown.predicate_isNormal _ _).isFolded

/-- Every place that admits a constant does get one: a layer of whatever kind is asked for, and all
attributes are compared. -/
example :
    let denied : Filter := .anyLayer (some (.not (some (.solutions .any []))))
    let compared : Filter := .layer (.differs { source := "Core" })
    let constants (filter : Filter) :=
      ComponentPredicate.constants .whole
        (Pushdown.predicate { excluded := .standard } (some filter))
    constants .unknown = [(.whole, true)] ∧ constants denied = [(.layer, true)] ∧
      constants compared = [(.candidates, true)] := by
  decide +kernel

end Strata
