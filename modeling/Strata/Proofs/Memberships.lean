import Strata.Proofs.Constants
import Strata.Proofs.Levels
import Strata.Proofs.Ranking

/-!
# Lists of names in predicates

A predicate holds lists of names in three kinds of places: names of attributes, solutions of a
layer, and solutions whose layers are compared with. Folding drops tests and makes none, so a list
in the predicate of a filter was put there for something in the filter. There are four origins
(`Pushdown.Origin`): what is excluded, the attributes that a comparison is restricted to, the
solutions it compares with, and the solutions that a condition was resolved to.

The first two are left out if they are empty. The last two are not: a comparison may be with the
layers of no solutions at all, and no solution may satisfy a condition.
-/

namespace Strata

/-! ## The tests of connectives -/

namespace Formula

variable {α : Type} {P : α → Prop} {formula : Formula α} {parts : List (Formula α)} {test : α}
  {connective : Connective}

theorem flatMap_tests_spread (formula : Formula α) :
    (connective.spread formula).flatMap tests = formula.tests := by
  cases connective with
  | all =>
      match formula with
      | .const true => rfl
      | .and parts => exact (testsEach_eq parts).symm
      | .const false | .or _ | .not _ | .atom _ => exact List.flatMap_singleton _ _
  | any =>
      match formula with
      | .const false => rfl
      | .or parts => exact (testsEach_eq parts).symm
      | .const true | .and _ | .not _ | .atom _ => exact List.flatMap_singleton _ _

theorem tests_gather (parts : List (Formula α)) :
    (connective.gather parts).tests = parts.flatMap tests := by
  match parts with
  | [] => rfl
  | [part] => exact (List.flatMap_singleton _ _).symm
  | first :: second :: rest => cases connective <;> exact testsEach_eq _

/-- Joining formulas makes no tests. -/
theorem eachTest_join (connective : Connective) (h : ∀ part ∈ parts, part.EachTest P) :
    (connective.join parts).EachTest P := by
  rw [Connective.join_eq]
  split
  · exact eachTest_const _
  · intro test hmem
    rw [tests_gather, List.flatMap_assoc, List.mem_flatMap] at hmem
    obtain ⟨part, hpart, hmem⟩ := hmem
    rw [flatMap_tests_spread] at hmem
    exact h part hpart test hmem

theorem eachTest_all (h : ∀ part ∈ parts, part.EachTest P) : (all parts).EachTest P :=
  eachTest_join .all h

theorem eachTest_any (h : ∀ part ∈ parts, part.EachTest P) : (any parts).EachTest P :=
  eachTest_join .any h

theorem tests_negate (formula : Formula α) : formula.negate.tests = formula.tests := by
  cases formula <;> rfl

theorem eachTest_negate (h : formula.EachTest P) : formula.negate.EachTest P := by
  rw [EachTest, tests_negate]
  exact h

end Formula

/-! ## Lists -/

/-- A list of names in a predicate. -/
inductive Membership where
  /-- An attribute has one of these names. -/
  | names (list : List String)
  /-- A layer is of one of these solutions. -/
  | solutions (list : List String)
  /-- A layer is compared with those of these solutions. -/
  | targets (list : List String)
  deriving DecidableEq, Repr

/-- The list. -/
def Membership.list : Membership → List String
  | .names list => list
  | .solutions list => list
  | .targets list => list

/-- The lists in a test of an attribute. -/
def AttributeTest.memberships : AttributeTest → List Membership
  | .nameIn names => [.names names]
  | .name _ | .value _ | .typeIs _ | .changed _ => []

def AttributePredicate.memberships (predicate : AttributePredicate) : List Membership :=
  predicate.tests.flatMap AttributeTest.memberships

/-- The lists in the targets of a comparison. -/
def DiffTargets.memberships : DiffTargets → List Membership
  | .lowerOrdinal => []
  | .solutions names => [.targets names]

mutual

def ComponentTest.memberships : ComponentTest → List Membership
  | .field _ _ => []
  | .anyLayer inner => LayerPredicate.memberships inner

def ComponentPredicate.memberships : Formula ComponentTest → List Membership
  | .const _ => []
  | .and parts => ComponentPredicate.membershipsEach parts
  | .or parts => ComponentPredicate.membershipsEach parts
  | .not inner => ComponentPredicate.memberships inner
  | .atom test => test.memberships

def ComponentPredicate.membershipsEach : List (Formula ComponentTest) → List Membership
  | [] => []
  | part :: rest =>
    ComponentPredicate.memberships part ++ ComponentPredicate.membershipsEach rest

def LayerTest.memberships : LayerTest → List Membership
  | .solutionIn names => [.solutions names]
  | .anyAttribute inner => AttributePredicate.memberships inner
  | .differs candidates _ targets =>
    AttributePredicate.memberships candidates ++ targets.memberships
  | .owner inner => ComponentPredicate.memberships inner
  | .solution _ _ | .managed _ | .ordinalAbove _ | .ordinalBelow _ => []

def LayerPredicate.memberships : Formula LayerTest → List Membership
  | .const _ => []
  | .and parts => LayerPredicate.membershipsEach parts
  | .or parts => LayerPredicate.membershipsEach parts
  | .not inner => LayerPredicate.memberships inner
  | .atom test => test.memberships

def LayerPredicate.membershipsEach : List (Formula LayerTest) → List Membership
  | [] => []
  | part :: rest => LayerPredicate.memberships part ++ LayerPredicate.membershipsEach rest

end

open Formula.Recursion (collect)

theorem ComponentPredicate.collect_defines_memberships :
    (collect Membership).Defines ComponentPredicate.memberships
      ComponentPredicate.membershipsEach :=
  ⟨fun _ => rfl, fun _ => rfl, fun _ => rfl, fun _ => rfl, rfl, fun _ _ => rfl⟩

theorem LayerPredicate.collect_defines_memberships :
    (collect Membership).Defines LayerPredicate.memberships LayerPredicate.membershipsEach :=
  ⟨fun _ => rfl, fun _ => rfl, fun _ => rfl, fun _ => rfl, rfl, fun _ _ => rfl⟩

/-! ## All lists in a predicate are as wanted -/

section

variable {P : Membership → Prop}

/-- Whether every list in a test is as wanted. -/
def AttributeTest.Lists (P : Membership → Prop) (test : AttributeTest) : Prop :=
  ∀ m ∈ test.memberships, P m

def ComponentTest.Lists (P : Membership → Prop) (test : ComponentTest) : Prop :=
  ∀ m ∈ test.memberships, P m

def LayerTest.Lists (P : Membership → Prop) (test : LayerTest) : Prop :=
  ∀ m ∈ test.memberships, P m

abbrev AttributePredicate.Lists (P : Membership → Prop) (predicate : AttributePredicate) : Prop :=
  Formula.EachTest (AttributeTest.Lists P) predicate

abbrev ComponentPredicate.Lists (P : Membership → Prop) (predicate : ComponentPredicate) : Prop :=
  Formula.EachTest (ComponentTest.Lists P) predicate

abbrev LayerPredicate.Lists (P : Membership → Prop) (predicate : LayerPredicate) : Prop :=
  Formula.EachTest (LayerTest.Lists P) predicate

theorem AttributePredicate.forall_mem_memberships {predicate : AttributePredicate} :
    (∀ m ∈ predicate.memberships, P m) ↔ predicate.Lists P :=
  List.forall_mem_flatMap

theorem ComponentPredicate.forall_mem_memberships {predicate : ComponentPredicate} :
    (∀ m ∈ ComponentPredicate.memberships predicate, P m) ↔ predicate.Lists P := by
  rw [ComponentPredicate.collect_defines_memberships.eq_flatMap_tests]
  exact List.forall_mem_flatMap

theorem LayerPredicate.forall_mem_memberships {predicate : LayerPredicate} :
    (∀ m ∈ LayerPredicate.memberships predicate, P m) ↔ predicate.Lists P := by
  rw [LayerPredicate.collect_defines_memberships.eq_flatMap_tests]
  exact List.forall_mem_flatMap

end

/-! ## Between the levels -/

section

variable {P : Membership → Prop}

theorem Formula.EachTest.someLayer {inner : LayerPredicate} (h : inner.Lists P) :
    inner.someLayer.Lists P := by
  match inner with
  | .const false => exact Formula.eachTest_const false
  | .const true | .and _ | .or _ | .not _ | .atom _ =>
      refine Formula.eachTest_atom ?_
      rw [ComponentTest.Lists, ComponentTest.memberships]
      exact LayerPredicate.forall_mem_memberships.2 h

theorem Formula.EachTest.ofOwner {inner : ComponentPredicate} (h : inner.Lists P) :
    inner.ofOwner.Lists P := by
  match inner with
  | .const value => exact Formula.eachTest_const value
  | .and _ | .or _ | .not _ | .atom _ =>
      refine Formula.eachTest_atom ?_
      rw [LayerTest.Lists, LayerTest.memberships]
      exact ComponentPredicate.forall_mem_memberships.2 h

theorem Formula.EachTest.someAttribute {inner : AttributePredicate} (h : inner.Lists P) :
    inner.someAttribute.Lists P := by
  match inner with
  | .const false => exact Formula.eachTest_const false
  | .const true | .and _ | .or _ | .not _ | .atom _ =>
      refine Formula.eachTest_atom ?_
      rw [LayerTest.Lists, LayerTest.memberships]
      exact AttributePredicate.forall_mem_memberships.2 h

/-- A test without lists is as wanted. -/
theorem LayerTest.lists_of_memberships_eq_nil {test : LayerTest} (h : test.memberships = []) :
    test.Lists P := by
  rw [LayerTest.Lists, h]
  exact List.forall_mem_nil _

theorem named_lists (solution : String) : (named solution).Lists P :=
  Formula.eachTest_atom (LayerTest.lists_of_memberships_eq_nil (by rw [LayerTest.memberships]))

theorem hasLayerOf_lists (solution : String) : (hasLayerOf solution).Lists P :=
  (named_lists solution).someLayer

theorem ComponentCriterion.predicate_lists (test : ComponentCriterion) :
    test.predicate.Lists P := by
  cases test with
  | field _ _ _ | type _ =>
      refine Formula.eachTest_atom ?_
      rw [ComponentTest.Lists, ComponentTest.memberships]
      exact List.forall_mem_nil _

end

/-! ## Where lists come from -/

namespace Pushdown

/-- What a list in the predicate of a filter was put there for. -/
inductive Origin (pushdown : Pushdown) (filter : Filter) : Membership → Prop
  /-- It names the attributes that are excluded. -/
  | excluded (some_name : pushdown.excluded.names ≠ []) :
      Origin pushdown filter (.names pushdown.excluded.names)
  /-- It names the attributes that a comparison is restricted to. -/
  | attributes {diff : AttributeDiff} (stands : (Filter.layer (.differs diff)).StandsIn filter)
      (some_name : diff.names ≠ []) :
      Origin pushdown filter (.names (diff.names.map Text.lowercase))
  /-- It names the solutions with whose layers a comparison is made. -/
  | targets {diff : AttributeDiff} (stands : (Filter.layer (.differs diff)).StandsIn filter)
      (specific : diff.mode = .specific) :
      Origin pushdown filter (.targets (diff.targets.map Text.lowercase))
  /-- It names the solutions that the condition of a step was resolved to. -/
  | resolved {mode : SequenceMode} {steps : List Step} {raw : RawCondition}
      {condition : LayerCondition} {lookups : Lookups} {solutions : List String}
      (stands : (Filter.sequence mode steps).StandsIn filter) (hmem : .dynamic raw ∈ steps)
      (hcondition : raw.condition? = some condition) (hlookups : pushdown.lookups = some lookups)
      (hresolved : lookups.resolved? condition = some solutions) :
      Origin pushdown filter (.solutions solutions)

variable {pushdown : Pushdown}

/-- Only filters without children put lists into predicates. -/
theorem Origin.mono {part filter : Filter}
    (h : ∀ leaf : Filter, leaf.children = [] → leaf.StandsIn part → leaf.StandsIn filter)
    {m : Membership} (horigin : pushdown.Origin part m) : pushdown.Origin filter m := by
  cases horigin with
  | excluded some_name => exact .excluded some_name
  | attributes stands some_name => exact .attributes (h _ rfl stands) some_name
  | targets stands specific => exact .targets (h _ rfl stands) specific
  | resolved stands hmem hcondition hlookups hresolved =>
      exact .resolved (h _ rfl stands) hmem hcondition hlookups hresolved

theorem Origin.of_child {child filter : Filter} (hmem : child ∈ filter.children) {m : Membership}
    (horigin : pushdown.Origin child m) : pushdown.Origin filter m :=
  horigin.mono fun _ _ h => .under hmem h

/-! ### Tests -/

section

variable {P : Membership → Prop} {excluded : ExcludedAttributes}

theorem notExcluded_lists (hexcluded : excluded.names ≠ [] → P (.names excluded.names)) :
    (notExcluded excluded).Lists P := by
  rw [notExcluded]
  split
  · exact Formula.eachTest_const true
  · next h =>
      have hnames : excluded.names ≠ [] := fun hnil => h (List.isEmpty_iff.2 hnil)
      exact Formula.eachTest_negate
        (Formula.eachTest_atom (List.forall_mem_singleton.2 (hexcluded hnames)))

theorem relevantChange_lists (hexcluded : excluded.names ≠ [] → P (.names excluded.names)) :
    ∀ part ∈ relevantChange excluded, part.Lists P := by
  rw [relevantChange, List.forall_mem_cons, List.forall_mem_singleton]
  exact ⟨Formula.eachTest_atom (List.forall_mem_nil _), notExcluded_lists hexcluded⟩

theorem candidates_lists {diff : AttributeDiff}
    (hexcluded : excluded.names ≠ [] → P (.names excluded.names))
    (hnames : diff.names ≠ [] → P (.names (diff.names.map Text.lowercase))) :
    (candidates excluded diff).Lists P := by
  refine Formula.eachTest_all (List.forall_mem_append.2 ⟨?_, ?_⟩)
  · split
    · exact relevantChange_lists hexcluded
    · exact List.forall_mem_nil _
  · split
    · exact List.forall_mem_nil _
    · next h =>
        have hne : diff.names ≠ [] := fun hnil => h (List.isEmpty_iff.2 hnil)
        exact List.forall_mem_singleton.2
          (Formula.eachTest_atom (List.forall_mem_singleton.2 (hnames hne)))

theorem targets_lists {diff : AttributeDiff}
    (h : diff.mode = .specific → P (.targets (diff.targets.map Text.lowercase))) :
    ∀ m ∈ (targets diff).memberships, P m := by
  rw [targets]
  split
  · exact List.forall_mem_nil _
  · next hmode => exact List.forall_mem_singleton.2 (h hmode)

theorem criterion_lists (test : LayerCriterion)
    (hexcluded : excluded.names ≠ [] → P (.names excluded.names))
    (hdiff : ∀ diff, test = .differs diff →
      (diff.names ≠ [] → P (.names (diff.names.map Text.lowercase))) ∧
      (diff.mode = .specific → P (.targets (diff.targets.map Text.lowercase)))) :
    (criterion excluded test).Lists P := by
  cases test with
  | managed _ | publisher _ _ | condition _ =>
      exact Formula.eachTest_atom
        (LayerTest.lists_of_memberships_eq_nil (by rw [LayerTest.memberships]))
  | holdsAttribute name operator value type =>
      refine Formula.EachTest.someAttribute (Formula.eachTest_all ?_)
      rw [List.forall_mem_cons, List.forall_mem_cons, List.forall_mem_singleton]
      refine ⟨Formula.eachTest_atom (List.forall_mem_nil _),
        Formula.eachTest_atom (List.forall_mem_nil _), ?_⟩
      cases type with
      | none => exact Formula.eachTest_const true
      | some type => exact Formula.eachTest_atom (List.forall_mem_nil _)
  | changes solution =>
      refine Formula.eachTest_all ?_
      rw [List.forall_mem_cons, List.forall_mem_singleton]
      refine ⟨?_, Formula.EachTest.someAttribute
        (Formula.eachTest_all (relevantChange_lists hexcluded))⟩
      cases solution with
      | none => exact Formula.eachTest_const true
      | some solution => exact named_lists solution
  | differs diff =>
      obtain ⟨hnames, htargets⟩ := hdiff diff rfl
      refine Formula.eachTest_all ?_
      rw [List.forall_mem_cons, List.forall_mem_singleton]
      refine ⟨named_lists diff.source, Formula.eachTest_atom ?_⟩
      rw [LayerTest.Lists, LayerTest.memberships, List.forall_mem_append]
      exact ⟨AttributePredicate.forall_mem_memberships.2 (candidates_lists hexcluded hnames),
        targets_lists htargets⟩
  | isOf solution => exact named_lists solution

theorem eachTest_quantified {α : Type} {tests : α → Prop} {parts : List (Formula α)}
    (quantifier : Quantifier) (h : ∀ part ∈ parts, part.EachTest tests) :
    (quantified quantifier parts).EachTest tests := by
  cases quantifier with
  | any => exact Formula.eachTest_any h
  | all => exact Formula.eachTest_all h
  | none => exact Formula.eachTest_negate (Formula.eachTest_any h)

theorem layerOf_lists (solution : String) {predicate : LayerPredicate} (h : predicate.Lists P) :
    LayerPredicate.Lists P (Formula.all [named solution, predicate]) :=
  Formula.eachTest_all
    (List.forall_mem_cons.2 ⟨named_lists solution, List.forall_mem_singleton.2 h⟩)

/-! ### Sequences -/

theorem bounds_lists (lookups : Lookups) (before after : List Step) :
    ∀ part ∈ bounds lookups before after, part.Lists P := by
  refine List.forall_mem_append.2 ⟨?_, ?_⟩
  · exact List.forall_mem_map.2 fun bound _ => Formula.eachTest_atom
      (LayerTest.lists_of_memberships_eq_nil (by rw [LayerTest.memberships]))
  · exact List.forall_mem_map.2 fun bound _ => Formula.eachTest_atom
      (LayerTest.lists_of_memberships_eq_nil (by rw [LayerTest.memberships]))

theorem narrowStep_lists {lookups : Option Lookups} (before : List Step) {step : Step}
    (after : List Step)
    (h : ∀ raw condition tables solutions, step = .dynamic raw → raw.condition? = some condition →
      lookups = some tables → tables.resolved? condition = some solutions →
      P (.solutions solutions)) :
    ∀ part ∈ narrowStep lookups before step after, part.Lists P := by
  cases step with
  | literal solution =>
      refine List.forall_mem_singleton.2 (Formula.EachTest.someLayer
        (Formula.eachTest_all (List.forall_mem_cons.2 ⟨named_lists solution, ?_⟩)))
      cases lookups with
      | none => exact List.forall_mem_nil _
      | some lookups => exact bounds_lists lookups before after
  | choice solutions =>
      exact List.forall_mem_singleton.2 (Formula.eachTest_any
        (List.forall_mem_map.2 fun solution _ => hasLayerOf_lists solution))
  | dynamic raw =>
      simp only [narrowStep]
      split
      · next tables condition hcondition =>
          refine List.forall_mem_map.2 fun solutions hresolved => ?_
          refine Formula.EachTest.someLayer (Formula.eachTest_atom ?_)
          rw [LayerTest.Lists, LayerTest.memberships]
          exact List.forall_mem_singleton.2 (h raw condition tables solutions rfl hcondition rfl
            (Option.mem_toList.1 hresolved))
      · exact List.forall_mem_nil _

theorem narrowSteps_lists {lookups : Option Lookups} (before : List Step) {steps : List Step}
    (h : ∀ raw condition tables solutions, .dynamic raw ∈ steps → raw.condition? = some condition →
      lookups = some tables → tables.resolved? condition = some solutions →
      P (.solutions solutions)) :
    ∀ part ∈ narrowSteps lookups before steps, part.Lists P := by
  induction steps generalizing before with
  | nil => exact List.forall_mem_nil _
  | cons step steps ih =>
      refine List.forall_mem_append.2 ⟨narrowStep_lists before steps ?_, ih _ ?_⟩
      · intro raw condition tables solutions hstep
        exact h raw condition tables solutions (hstep ▸ List.mem_cons_self)
      · intro raw condition tables solutions hmem
        exact h raw condition tables solutions (List.mem_cons_of_mem _ hmem)

end

/-! ### Filters -/

theorem sequence_lists (pushdown : Pushdown) (mode : SequenceMode) (steps : List Step)
    (polarity : Polarity) :
    (sequence pushdown.lookups steps polarity).Lists (pushdown.Origin (.sequence mode steps)) := by
  cases polarity with
  | positive =>
      exact Formula.eachTest_all (narrowSteps_lists [] fun _ _ _ _ hmem => .resolved .self hmem)
  | negative => exact Formula.eachTest_const false

theorem criterion_lists_origin (pushdown : Pushdown) (test : LayerCriterion) :
    (criterion pushdown.excluded test).Lists (pushdown.Origin (.layer test)) := by
  refine criterion_lists test .excluded fun diff htest => ?_
  subst htest
  exact ⟨.attributes .self, .targets .self⟩

variable (pushdown : Pushdown)

/-- A list in the predicate of a child comes from the filter that the child stands under. -/
theorem lists_of_child {α : Type} {memberships : α → List Membership} {child filter : Filter}
    (hmem : child ∈ filter.children) {predicate : Formula α}
    (h : predicate.EachTest fun test => ∀ m ∈ memberships test, pushdown.Origin child m) :
    predicate.EachTest fun test => ∀ m ∈ memberships test, pushdown.Origin filter m :=
  h.imp fun _ htest m hlist => (htest m hlist).of_child hmem

theorem layer_lists (filter : Filter) (polarity : Polarity) :
    (pushdown.layer filter polarity).Lists (pushdown.Origin filter) := by
  induction filter using Filter.induction generalizing polarity with
  | component test =>
      rw [layer]
      exact test.predicate_lists.ofOwner
  | layer test =>
      rw [layer]
      exact pushdown.criterion_lists_origin test
  | solutions quantifier names =>
      rw [layer]
      exact eachTest_quantified quantifier (List.forall_mem_map.2 fun name _ => named_lists name)
  | sequence mode steps =>
      rw [layer]
      exact (pushdown.sequence_lists mode steps polarity).ofOwner
  | anyLayerAlone | notAlone | unknown =>
      rw [layer]
      exact Formula.eachTest_const _
  | anyLayer child ih =>
      rw [layer]
      exact (pushdown.lists_of_child List.mem_cons_self (ih polarity)).someLayer.ofOwner
  | layerOfAlone solution =>
      rw [layer]
      exact layerOf_lists solution (Formula.eachTest_const true)
  | layerOf solution child ih =>
      rw [layer]
      exact layerOf_lists solution (pushdown.lists_of_child List.mem_cons_self (ih polarity))
  | all children ih =>
      rw [layer, layers_eq_map]
      exact Formula.eachTest_all (List.forall_mem_map.2 fun child hmem =>
        pushdown.lists_of_child hmem (ih child hmem polarity))
  | any children ih =>
      rw [layer, layers_eq_map]
      exact Formula.eachTest_any (List.forall_mem_map.2 fun child hmem =>
        pushdown.lists_of_child hmem (ih child hmem polarity))
  | not child ih =>
      rw [layer]
      exact Formula.eachTest_negate
        (pushdown.lists_of_child List.mem_cons_self (ih polarity.flip))

theorem component_lists (filter : Filter) (polarity : Polarity) :
    (pushdown.component filter polarity).Lists (pushdown.Origin filter) := by
  induction filter using Filter.induction generalizing polarity with
  | component test =>
      rw [component]
      exact test.predicate_lists
  | layer test =>
      rw [component]
      exact (pushdown.criterion_lists_origin test).someLayer
  | solutions quantifier names =>
      rw [component]
      exact eachTest_quantified quantifier
        (List.forall_mem_map.2 fun name _ => hasLayerOf_lists name)
  | sequence mode steps =>
      rw [component]
      exact pushdown.sequence_lists mode steps polarity
  | anyLayerAlone | notAlone | unknown =>
      rw [component]
      exact Formula.eachTest_const _
  | anyLayer child _ =>
      rw [component]
      exact (pushdown.lists_of_child List.mem_cons_self
        (pushdown.layer_lists child polarity)).someLayer
  | layerOfAlone solution =>
      rw [component]
      exact (layerOf_lists solution (Formula.eachTest_const true)).someLayer
  | layerOf solution child _ =>
      rw [component]
      exact (layerOf_lists solution (pushdown.lists_of_child List.mem_cons_self
        (pushdown.layer_lists child polarity))).someLayer
  | all children ih =>
      rw [component, components_eq_map]
      exact Formula.eachTest_all (List.forall_mem_map.2 fun child hmem =>
        pushdown.lists_of_child hmem (ih child hmem polarity))
  | any children ih =>
      rw [component, components_eq_map]
      exact Formula.eachTest_any (List.forall_mem_map.2 fun child hmem =>
        pushdown.lists_of_child hmem (ih child hmem polarity))
  | not child ih =>
      rw [component]
      exact Formula.eachTest_negate
        (pushdown.lists_of_child List.mem_cons_self (ih polarity.flip))

/-- Every list in the predicate of a filter has its origin in the filter. -/
theorem origin_of_mem_memberships {filter : Filter} {m : Membership}
    (h : m ∈ ComponentPredicate.memberships (pushdown.predicate (some filter))) :
    pushdown.Origin filter m :=
  ComponentPredicate.forall_mem_memberships.2 (pushdown.component_lists filter .positive) m h

end Pushdown

/-! ### Plans

Ranking moves filters and division leaves some out, so a filter without children that a plan pushes
to the store stands in the filter that the plan was made of. -/

namespace Filter

variable {leaf filter : Filter}

theorem ranked_eq_self_of_children (h : filter.ranked.children = []) : filter.ranked = filter := by
  have hchildren : filter.children = [] := by
    have hperm := filter.children_ranked
    rw [h] at hperm
    exact List.map_eq_nil_iff.1 hperm.symm.eq_nil
  cases filter with
  | component _ | layer _ | solutions _ _ | sequence _ _ | unknown => rfl
  | all children | any children =>
      obtain rfl : children = [] := hchildren
      rfl
  | anyLayer child | layerOf _ child | not child =>
      cases child with
      | none => rfl
      | some child => cases hchildren

theorem standsIn_of_ranked (hleaf : leaf.children = []) (h : leaf.StandsIn filter.ranked) :
    leaf.StandsIn filter := by
  induction filter using induction_children with
  | step filter ih =>
      rcases standsIn_iff.1 h with rfl | ⟨child, hmem, h⟩
      · rw [ranked_eq_self_of_children hleaf]
        exact .self
      · obtain ⟨under, hunder, rfl⟩ := List.mem_map.1 (filter.children_ranked.mem_iff.1 hmem)
        exact .under hunder (ih under hunder h)

end Filter

namespace Plan

variable {config : Config} {leaf filter pushed : Filter}

theorem standsIn_planned (hleaf : leaf.children = []) (h : leaf.StandsIn (planned config filter)) :
    leaf.StandsIn filter := by
  rw [planned] at h
  split at h
  · exact Filter.standsIn_of_ranked hleaf h
  · exact h

theorem standsIn_conjunction {children : List Filter} (hleaf : leaf.children = [])
    (hne : children ≠ []) (h : leaf.StandsIn (conjunction children)) :
    ∃ child ∈ children, leaf.StandsIn child := by
  match children, hne with
  | [child], _ => exact ⟨child, List.mem_cons_self, h⟩
  | first :: second :: rest, _ =>
      rcases Filter.standsIn_iff.1 h with rfl | hunder
      · cases hleaf
      · exact hunder

theorem standsIn_pushdown_divide (hleaf : leaf.children = [])
    (hpushed : (divide config.excluded filter).pushdown = some pushed)
    (h : leaf.StandsIn pushed) : leaf.StandsIn filter := by
  cases filter with
  | all children =>
      rw [divide] at hpushed
      split at hpushed
      · cases hpushed
      · next hne =>
          obtain rfl := Option.some.inj hpushed
          obtain ⟨child, hmem, hchild⟩ :=
            standsIn_conjunction hleaf (fun hnil => hne (List.isEmpty_iff.2 hnil)) h
          exact .under (List.mem_filter.1 hmem).1 hchild
  | _ => cases hpushed

theorem standsIn_pushdown (hleaf : leaf.children = [])
    (hpushed : (make config (some filter)).pushdown = some pushed) (h : leaf.StandsIn pushed) :
    leaf.StandsIn filter := by
  suffices hplanned : leaf.StandsIn (planned config filter) from standsIn_planned hleaf hplanned
  rw [make_eq, ofFilter] at hpushed
  split at hpushed
  · cases hpushed
  · cases hcapability : (planned config filter).capability with
    | full | hybrid =>
        simp only [hcapability] at hpushed
        rw [Option.some.inj hpushed]
        exact h
    | inMemory =>
        simp only [hcapability] at hpushed
        exact standsIn_pushdown_divide hleaf hpushed h

end Plan

end Strata
