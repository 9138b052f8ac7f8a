import Strata.Proofs.Criteria
import Strata.Proofs.Narrowing

/-!
# One meaning for filters and predicates

A filter and the predicate it becomes differ in two places. A sequence is walked by the one and
narrowed by the other, and an unknown filter is false for the one and a constant of its side for the
other. All else means the same, in the scope of a component and in that of a layer alike.

So both are cases of one evaluation that is given the answers for sequences and for unknown filters:
`Filter.valueIn`. What holds of it holds of filters (`holdsIn_eq_valueIn`) and of predicates
(`holds_component_eq_valueIn`, `holds_layer_eq_valueIn`) at once, and the two scopes need no proofs
of their own.
-/

namespace Strata

/-! ## Induction on filters -/

/-- What holds of a filter whenever it holds of those directly under it holds of every filter. -/
@[elab_as_elim]
theorem Filter.induction {motive : Filter → Prop}
    (component : ∀ test, motive (.component test))
    (layer : ∀ test, motive (.layer test))
    (solutions : ∀ quantifier names, motive (.solutions quantifier names))
    (sequence : ∀ mode steps, motive (.sequence mode steps))
    (anyLayerAlone : motive (.anyLayer none))
    (anyLayer : ∀ child, motive child → motive (.anyLayer (some child)))
    (layerOfAlone : ∀ solution, motive (.layerOf solution none))
    (layerOf : ∀ solution child, motive child → motive (.layerOf solution (some child)))
    (all : ∀ children, (∀ child ∈ children, motive child) → motive (.all children))
    (any : ∀ children, (∀ child ∈ children, motive child) → motive (.any children))
    (notAlone : motive (.not none))
    (not : ∀ child, motive child → motive (.not (some child)))
    (unknown : motive .unknown)
    (filter : Filter) : motive filter := by
  -- Filters stand in options and lists under filters, so the induction is on the size.
  induction hsize : sizeOf filter using Nat.strongRecOn generalizing filter with
  | _ size ih =>
      subst hsize
      have hchildren : ∀ children : List Filter, sizeOf children < sizeOf filter →
          ∀ child ∈ children, motive child := fun children hlt child hmem =>
        ih _ (Nat.lt_trans (List.sizeOf_lt_of_mem hmem) hlt) child rfl
      match filter with
      | .component test => exact component test
      | .layer test => exact layer test
      | .solutions quantifier names => exact solutions quantifier names
      | .sequence mode steps => exact sequence mode steps
      | .anyLayer none => exact anyLayerAlone
      | .anyLayer (some child) => exact anyLayer child (ih _ (by simp; omega) child rfl)
      | .layerOf solution none => exact layerOfAlone solution
      | .layerOf solution (some child) =>
          exact layerOf solution child (ih _ (by simp; omega) child rfl)
      | .all children => exact all children (hchildren children (by simp))
      | .any children => exact any children (hchildren children (by simp))
      | .not none => exact notAlone
      | .not (some child) => exact not child (ih _ (by simp; omega) child rfl)
      | .unknown => exact unknown

/-! ## The evaluation -/

/-- The answers that an evaluation is given: for sequences and for unknown filters, by the polarity
of their places. -/
structure Interpretation where
  sequence : SequenceMode → List Step → Polarity → Bool
  unknown : Polarity → Bool

namespace Filter

section

variable (interpretation : Interpretation) (excluded : ExcludedAttributes) (component : Component)

mutual

/-- The value of a filter in a place of some polarity and in a scope. -/
def valueIn : Filter → Polarity → Scope → Bool
  | .component test, _, _ => test.holds component
  | .layer test, _, scope => scope.someLayer component (test.holds excluded component)
  | .solutions quantifier names, _, scope =>
    quantifier.holds names fun name => scope.someLayer component fun layer => layer.isOf name
  | .sequence mode steps, polarity, _ => interpretation.sequence mode steps polarity
  | .anyLayer none, _, _ => true
  | .anyLayer (some child), polarity, _ =>
    component.layers.any fun layer => valueIn child polarity (.layer layer)
  | .layerOf solution none, _, scope => scope.someLayer component fun layer => layer.isOf solution
  | .layerOf solution (some child), polarity, scope =>
    scope.someLayer component fun layer =>
      layer.isOf solution && valueIn child polarity (.layer layer)
  | .all children, polarity, scope => allValuesIn children polarity scope
  | .any children, polarity, scope => anyValueIn children polarity scope
  | .not none, _, _ => true
  | .not (some child), polarity, scope => !valueIn child polarity.flip scope
  | .unknown, polarity, _ => interpretation.unknown polarity

/-- Whether the values of all of some filters are true. -/
def allValuesIn : List Filter → Polarity → Scope → Bool
  | [], _, _ => true
  | child :: rest, polarity, scope =>
    valueIn child polarity scope && allValuesIn rest polarity scope

/-- Whether the value of one of some filters is true. -/
def anyValueIn : List Filter → Polarity → Scope → Bool
  | [], _, _ => false
  | child :: rest, polarity, scope =>
    valueIn child polarity scope || anyValueIn rest polarity scope

end

end

/-! ### Lists of filters

The recursions through lists of filters are `all`, `any` and `map`. -/

section

variable {interpretation : Interpretation} {excluded : ExcludedAttributes} {component : Component}

theorem allValuesIn_eq (filters : List Filter) (polarity : Polarity) (scope : Scope) :
    allValuesIn interpretation excluded component filters polarity scope
      = filters.all fun filter =>
        filter.valueIn interpretation excluded component polarity scope := by
  induction filters with
  | nil => rfl
  | cons filter filters ih => rw [allValuesIn, List.all_cons, ih]

theorem anyValueIn_eq (filters : List Filter) (polarity : Polarity) (scope : Scope) :
    anyValueIn interpretation excluded component filters polarity scope
      = filters.any fun filter =>
        filter.valueIn interpretation excluded component polarity scope := by
  induction filters with
  | nil => rfl
  | cons filter filters ih => rw [anyValueIn, List.any_cons, ih]

theorem allHoldIn_eq (filters : List Filter) (scope : Scope) :
    allHoldIn excluded component filters scope
      = filters.all fun filter => holdsIn excluded component filter scope := by
  induction filters with
  | nil => rfl
  | cons filter filters ih => rw [allHoldIn, List.all_cons, ih]

theorem anyHoldsIn_eq (filters : List Filter) (scope : Scope) :
    anyHoldsIn excluded component filters scope
      = filters.any fun filter => holdsIn excluded component filter scope := by
  induction filters with
  | nil => rfl
  | cons filter filters ih => rw [anyHoldsIn, List.any_cons, ih]

end

end Filter

namespace Pushdown

variable {pushdown : Pushdown}

theorem components_eq_map (filters : List Filter) (polarity : Polarity) :
    pushdown.components filters polarity
      = filters.map fun filter => pushdown.component filter polarity := by
  induction filters with
  | nil => rfl
  | cons filter filters ih => rw [components, List.map_cons, ih]

theorem layers_eq_map (filters : List Filter) (polarity : Polarity) :
    pushdown.layers filters polarity
      = filters.map fun filter => pushdown.layer filter polarity := by
  induction filters with
  | nil => rfl
  | cons filter filters ih => rw [layers, List.map_cons, ih]

end Pushdown

section

variable {α : Type} {list : List α} {f g : α → Bool}

theorem all_congr_of_mem (h : ∀ a ∈ list, f a = g a) : list.all f = list.all g := by
  rw [Bool.eq_iff_iff, List.all_eq_true, List.all_eq_true]
  exact forall₂_congr fun a hmem => by rw [h a hmem]

theorem any_congr_of_mem (h : ∀ a ∈ list, f a = g a) : list.any f = list.any g := by
  rw [Bool.eq_iff_iff, List.any_eq_true, List.any_eq_true]
  exact exists_congr fun a => and_congr_right fun hmem => by rw [h a hmem]

end

/-! ## Filters -/

/-- The answers that filters themselves go by. -/
def Component.interpretation (component : Component) : Interpretation where
  sequence mode steps _ := mode.accepts steps component.layers
  unknown _ := false

theorem Filter.holdsIn_eq_valueIn {excluded : ExcludedAttributes} {component : Component}
    (filter : Filter) (polarity : Polarity) (scope : Scope) :
    holdsIn excluded component filter scope
      = filter.valueIn component.interpretation excluded component polarity scope := by
  induction filter using Filter.induction generalizing polarity scope with
  | component _ | layer _ | solutions _ _ | sequence _ _ | anyLayerAlone | layerOfAlone _
  | notAlone | unknown => rw [holdsIn, valueIn] <;> rfl
  | anyLayer child ih =>
      rw [holdsIn, valueIn]
      exact List.any_congr rfl fun layer => ih polarity (.layer layer)
  | layerOf solution child ih =>
      rw [holdsIn, valueIn]
      simp only [ih polarity]
  | all children ih =>
      rw [holdsIn, valueIn, allHoldIn_eq, allValuesIn_eq]
      exact all_congr_of_mem fun child hmem => ih child hmem polarity scope
  | any children ih =>
      rw [holdsIn, valueIn, anyHoldsIn_eq, anyValueIn_eq]
      exact any_congr_of_mem fun child hmem => ih child hmem polarity scope
  | not child ih => rw [holdsIn, valueIn, ih polarity.flip scope]

theorem Filter.holds_eq_valueIn {excluded : ExcludedAttributes} {component : Component}
    (filter : Filter) :
    filter.holds excluded component
      = filter.valueIn component.interpretation excluded component .positive .component :=
  filter.holdsIn_eq_valueIn .positive .component

/-! ## Predicates -/

section

variable {component : Component}

theorem Quantifier.holds_component (quantifier : Quantifier) (names : List String) :
    ComponentPredicate.holds component (Pushdown.quantified quantifier (names.map hasLayerOf))
      = quantifier.holds names fun name => component.layers.any fun layer => layer.isOf name := by
  have hpart : (Formula.eval (ComponentTest.holds component) ∘ hasLayerOf)
      = fun name => component.layers.any fun layer => layer.isOf name := by
    funext name
    rw [Function.comp_apply, ← ComponentPredicate.holds_eq_eval, holds_hasLayerOf]
  rw [ComponentPredicate.holds_eq_eval, Pushdown.eval_quantified]
  cases quantifier <;> simp only [holds, List.any_map, List.all_map, hpart]

theorem Quantifier.holds_layer {layer : Layer} (quantifier : Quantifier) (names : List String) :
    LayerPredicate.holds component (Pushdown.quantified quantifier (names.map named)) layer
      = quantifier.holds names fun name => layer.isOf name := by
  have hpart : (Formula.eval (fun test => LayerTest.holds component test layer) ∘ named)
      = fun name => layer.isOf name := by
    funext name
    rw [Function.comp_apply, ← LayerPredicate.holds_eq_eval, LayerPredicate.holds_named]
  rw [LayerPredicate.holds_eq_eval, Pushdown.eval_quantified]
  cases quantifier <;> simp only [holds, List.any_map, List.all_map, hpart]

end

namespace Pushdown

variable {pushdown : Pushdown} {component : Component}

/-- The answers that the predicates made with some lookups go by. -/
def interpretation (pushdown : Pushdown) (component : Component) : Interpretation where
  sequence _ steps polarity :=
    ComponentPredicate.holds component (sequence pushdown.lookups steps polarity)
  unknown := Polarity.widest

theorem holds_layerOf {solution : String} {predicate : LayerPredicate} {layer : Layer} :
    LayerPredicate.holds component (Formula.all [named solution, predicate]) layer
      = (layer.isOf solution && LayerPredicate.holds component predicate layer) := by
  rw [LayerPredicate.holds_all, List.all_cons, List.all_cons, List.all_nil, Bool.and_true,
    LayerPredicate.holds_named]

theorem holds_layerOf_true {solution : String} {layer : Layer} :
    LayerPredicate.holds component (Formula.all [named solution, .const true]) layer
      = layer.isOf solution := by
  rw [holds_layerOf, LayerPredicate.holds, Bool.and_true]

/-- What the predicate of a filter says of a layer is the value of the filter in its scope. -/
theorem holds_layer_eq_valueIn (filter : Filter) (polarity : Polarity) (layer : Layer) :
    LayerPredicate.holds component (pushdown.layer filter polarity) layer
      = filter.valueIn (pushdown.interpretation component) pushdown.excluded component polarity
          (.layer layer) := by
  induction filter using Filter.induction generalizing polarity layer with
  | component test =>
      rw [Pushdown.layer, Filter.valueIn, ComponentPredicate.holds_ofOwner]
      exact ComponentCriterion.holds_predicate test
  | layer test =>
      rw [Pushdown.layer, Filter.valueIn]
      exact LayerCriterion.holds_criterion test
  | solutions quantifier names =>
      rw [Pushdown.layer, Filter.valueIn]
      exact Quantifier.holds_layer quantifier names
  | sequence mode steps =>
      rw [Pushdown.layer, Filter.valueIn, ComponentPredicate.holds_ofOwner]
      rfl
  | anyLayerAlone | notAlone | unknown =>
      rw [Pushdown.layer, Filter.valueIn, LayerPredicate.holds] <;> rfl
  | anyLayer child ih =>
      rw [Pushdown.layer, Filter.valueIn, ComponentPredicate.holds_ofOwner,
        LayerPredicate.holds_someLayer]
      exact List.any_congr rfl fun other => ih polarity other
  | layerOfAlone solution =>
      rw [Pushdown.layer, Filter.valueIn]
      exact holds_layerOf_true
  | layerOf solution child ih =>
      rw [Pushdown.layer, Filter.valueIn, holds_layerOf, ih]
      rfl
  | all children ih =>
      rw [Pushdown.layer, Filter.valueIn, LayerPredicate.holds_all, layers_eq_map, List.all_map,
        Filter.allValuesIn_eq]
      exact all_congr_of_mem fun child hmem => ih child hmem polarity layer
  | any children ih =>
      rw [Pushdown.layer, Filter.valueIn, LayerPredicate.holds_any, layers_eq_map, List.any_map,
        Filter.anyValueIn_eq]
      exact any_congr_of_mem fun child hmem => ih child hmem polarity layer
  | not child ih => rw [Pushdown.layer, Filter.valueIn, LayerPredicate.holds_negate, ih]

theorem holds_component_eq_valueIn (filter : Filter) (polarity : Polarity) :
    ComponentPredicate.holds component (pushdown.component filter polarity)
      = filter.valueIn (pushdown.interpretation component) pushdown.excluded component polarity
          .component := by
  induction filter using Filter.induction generalizing polarity with
  | component test =>
      rw [Pushdown.component, Filter.valueIn]
      exact ComponentCriterion.holds_predicate test
  | layer test =>
      rw [Pushdown.component, Filter.valueIn, LayerPredicate.holds_someLayer]
      exact List.any_congr rfl fun _ => LayerCriterion.holds_criterion test
  | solutions quantifier names =>
      rw [Pushdown.component, Filter.valueIn]
      exact Quantifier.holds_component quantifier names
  | sequence mode steps =>
      rw [Pushdown.component, Filter.valueIn]
      rfl
  | anyLayerAlone | notAlone | unknown =>
      rw [Pushdown.component, Filter.valueIn, ComponentPredicate.holds] <;> rfl
  -- The child is in the scope of a layer here, so it is the lemma above that applies to it.
  | anyLayer child _ =>
      rw [Pushdown.component, Filter.valueIn, LayerPredicate.holds_someLayer]
      exact List.any_congr rfl fun layer => holds_layer_eq_valueIn child polarity layer
  | layerOfAlone solution =>
      rw [Pushdown.component, Filter.valueIn, LayerPredicate.holds_someLayer]
      exact List.any_congr rfl fun _ => holds_layerOf_true
  | layerOf solution child _ =>
      rw [Pushdown.component, Filter.valueIn, LayerPredicate.holds_someLayer]
      refine List.any_congr rfl fun layer => ?_
      rw [holds_layerOf, holds_layer_eq_valueIn]
  | all children ih =>
      rw [Pushdown.component, Filter.valueIn, ComponentPredicate.holds_all, components_eq_map,
        List.all_map, Filter.allValuesIn_eq]
      exact all_congr_of_mem fun child hmem => ih child hmem polarity
  | any children ih =>
      rw [Pushdown.component, Filter.valueIn, ComponentPredicate.holds_any, components_eq_map,
        List.any_map, Filter.anyValueIn_eq]
      exact any_congr_of_mem fun child hmem => ih child hmem polarity
  | not child ih => rw [Pushdown.component, Filter.valueIn, ComponentPredicate.holds_negate, ih]

theorem holds_predicate_eq_valueIn (filter : Filter) :
    ComponentPredicate.holds component (pushdown.predicate (some filter))
      = filter.valueIn (pushdown.interpretation component) pushdown.excluded component .positive
          .component :=
  holds_component_eq_valueIn filter .positive

end Pushdown

end Strata
