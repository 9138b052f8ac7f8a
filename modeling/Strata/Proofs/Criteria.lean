import Strata.Filter.Semantics
import Strata.Proofs.Connectives
import Strata.Proofs.LikeMatching

/-!
# Tests of components and layers are pushed down exactly

Each criterion of a filter and the predicate it becomes were written apart: the one compares texts
by their operators, the other by text tests and by lists of lowercase names; the one asks of
attributes whether all of them differ, the other whether some has a counterpart. They agree on every
component and every layer, whatever attributes are excluded.
-/

namespace Strata

variable {component : Component} {layer : Layer} {excluded : ExcludedAttributes}

theorem ComponentCriterion.holds_predicate (test : ComponentCriterion) :
    ComponentPredicate.holds component test.predicate = test.holds component := by
  cases test with
  | field column operator value =>
      rw [predicate, ComponentPredicate.holds, ComponentTest.holds, holds,
        TextTest.holds_ofOperator]
  | type value =>
      rw [predicate, ComponentPredicate.holds, ComponentTest.holds]
      rfl

theorem LayerPredicate.holds_solution (column : LayerField) (operator : Operator)
    (value : String) :
    LayerPredicate.holds component (.atom (.solution column (.ofOperator operator value))) layer
      = operator.apply (column.get layer) value := by
  rw [LayerPredicate.holds, LayerTest.holds, TextTest.holds_ofOperator]

/-! ## Attributes -/

theorem ExcludedAttributes.contains_of_isEmpty (h : excluded.isEmpty = true) (name : String) :
    excluded.contains name = false := by
  rw [contains, List.isEmpty_iff.1 h]
  rfl

theorem AttributePredicate.holds_notExcluded (a : LayerAttribute) :
    holds (Pushdown.notExcluded excluded) a = !excluded.contains a.name := by
  rw [Pushdown.notExcluded]
  split
  · next h => rw [ExcludedAttributes.contains_of_isEmpty h]; rfl
  · rw [holds, Formula.eval_negate]
    rfl

theorem AttributePredicate.all_relevantChange (a : LayerAttribute) :
    (Pushdown.relevantChange excluded).all (Formula.eval (AttributeTest.holds a))
      = a.isRelevantChange excluded := by
  have hchanged : (a.changed == true) = a.changed := by cases a.changed <;> rfl
  rw [Pushdown.relevantChange, List.all_cons, List.all_cons, List.all_nil, Bool.and_true,
    LayerAttribute.isRelevantChange, ← holds_notExcluded, Formula.eval, AttributeTest.holds,
    hchanged]
  rfl

theorem AttributePredicate.holds_candidates (diff : AttributeDiff) (a : LayerAttribute) :
    holds (Pushdown.candidates excluded diff) a = diff.isCandidate excluded a := by
  rw [holds, Pushdown.candidates, Formula.eval_all, List.all_append, AttributeDiff.isCandidate]
  congr 1
  · cases diff.onlyChanged with
    | true => exact all_relevantChange a
    | false => rfl
  · cases hnames : diff.names.isEmpty with
    | true => rfl
    | false =>
        rw [if_neg Bool.false_ne_true, List.all_cons, List.all_nil, Bool.and_true, Bool.false_or,
          Formula.eval, AttributeTest.holds, Text.contains_map_lowercase]

/-! ## Differences -/

theorem DiffTargets.includes_targets (diff : AttributeDiff) (source layer : Layer) :
    (Pushdown.targets diff).includes source layer = diff.isTarget source layer := by
  rw [Pushdown.targets, AttributeDiff.isTarget]
  cases diff.mode with
  | allBelow => rfl
  | specific =>
      simp only [includes]
      rw [Text.contains_map_lowercase]
      rfl

theorem LayerAttribute.not_hasCounterpartIn (a : LayerAttribute) (layers : List Layer) :
    (!a.hasCounterpartIn layers)
      = layers.all fun layer => layer.attributes.all fun b => !a.isCounterpart b := by
  simp only [hasCounterpartIn, isCounterpart, Text.lowercase_beq, List.not_any_eq_all_not]

theorem MatchLogic.lacksCounterparts_eq (diff : AttributeDiff) :
    (layer.isOf diff.source && diff.logic.lacksCounterparts (Pushdown.candidates excluded diff)
      (Pushdown.targets diff) component layer)
      = diff.holds excluded component layer := by
  have hselected : AttributePredicate.holds (Pushdown.candidates excluded diff)
      = diff.isCandidate excluded := funext (AttributePredicate.holds_candidates diff)
  have htargets : (Pushdown.targets diff).includes layer = diff.isTarget layer :=
    funext (DiffTargets.includes_targets diff layer)
  rw [lacksCounterparts.eq_def, AttributeDiff.holds, hselected, htargets]
  cases diff.logic with
  | any => simp only [LayerAttribute.not_hasCounterpartIn]
  | all => simp only [LayerAttribute.not_hasCounterpartIn]

/-! ## Criteria -/

/-- A layer satisfies the predicate of a criterion exactly if it passes the criterion. -/
theorem LayerCriterion.holds_criterion (test : LayerCriterion) :
    LayerPredicate.holds component (Pushdown.criterion excluded test) layer
      = test.holds excluded component layer := by
  cases test with
  | managed value => rw [Pushdown.criterion, LayerPredicate.holds, LayerTest.holds, holds]
  | publisher operator value =>
      rw [Pushdown.criterion, LayerPredicate.holds_solution, holds]
  | condition condition =>
      rw [Pushdown.criterion, LayerCondition.predicate, LayerPredicate.holds_solution, holds,
        Layer.satisfies]
  | holdsAttribute name operator value type =>
      rw [Pushdown.criterion, LayerPredicate.holds_someAttribute, holds]
      congr 1
      funext a
      rw [AttributePredicate.holds, Formula.eval_all, List.all_cons, List.all_cons, List.all_cons,
        List.all_nil, Bool.and_true, Formula.eval, Formula.eval, AttributeTest.holds,
        AttributeTest.holds, TextTest.holds_ofOperator, Bool.and_assoc]
      cases type <;> rfl
  | changes solution =>
      rw [Pushdown.criterion, LayerPredicate.holds_all, List.all_cons, List.all_cons,
        List.all_nil, Bool.and_true, LayerPredicate.holds_someAttribute, holds]
      congr 1
      · cases solution with
        | none => rw [Option.elim, LayerPredicate.holds]; rfl
        | some solution => rw [Option.elim, LayerPredicate.holds_named]; rfl
      · congr 1
        funext a
        rw [AttributePredicate.holds, Formula.eval_all, AttributePredicate.all_relevantChange]
  | differs diff =>
      rw [Pushdown.criterion, LayerPredicate.holds_all, List.all_cons, List.all_cons,
        List.all_nil, Bool.and_true, LayerPredicate.holds_named, LayerPredicate.holds,
        LayerTest.holds, holds, MatchLogic.lacksCounterparts_eq]
  | isOf solution => rw [Pushdown.criterion, LayerPredicate.holds_named, holds]

end Strata
