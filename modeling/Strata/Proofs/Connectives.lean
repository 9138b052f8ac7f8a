import Strata.Predicate.Semantics
import Strata.Proofs.Levels
import Strata.Pushdown

/-!
# The connectives mean what they are called

`Formula.all`, `any` and `negate` fold constants, flatten and unwrap, all at once. None of it shows
in the value of a formula, whatever the parts look like: what a part adds to a connective has the
value of the part (`all_conjuncts`, `any_disjuncts`), and a constant that ends the fold early
decides the connective anyway.

Predicates of components and of layers are given their meaning by one recursion through both levels.
Each is the value of a formula under the meanings of its tests, so that what is proved of formulas
once holds on every level (`IsValuation`).

Nothing is asked of the formulas. They need not be ones that the connectives could have built:
folding goes one level deep, and a constant, a connective of no parts or a double negation further
inside stays where it is and has its value there.
-/

namespace Strata.Formula

variable {α : Type} {value : α → Bool}

theorem evalAll_eq (parts : List (Formula α)) : evalAll value parts = parts.all (eval value) := by
  induction parts with
  | nil => rfl
  | cons part parts ih => rw [evalAll, List.all_cons, ih]

theorem evalAny_eq (parts : List (Formula α)) : evalAny value parts = parts.any (eval value) := by
  induction parts with
  | nil => rfl
  | cons part parts ih => rw [evalAny, List.any_cons, ih]

theorem isConst_iff {b : Bool} {formula : Formula α} :
    isConst b formula = true ↔ formula = .const b := by
  cases formula <;> simp [isConst]

theorem all_conjuncts (formula : Formula α) :
    formula.conjuncts.all (eval value) = formula.eval value := by
  match formula with
  | .const true => rfl
  | .const false => rfl
  | .and parts => rw [eval, evalAll_eq]; rfl
  | .or _ | .not _ | .atom _ => exact Bool.and_true _

theorem any_disjuncts (formula : Formula α) :
    formula.disjuncts.any (eval value) = formula.eval value := by
  match formula with
  | .const true => rfl
  | .const false => rfl
  | .or parts => rw [eval, evalAny_eq]; rfl
  | .and _ | .not _ | .atom _ => exact Bool.or_false _

theorem eval_all (parts : List (Formula α)) :
    (all parts).eval value = parts.all (eval value) := by
  rw [all]
  split
  · next h =>
      obtain ⟨part, hmem, hconst⟩ := List.any_eq_true.1 h
      symm
      rw [isConst_iff] at hconst
      exact List.all_eq_false.2 ⟨part, hmem, by rw [hconst, eval]; exact Bool.false_ne_true⟩
  · have hkept : (parts.flatMap conjuncts).all (eval value) = parts.all (eval value) := by
      simp only [List.all_flatMap, all_conjuncts]
    rw [← hkept]
    split
    · next h => rw [h]; rfl
    · next part h => rw [h]; exact (Bool.and_true _).symm
    · rw [eval, evalAll_eq]

theorem eval_any (parts : List (Formula α)) :
    (any parts).eval value = parts.any (eval value) := by
  rw [any]
  split
  · next h =>
      obtain ⟨part, hmem, hconst⟩ := List.any_eq_true.1 h
      symm
      rw [isConst_iff] at hconst
      exact List.any_eq_true.2 ⟨part, hmem, by rw [hconst, eval]⟩
  · have hkept : (parts.flatMap disjuncts).any (eval value) = parts.any (eval value) := by
      simp only [List.any_flatMap, any_disjuncts]
    rw [← hkept]
    split
    · next h => rw [h]; rfl
    · next part h => rw [h]; exact (Bool.or_false _).symm
    · rw [eval, evalAny_eq]

theorem eval_negate (formula : Formula α) : (negate formula).eval value = !formula.eval value := by
  match formula with
  | .const b => rfl
  | .not inner => rw [negate, eval, Bool.not_not]
  | .and _ | .or _ | .atom _ => rfl

/-! ## Valuations -/

/-- Whether formulas that the connectives build hold when the connectives say so. -/
structure IsValuation (holds : Formula α → Bool) : Prop where
  all_iff : ∀ parts, holds (all parts) = true ↔ ∀ part ∈ parts, holds part = true
  any_iff : ∀ parts, holds (any parts) = true ↔ ∃ part ∈ parts, holds part = true
  negate_iff : ∀ formula, holds (negate formula) = true ↔ ¬holds formula = true

theorem isValuation_of_eq {holds : Formula α → Bool}
    (hall : ∀ parts, holds (all parts) = parts.all holds)
    (hany : ∀ parts, holds (any parts) = parts.any holds)
    (hnegate : ∀ formula, holds (negate formula) = !holds formula) : IsValuation holds where
  all_iff parts := by rw [hall, List.all_eq_true]
  any_iff parts := by rw [hany, List.any_eq_true]
  negate_iff formula := by rw [hnegate, Bool.not_eq_true', Bool.not_eq_true]

end Strata.Formula

namespace Strata

variable {component : Component}

/-! ## The levels -/

/-- The recursion that evaluates. Of the parts of a connective it finds whether all and whether some
are true. -/
def Formula.truth : Recursion Bool (Bool × Bool) where
  const value := value
  and parts := parts.1
  or parts := parts.2
  not value := !value
  nil := (true, false)
  cons value parts := (value && parts.1, value || parts.2)

theorem Formula.truth_defines_eval {α : Type} (value : α → Bool) :
    truth.Defines (eval value) fun parts => (evalAll value parts, evalAny value parts) :=
  ⟨fun _ => rfl, fun _ => rfl, fun _ => rfl, fun _ => rfl, rfl, fun _ _ => rfl⟩

namespace ComponentPredicate

theorem truth_defines_holds (component : Component) :
    Formula.truth.Defines (holds component) fun parts =>
      (allHold component parts, anyHolds component parts) :=
  ⟨fun _ => rfl, fun _ => rfl, fun _ => rfl, fun _ => rfl, rfl, fun _ _ => rfl⟩

theorem holds_eq_eval (predicate : Formula ComponentTest) :
    holds component predicate = predicate.eval (ComponentTest.holds component) :=
  (truth_defines_holds component).congr (Formula.truth_defines_eval _) fun _ _ => rfl

end ComponentPredicate

namespace LayerPredicate

theorem truth_defines_holds (component : Component) (layer : Layer) :
    Formula.truth.Defines (fun predicate => holds component predicate layer) fun parts =>
      (allHold component parts layer, anyHolds component parts layer) :=
  ⟨fun _ => rfl, fun _ => rfl, fun _ => rfl, fun _ => rfl, rfl, fun _ _ => rfl⟩

theorem holds_eq_eval (predicate : Formula LayerTest) (layer : Layer) :
    holds component predicate layer = predicate.eval fun test => test.holds component layer :=
  (truth_defines_holds component layer).congr (Formula.truth_defines_eval _) fun _ _ => rfl

end LayerPredicate

/-! ## Building predicates -/

namespace ComponentPredicate

theorem holds_all (parts : List ComponentPredicate) :
    holds component (Formula.all parts) = parts.all (holds component) := by
  simp only [holds_eq_eval, Formula.eval_all, funext holds_eq_eval]

theorem holds_any (parts : List ComponentPredicate) :
    holds component (Formula.any parts) = parts.any (holds component) := by
  simp only [holds_eq_eval, Formula.eval_any, funext holds_eq_eval]

theorem holds_negate (predicate : ComponentPredicate) :
    holds component (Formula.negate predicate) = !holds component predicate := by
  rw [holds_eq_eval, holds_eq_eval, Formula.eval_negate]

theorem holds_ofOwner (predicate : ComponentPredicate) (layer : Layer) :
    LayerPredicate.holds component predicate.ofOwner layer = holds component predicate := by
  match predicate with
  | .const b => rw [ofOwner, LayerPredicate.holds, holds]
  | .and _ | .or _ | .not _ | .atom _ =>
      show LayerPredicate.holds component (.atom (.owner _)) layer = _
      rw [LayerPredicate.holds, LayerTest.holds]

end ComponentPredicate

namespace LayerPredicate

variable {layer : Layer}

theorem holds_all (parts : List LayerPredicate) :
    holds component (Formula.all parts) layer
      = parts.all fun part => holds component part layer := by
  simp only [holds_eq_eval, Formula.eval_all]

theorem holds_any (parts : List LayerPredicate) :
    holds component (Formula.any parts) layer
      = parts.any fun part => holds component part layer := by
  simp only [holds_eq_eval, Formula.eval_any]

theorem holds_negate (predicate : LayerPredicate) :
    holds component (Formula.negate predicate) layer = !holds component predicate layer := by
  rw [holds_eq_eval, holds_eq_eval, Formula.eval_negate]

theorem holds_someLayer (predicate : LayerPredicate) :
    ComponentPredicate.holds component predicate.someLayer
      = component.layers.any (holds component predicate) := by
  match predicate with
  | .const false =>
      symm
      rw [someLayer, ComponentPredicate.holds]
      exact List.any_eq_false.2 fun layer _ => by rw [holds]; exact Bool.false_ne_true
  | .const true | .and _ | .or _ | .not _ | .atom _ =>
      show ComponentPredicate.holds component (.atom (.anyLayer _)) = _
      rw [ComponentPredicate.holds, ComponentTest.holds]

theorem holds_someAttribute (predicate : AttributePredicate) :
    holds component predicate.someAttribute layer = layer.attributes.any predicate.holds := by
  match predicate with
  | .const false =>
      symm
      rw [AttributePredicate.someAttribute, holds]
      exact List.any_eq_false.2 fun a _ => Bool.false_ne_true
  | .const true | .and _ | .or _ | .not _ | .atom _ =>
      show holds component (.atom (.anyAttribute _)) layer = _
      rw [holds, LayerTest.holds]

theorem holds_named (solution : String) :
    holds component (named solution) layer = layer.isOf solution := by
  rw [named, holds, LayerTest.holds]
  rfl

end LayerPredicate

theorem holds_hasLayerOf (solution : String) :
    ComponentPredicate.holds component (hasLayerOf solution)
      = component.layers.any fun layer => layer.isOf solution := by
  rw [hasLayerOf, LayerPredicate.holds_someLayer]
  exact congrArg component.layers.any (funext fun _ => LayerPredicate.holds_named solution)

/-- Predicates about solutions are combined as the quantifier says, on whichever level they are. -/
theorem Pushdown.eval_quantified {α : Type} {value : α → Bool} (quantifier : Quantifier)
    (parts : List (Formula α)) :
    (Pushdown.quantified quantifier parts).eval value
      = match quantifier with
        | .any => parts.any (Formula.eval value)
        | .all => parts.all (Formula.eval value)
        | .none => !parts.any (Formula.eval value) := by
  cases quantifier with
  | any => exact Formula.eval_any parts
  | all => exact Formula.eval_all parts
  | none => rw [Pushdown.quantified, Formula.eval_negate, Formula.eval_any]

/-- What is built of predicates holds when it should, whatever the predicates look like. On every
level a conjunction holds if all its parts do, a disjunction if some part does, and a negation if
what it negates does not. From one level to the next, a predicate holds of some layer, of some
attribute or of the owner of a layer if there is a layer, an attribute or an owner that satisfies
it. -/
theorem built_predicates_hold_iff :
    (∀ component, Formula.IsValuation (ComponentPredicate.holds component)) ∧
    (∀ component layer, Formula.IsValuation fun predicate =>
      LayerPredicate.holds component predicate layer) ∧
    (∀ a, Formula.IsValuation fun predicate => AttributePredicate.holds predicate a) ∧
    (∀ component (predicate : LayerPredicate),
      ComponentPredicate.holds component predicate.someLayer = true
        ↔ ∃ layer ∈ component.layers, LayerPredicate.holds component predicate layer = true) ∧
    (∀ component layer (predicate : AttributePredicate),
      LayerPredicate.holds component predicate.someAttribute layer = true
        ↔ ∃ a ∈ layer.attributes, predicate.holds a = true) ∧
    ∀ component layer (predicate : ComponentPredicate),
      LayerPredicate.holds component predicate.ofOwner layer = true
        ↔ ComponentPredicate.holds component predicate = true := by
  refine ⟨fun component => ?_, fun component layer => ?_, fun a => ?_, ?_, ?_, ?_⟩
  · exact Formula.isValuation_of_eq ComponentPredicate.holds_all ComponentPredicate.holds_any
      ComponentPredicate.holds_negate
  · exact Formula.isValuation_of_eq LayerPredicate.holds_all LayerPredicate.holds_any
      LayerPredicate.holds_negate
  · exact Formula.isValuation_of_eq Formula.eval_all Formula.eval_any Formula.eval_negate
  · intro component predicate
    rw [LayerPredicate.holds_someLayer, List.any_eq_true]
  · intro component layer predicate
    rw [LayerPredicate.holds_someAttribute, List.any_eq_true]
  · intro component layer predicate
    rw [ComponentPredicate.holds_ofOwner]

/-- The first part adds nothing, and the second a constant that is not folded any more. -/
example (part : AttributePredicate) :
    Formula.all [.and [], .and [.const false], .not (.not part)]
      = .and [.const false, .not (.not part)] := rfl

end Strata
