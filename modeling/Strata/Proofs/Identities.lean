import Strata.Proofs.NormalPredicates

/-!
# Filters that are written differently and become the same predicate

Some filters are written in two ways: with a double negation or without, as one conjunction or as one
within another, with a quantifier over solutions or with a filter for each of them. A store is asked
the same in both cases, not only something of the same meaning but the same tree, wherever in a
filter the difference stands (`predicate_eq_of_rewrites`).

Where a filter is made of others, so is its predicate of theirs, in either scope and with either
polarity. That leaves the identities themselves. The quantifiers over solutions are expanded by the
compilation anyway; the others are the laws of formulas in normal form, which predicates are in.
-/

namespace Strata

namespace Filter

/-! ## Rewriting -/

/-- Whether the second filter is another way to write the first. -/
inductive Identity : Filter → Filter → Prop
  | notNot (child : Filter) : Identity (.not (some (.not (some child)))) child
  | allNested (before inner after : List Filter) :
      Identity (.all (before ++ .all inner :: after)) (.all (before ++ inner ++ after))
  | anyNested (before inner after : List Filter) :
      Identity (.any (before ++ .any inner :: after)) (.any (before ++ inner ++ after))
  | allSingle (child : Filter) : Identity (.all [child]) child
  | anySingle (child : Filter) : Identity (.any [child]) child
  | hasAny (names : List String) : Identity (.solutions .any names) (.any (names.map has))
  | hasAll (names : List String) : Identity (.solutions .all names) (.all (names.map has))
  | hasNone (names : List String) :
      Identity (.solutions .none names) (.not (some (.solutions .any names)))

/-- Whether the second filter is the first with a part of it, wherever it stands, written in another
way. -/
inductive Rewrites : Filter → Filter → Prop
  | here {a b : Filter} (h : Identity a b) : Rewrites a b
  | anyLayer {a b : Filter} (h : Rewrites a b) : Rewrites (.anyLayer (some a)) (.anyLayer (some b))
  | layerOf {a b : Filter} (solution : String) (h : Rewrites a b) :
      Rewrites (.layerOf solution (some a)) (.layerOf solution (some b))
  | all {a b : Filter} (before after : List Filter) (h : Rewrites a b) :
      Rewrites (.all (before ++ a :: after)) (.all (before ++ b :: after))
  | any {a b : Filter} (before after : List Filter) (h : Rewrites a b) :
      Rewrites (.any (before ++ a :: after)) (.any (before ++ b :: after))
  | not {a b : Filter} (h : Rewrites a b) : Rewrites (.not (some a)) (.not (some b))

end Filter

theorem Polarity.flip_flip (polarity : Polarity) : polarity.flip.flip = polarity := by
  cases polarity <;> rfl

namespace Pushdown

open Formula (Connective)

variable {pushdown : Pushdown}

/-! ## The identities -/

/-- What making predicates in the scope of a component and in that of a layer have in common, as far
as the identities are concerned. -/
structure IsCompositional {α : Type} (tests : α → Prop)
    (predicate : Filter → Polarity → Formula α) : Prop where
  normal : ∀ filter polarity, (predicate filter polarity).IsNormal tests
  all : ∀ children polarity, predicate (.all children) polarity
    = Connective.all.join (children.map fun child => predicate child polarity)
  any : ∀ children polarity, predicate (.any children) polarity
    = Connective.any.join (children.map fun child => predicate child polarity)
  not : ∀ child polarity, predicate (.not (some child)) polarity
    = (predicate child polarity.flip).negate
  /-- Solutions are looked for in the same way under either polarity. -/
  solutions : ∀ quantifier names polarity other, predicate (.solutions quantifier names) polarity
    = quantified quantifier (names.map fun name => predicate (.has name) other)

theorem component_isCompositional (pushdown : Pushdown) :
    IsCompositional ComponentTest.IsNormal pushdown.component where
  normal := pushdown.component_isNormal
  all children polarity := by
    rw [component, components_eq_map]
    rfl
  any children polarity := by
    rw [component, components_eq_map]
    rfl
  not child polarity := by rw [component]
  solutions quantifier names polarity other := by
    simp only [Filter.has, component]
    rfl

theorem layer_isCompositional (pushdown : Pushdown) :
    IsCompositional LayerTest.IsNormal pushdown.layer where
  normal := pushdown.layer_isNormal
  all children polarity := by
    rw [layer, layers_eq_map]
    rfl
  any children polarity := by
    rw [layer, layers_eq_map]
    rfl
  not child polarity := by rw [layer]
  solutions quantifier names polarity other := by
    simp only [Filter.has, layer]
    rfl

namespace IsCompositional

variable {α : Type} {tests : α → Prop} {predicate : Filter → Polarity → Formula α}

/-- A connective within the same connective may be written out, whichever of the two it is. -/
theorem join_map_nested (h : IsCompositional tests predicate) {connective : Connective}
    {nested : Filter} {inner : List Filter} {polarity : Polarity}
    (hnested : predicate nested polarity
      = connective.join (inner.map fun child => predicate child polarity))
    (before after : List Filter) :
    connective.join ((before ++ nested :: after).map fun child => predicate child polarity)
      = connective.join ((before ++ inner ++ after).map fun child => predicate child polarity) := by
  rw [List.map_append, List.map_cons, hnested, List.map_append, List.map_append]
  exact Formula.join_append_join _ (List.forall_mem_map.2 fun child _ => h.normal child polarity) _

theorem eq_of_identity (h : IsCompositional tests predicate) {a b : Filter}
    (hidentity : a.Identity b) (polarity : Polarity) :
    predicate a polarity = predicate b polarity := by
  cases hidentity with
  | notNot =>
      rw [h.not, h.not, polarity.flip_flip, Formula.negate_negate (h.normal b polarity)]
  | allNested before inner after =>
      rw [h.all, h.all]
      exact h.join_map_nested (h.all inner polarity) before after
  | anyNested before inner after =>
      rw [h.any, h.any]
      exact h.join_map_nested (h.any inner polarity) before after
  | allSingle =>
      rw [h.all]
      exact Formula.join_singleton (h.normal b polarity)
  | anySingle =>
      rw [h.any]
      exact Formula.join_singleton (h.normal b polarity)
  | hasAny names =>
      rw [h.solutions _ _ polarity polarity, h.any, List.map_map]
      rfl
  | hasAll names =>
      rw [h.solutions _ _ polarity polarity, h.all, List.map_map]
      rfl
  | hasNone names =>
      rw [h.solutions _ _ polarity polarity, h.not, h.solutions _ _ polarity.flip polarity]
      rfl

end IsCompositional

/-! ## Every place -/

theorem layer_eq_of_rewrites {a b : Filter} (h : a.Rewrites b) (polarity : Polarity) :
    pushdown.layer a polarity = pushdown.layer b polarity := by
  have hlayer := pushdown.layer_isCompositional
  induction h generalizing polarity with
  | here h => exact hlayer.eq_of_identity h polarity
  | anyLayer _ ih | layerOf _ _ ih | not _ ih => rw [layer, layer, ih]
  | all _ _ _ ih => simp only [hlayer.all, List.map_append, List.map_cons, ih]
  | any _ _ _ ih => simp only [hlayer.any, List.map_append, List.map_cons, ih]

theorem component_eq_of_rewrites {a b : Filter} (h : a.Rewrites b) (polarity : Polarity) :
    pushdown.component a polarity = pushdown.component b polarity := by
  have hcomponent := pushdown.component_isCompositional
  induction h generalizing polarity with
  | here h => exact hcomponent.eq_of_identity h polarity
  -- Below these the filters are in the scope of a layer.
  | anyLayer h _ | layerOf _ h _ => rw [component, component, layer_eq_of_rewrites h]
  | all _ _ _ ih => simp only [hcomponent.all, List.map_append, List.map_cons, ih]
  | any _ _ _ ih => simp only [hcomponent.any, List.map_append, List.map_cons, ih]
  | not _ ih => rw [component, component, ih]

/-- A filter of which a part is written in another way, at any depth, under any number of negations
and in any scope, becomes the same predicate, whatever is excluded and whatever the lookups. -/
theorem predicate_eq_of_rewrites {a b : Filter} (h : a.Rewrites b) (pushdown : Pushdown) :
    pushdown.predicate (some a) = pushdown.predicate (some b) :=
  component_eq_of_rewrites h .positive

/-- A conjunction within a conjunction, in the scope of a layer and under a negation, with a sequence
in it that counts positively there and of which the lookups know something. -/
theorem predicate_eq_of_rewrites_under_negation :
    let range : OrdinalRange := ⟨0, 3⟩
    let pushdown : Pushdown :=
      { excluded := .standard, lookups := some (Lookups.empty.insertRange "Base" range) }
    let sequence : Filter := .sequence .flexible [.literal "BASE", .literal "Dev"]
    let filter (children : List Filter) : Filter :=
      .layerOf "Dev" (some (.not (some (.all children))))
    let managed : Filter := .layer (.managed true)
    let nested := filter [.has "Core", .all [.not (some sequence), managed], .solutions .none ["x"]]
    let flat := filter [.has "Core", .not (some sequence), managed, .solutions .none ["x"]]
    nested.Rewrites flat ∧ pushdown.predicate (some nested) = pushdown.predicate (some flat) := by
  intro range pushdown sequence filter managed nested flat
  have h : nested.Rewrites flat := .layerOf "Dev" (.not (.here (.allNested
    [.has "Core"] [.not (some sequence), managed] [.solutions .none ["x"]])))
  exact ⟨h, predicate_eq_of_rewrites h pushdown⟩

end Pushdown

end Strata
