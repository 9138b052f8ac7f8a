import Strata.Proofs.Questions

/-!
# The scope of a layer and the scope of its component

`anyLayer` looks at its child in the scope of one layer at a time: what the child says of layers is
said of that one layer. Without it each test of layers in the child looks for a layer of its own.

In a component of one layer there is no difference: there is only that layer to be found. In any
other the one layer is a witness for every test, so a filter that is satisfied in its scope is
satisfied in that of the component, as long as nothing in it denies that there is a layer of some
kind. Sequences and tests of the component say the same in both scopes.

Both are proved of `Filter.valueIn`, of which filters and predicates are two cases, whatever stands
for sequences and for unknown filters.
-/

namespace Strata

section

variable {component : Component} {layer : Layer} {test : Layer → Bool}

theorem Scope.someLayer_of_single (hlayers : component.layers = [layer]) (test : Layer → Bool) :
    Scope.component.someLayer component test = (Scope.layer layer).someLayer component test := by
  rw [someLayer, someLayer, hlayers, List.any_cons, List.any_nil, Bool.or_false]

theorem Scope.someLayer_of_mem (hmem : layer ∈ component.layers)
    (h : (Scope.layer layer).someLayer component test = true) :
    Scope.component.someLayer component test = true :=
  List.any_eq_true.2 ⟨layer, hmem, h⟩

end

namespace Filter

/-! ## Values in a component of one layer -/

section

variable {interpretation : Interpretation} {excluded : ExcludedAttributes} {component : Component}
  {layer : Layer} {polarity : Polarity}

theorem valueIn_of_single (hlayers : component.layers = [layer]) (filter : Filter) :
    filter.valueIn interpretation excluded component polarity .component
      = filter.valueIn interpretation excluded component polarity (.layer layer) := by
  induction filter using Filter.induction generalizing polarity with
  -- What does not depend on the scope, or opens one of its own.
  | component _ | sequence _ _ | anyLayerAlone | anyLayer _ _ | notAlone | unknown =>
      rw [valueIn, valueIn]
  | layer _ | layerOfAlone _ | layerOf _ _ _ =>
      rw [valueIn, valueIn, Scope.someLayer_of_single hlayers]
  | solutions quantifier names =>
      rw [valueIn, valueIn]
      simp only [Scope.someLayer_of_single hlayers]
  | all children ih =>
      rw [valueIn, valueIn, allValuesIn_eq, allValuesIn_eq]
      exact all_congr_of_mem fun child hmem => ih child hmem
  | any children ih =>
      rw [valueIn, valueIn, anyValueIn_eq, anyValueIn_eq]
      exact any_congr_of_mem fun child hmem => ih child hmem
  | not child ih => rw [valueIn, valueIn, ih]

theorem valueIn_anyLayer_of_single (hlayers : component.layers = [layer]) (filter : Filter) :
    (anyLayer (some filter)).valueIn interpretation excluded component polarity .component
      = filter.valueIn interpretation excluded component polarity .component := by
  rw [valueIn, hlayers, List.any_cons, List.any_nil, Bool.or_false, valueIn_of_single hlayers]

end

/-! ## Values of filters that deny nothing -/

/-- Whether a filter asks, by itself, that something not be so. -/
def denies : Filter → Bool
  | .not (some _) => true
  | .solutions .none _ => true
  | _ => false

/-- Whether nothing that stands in a filter denies. -/
def IsAffirmative (filter : Filter) : Prop := ∀ part, StandsIn part filter → part.denies = false

theorem isAffirmative_iff {filter : Filter} :
    filter.IsAffirmative ↔ ∀ part ∈ filter.depthFirst, part.denies = false :=
  forall_congr' fun _ => imp_congr_left mem_depthFirst.symm

theorem IsAffirmative.child {filter child : Filter} (h : filter.IsAffirmative)
    (hmem : child ∈ filter.children) : child.IsAffirmative :=
  fun part hpart => h part (.under hmem hpart)

section

variable {interpretation : Interpretation} {excluded : ExcludedAttributes} {component : Component}
  {layer : Layer} {polarity : Polarity} {filter : Filter}

/-- What is so of one layer of a component is so of the component. -/
theorem valueIn_of_mem (hmem : layer ∈ component.layers) (haffirmative : filter.IsAffirmative)
    (h : filter.valueIn interpretation excluded component polarity (.layer layer) = true) :
    filter.valueIn interpretation excluded component polarity .component = true := by
  induction filter using Filter.induction with
  | anyLayerAlone | notAlone => rw [valueIn]
  | component _ | sequence _ _ | anyLayer _ _ | unknown => rwa [valueIn] at h ⊢
  -- The layer is the witness, also for what `layerOf` asks of its child in that layer's scope.
  | layer _ | layerOfAlone _ | layerOf _ _ _ =>
      rw [valueIn] at h ⊢
      exact Scope.someLayer_of_mem hmem h
  | solutions quantifier names =>
      rw [valueIn] at h ⊢
      cases quantifier with
      | any =>
          obtain ⟨name, hname, hlayer⟩ := List.any_eq_true.1 h
          exact List.any_eq_true.2 ⟨name, hname, Scope.someLayer_of_mem hmem hlayer⟩
      | all =>
          exact List.all_eq_true.2 fun name hname =>
            Scope.someLayer_of_mem hmem (List.all_eq_true.1 h name hname)
      | none => exact absurd (haffirmative _ .self).symm Bool.false_ne_true
  | all children ih =>
      rw [valueIn, allValuesIn_eq, List.all_eq_true] at h ⊢
      exact fun child hchild => ih child hchild (haffirmative.child hchild) (h child hchild)
  | any children ih =>
      rw [valueIn, anyValueIn_eq, List.any_eq_true] at h ⊢
      obtain ⟨child, hchild, hvalue⟩ := h
      exact ⟨child, hchild, ih child hchild (haffirmative.child hchild) hvalue⟩
  | not child _ => exact absurd (haffirmative _ .self).symm Bool.false_ne_true

theorem valueIn_of_anyLayer (haffirmative : filter.IsAffirmative)
    (h : (anyLayer (some filter)).valueIn interpretation excluded component polarity .component
      = true) :
    filter.valueIn interpretation excluded component polarity .component = true := by
  rw [valueIn, List.any_eq_true] at h
  obtain ⟨layer, hmem, hvalue⟩ := h
  exact valueIn_of_mem hmem haffirmative hvalue

end

/-! ## Filters and predicates -/

theorem satisfies_eq_valueIn {excluded : ExcludedAttributes} {component : Component}
    (filter : Filter) :
    satisfies excluded (some filter) component
      = filter.valueIn component.interpretation excluded component .positive .component :=
  filter.holds_eq_valueIn

/-- A component of one layer does not tell a filter from the same filter about some layer, and
neither do their predicates, whatever the lookups. -/
theorem scopes_coincide_of_single_layer {component : Component}
    (hsingle : component.layers.length = 1) (filter : Filter) (excluded : ExcludedAttributes) :
    satisfies excluded (some (.anyLayer (some filter))) component
        = satisfies excluded (some filter) component ∧
      ∀ lookups : Option Lookups,
        ComponentPredicate.holds component
            (Pushdown.predicate { excluded, lookups } (some (.anyLayer (some filter))))
          = ComponentPredicate.holds component
            (Pushdown.predicate { excluded, lookups } (some filter)) := by
  obtain ⟨layer, hlayers⟩ := List.length_eq_one_iff.1 hsingle
  refine ⟨?_, fun lookups => ?_⟩
  · rw [satisfies_eq_valueIn, satisfies_eq_valueIn, valueIn_anyLayer_of_single hlayers]
  · rw [Pushdown.holds_predicate_eq_valueIn, Pushdown.holds_predicate_eq_valueIn,
      valueIn_anyLayer_of_single hlayers]

/-- Denials on both sides of a change of scope, around a sequence and an unknown filter. -/
theorem scopes_coincide_of_single_layer_denied :
    let component : Component :=
      { logicalName := "account", componentType := "Form",
        layers := [{ solution := "Base", ordinal := 3 }] }
    let filter : Filter := .all [
      .not (some (.solutions .all ["base", "Patch"])),
      .layerOf "BASE" (some (.not (some (.any [
        .sequence .strict [.literal "Patch"], .solutions .none ["Base"], .unknown]))))]
    let lookups := Lookups.empty.insertRange "Patch" ⟨5, 7⟩
    component.layers.length = 1 ∧
    satisfies .standard (some (.anyLayer (some filter))) component = true ∧
    satisfies .standard (some filter) component = true ∧
    ComponentPredicate.holds component (Pushdown.predicate
      { excluded := .standard, lookups := some lookups } (some (.anyLayer (some filter)))) = true ∧
    ComponentPredicate.holds component (Pushdown.predicate
      { excluded := .standard, lookups := some lookups } (some filter)) = true := by
  intro component filter lookups
  have hsingle : component.layers.length = 1 := rfl
  have hsatisfies : satisfies .standard (some filter) component = true := by decide +kernel
  have hholds : ComponentPredicate.holds component (Pushdown.predicate
      { excluded := .standard, lookups := some lookups } (some filter)) = true := by decide +kernel
  obtain ⟨hfilter, hpredicate⟩ := scopes_coincide_of_single_layer hsingle filter .standard
  exact ⟨hsingle, hfilter.trans hsatisfies, hsatisfies, (hpredicate _).trans hholds, hholds⟩

/-- A component of which some layer satisfies a filter that denies nothing satisfies the filter. So
do their predicates, whatever the lookups. -/
theorem of_anyLayer_of_isAffirmative {filter : Filter} (haffirmative : filter.IsAffirmative)
    (excluded : ExcludedAttributes) (component : Component) :
    (satisfies excluded (some (.anyLayer (some filter))) component = true →
        satisfies excluded (some filter) component = true) ∧
      ∀ lookups : Option Lookups,
        ComponentPredicate.holds component
            (Pushdown.predicate { excluded, lookups } (some (.anyLayer (some filter)))) = true →
          ComponentPredicate.holds component
            (Pushdown.predicate { excluded, lookups } (some filter)) = true := by
  refine ⟨fun h => ?_, fun lookups h => ?_⟩
  · rw [satisfies_eq_valueIn] at h ⊢
    exact valueIn_of_anyLayer haffirmative h
  · rw [Pushdown.holds_predicate_eq_valueIn] at h ⊢
    exact valueIn_of_anyLayer haffirmative h

/-- One layer that is all of what the filter looks for; the part that is unknown and the one without
a child deny nothing. -/
theorem of_anyLayer_of_isAffirmative_bound :
    let component : Component :=
      { logicalName := "account", componentType := "Form",
        layers := [{ solution := "Base", ordinal := 0, publisher := some "Contoso" },
          { solution := "Patch", ordinal := 1, managed := true }] }
    let filter : Filter := .all [
      .layer (.publisher .notEquals "CONTOSO"), .layer (.managed true), .not none,
      .any [.unknown, .layerOf "patch" (some (.sequence .flexible [
        .literal "BASE", .choice ["Patch"]]))],
      .solutions .any ["Other", "PATCH"]]
    let lookups := Lookups.empty.insertRange "base" ⟨0, 4⟩
    filter.IsAffirmative ∧
    satisfies .standard (some (.anyLayer (some filter))) component = true ∧
    satisfies .standard (some filter) component = true ∧
    ComponentPredicate.holds component (Pushdown.predicate
      { excluded := .standard, lookups := some lookups } (some (.anyLayer (some filter)))) = true ∧
    ComponentPredicate.holds component (Pushdown.predicate
      { excluded := .standard, lookups := some lookups } (some filter)) = true := by
  intro component filter lookups
  have haffirmative : filter.IsAffirmative :=
    isAffirmative_iff.2 (by simp [filter, depthFirst_eq, children, denies])
  have hsatisfies : satisfies .standard (some (.anyLayer (some filter))) component = true := by
    decide +kernel
  have hholds : ComponentPredicate.holds component (Pushdown.predicate
      { excluded := .standard, lookups := some lookups } (some (.anyLayer (some filter)))) = true := by
    decide +kernel
  obtain ⟨hfilter, hpredicate⟩ := of_anyLayer_of_isAffirmative haffirmative .standard component
  exact ⟨haffirmative, hsatisfies, hfilter hsatisfies, hholds, hpredicate _ hholds⟩

/-- A denial of one layer is none of the others, and what two layers have between them no one of them
needs to have. -/
example :
    let component : Component :=
      { logicalName := "account", componentType := "Form",
        layers := [{ solution := "Base", ordinal := 0 }, { solution := "Patch", ordinal := 1 }] }
    let denied : Filter := .not (some (.has "Base"))
    let shared : Filter := .solutions .all ["Base", "Patch"]
    satisfies .standard (some (.anyLayer (some denied))) component = true ∧
      satisfies .standard (some denied) component = false ∧
      satisfies .standard (some (.anyLayer (some shared))) component = false ∧
      satisfies .standard (some shared) component = true := by
  decide +kernel

end Filter

end Strata
