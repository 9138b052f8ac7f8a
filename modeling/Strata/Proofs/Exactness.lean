import Strata.Proofs.Approximation

/-!
# What a store can evaluate becomes exact

A filter and its predicate are one evaluation with different answers for sequences and for unknown
filters. A filter that a store can evaluate has neither, so it is answered alike by both, and its
predicate is exact. No lookups matter: they are about sequences. Of all other filters the predicate
loses no component, as long as no sequence does.
-/

namespace Strata

/-! ## Filters that a store can evaluate -/

theorem Capability.worse_eq_full {a b : Capability} : a.worse b = .full ↔ a = .full ∧ b = .full := by
  cases a <;> cases b <;> decide

namespace Filter

theorem worstOf_full_iff (filters : List Filter) :
    worstOf filters = .full ↔ ∀ filter ∈ filters, filter.capability = .full := by
  induction filters with
  | nil => simp [worstOf]
  | cons filter filters ih => rw [worstOf, Capability.worse_eq_full, ih, List.forall_mem_cons]

theorem valueIn_of_full {a b : Interpretation} {excluded : ExcludedAttributes}
    {component : Component} (filter : Filter) (polarity : Polarity) (scope : Scope)
    (h : filter.capability = .full) :
    filter.valueIn a excluded component polarity scope
      = filter.valueIn b excluded component polarity scope := by
  induction filter using Filter.induction generalizing polarity scope with
  | component _ | layer _ | solutions _ _ | anyLayerAlone | layerOfAlone _ | notAlone =>
      rw [valueIn, valueIn]
  | sequence _ _ | unknown =>
      rw [capability] at h
      cases h
  | anyLayer child ih =>
      rw [capability] at h
      rw [valueIn, valueIn]
      exact List.any_congr rfl fun layer => ih polarity (.layer layer) h
  | layerOf solution child ih =>
      rw [capability] at h
      rw [valueIn, valueIn]
      simp only [ih polarity _ h]
  | all children ih =>
      rw [capability, worstOf_full_iff] at h
      rw [valueIn, valueIn, allValuesIn_eq, allValuesIn_eq]
      exact all_congr_of_mem fun child hmem => ih child hmem polarity scope (h child hmem)
  | any children ih =>
      rw [capability, worstOf_full_iff] at h
      rw [valueIn, valueIn, anyValueIn_eq, anyValueIn_eq]
      exact any_congr_of_mem fun child hmem => ih child hmem polarity scope (h child hmem)
  | not child ih =>
      rw [capability] at h
      rw [valueIn, valueIn, ih polarity.flip scope h]

end Filter

/-! ## The predicate of a whole filter -/

namespace Pushdown

variable {pushdown : Pushdown} {component : Component} {filter : Filter}

/-- A component that satisfies the filter satisfies its predicate, as long as none of the sequences
in it loses the component. -/
theorem holds_predicate_of_keeps
    (hkeeps : ∀ tested ∈ filter.sequences .positive, pushdown.Keeps component tested)
    (h : filter.holds pushdown.excluded component = true) :
    ComponentPredicate.holds component (pushdown.predicate (some filter)) = true :=
  component_widens filter .positive hkeeps h

theorem holds_predicate_of_full (h : filter.capability = .full) :
    ComponentPredicate.holds component (pushdown.predicate (some filter))
      = filter.holds pushdown.excluded component := by
  rw [holds_predicate_eq_valueIn, filter.holds_eq_valueIn]
  exact filter.valueIn_of_full .positive .component h

/-- Without lookups the predicate of a filter loses no component, and that of a filter that a store
can evaluate is exact, whatever the lookups say. -/
theorem predicate_sound_and_exact (filter : Filter) (excluded : ExcludedAttributes)
    (component : Component) :
    (filter.holds excluded component = true →
      ComponentPredicate.holds component (predicate { excluded } (some filter)) = true) ∧
    (filter.capability = .full → ∀ lookups : Option Lookups,
      ComponentPredicate.holds component (predicate { excluded, lookups } (some filter))
        = filter.holds excluded component) := by
  constructor
  · intro h
    have hkeeps : ∀ tested ∈ filter.sequences .positive, Keeps { excluded } component tested :=
      fun tested _ => keeps_of_no_lookups rfl component tested
    exact holds_predicate_of_keeps hkeeps h
  · intro h lookups
    exact holds_predicate_of_full h

/-- Layers of one ordinal, an unknown part and a sequence lose nothing; wrong lookups are not
consulted for a filter without sequences. -/
theorem predicate_sound_and_exact_tied :
    let excluded : ExcludedAttributes := ⟨[]⟩
    let component : Component :=
      { logicalName := "account", componentType := "Entity",
        layers := [{ solution := "Base", ordinal := 1 }, { solution := "Patch", ordinal := 1 }] }
    let sound : Filter :=
      .all [.sequence .strict [.literal "base", .literal "patch"], .not (some .unknown)]
    let exact : Filter := .not (some (.anyLayer (some (.has "patch"))))
    let wrong : Lookups := Lookups.empty.insertRange "Patch" ⟨7, 7⟩
    ComponentPredicate.holds component (predicate { excluded } (some sound)) = true ∧
    ComponentPredicate.holds component (predicate { excluded, lookups := some wrong } (some exact))
      = exact.holds excluded component := by
  intro excluded component sound exact wrong
  have hsound : sound.holds excluded component = true := by decide +kernel
  have hexact : exact.capability = .full := by decide +kernel
  exact ⟨(predicate_sound_and_exact sound excluded component).1 hsound,
    (predicate_sound_and_exact exact excluded component).2 hexact (some wrong)⟩

end Pushdown

end Strata
