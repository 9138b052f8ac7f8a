import Mathlib.Data.List.Basic
import Strata.Proofs.Approximation
import Strata.Proofs.Extraction

/-!
# What predicates consult

Lookups come into a predicate through the sequences that count positively, and there through the
ranges of literal steps and the resolutions of conditions. Nothing else is consulted. So lookups
that have the same to say of every step of a filter make the same predicate of it, the same tree and
not only one of the same meaning.

Questions are collected by a walk of their own through the filter, which looks at sequences of
either polarity. It visits every step that the predicate is made from
(`Filter.mem_allSteps_of_mem_sequences`) and asks for it in some spelling. Lookups answer alike to
all spellings, so lookups that agree on what was asked agree on the steps, and what was asked is all
that is consulted (`predicate_eq_of_agrees`).
-/

namespace Strata

/-! ## Steps -/

/-- Whether two lookups have the same to say of a step. -/
structure Step.Agrees (a b : Lookups) (step : Step) : Prop where
  range : ∀ solution, step = .literal solution → a.range? solution = b.range? solution
  resolved : ∀ condition, step.condition? = some condition →
    a.resolved? condition = b.resolved? condition

namespace Pushdown

section

variable {a b : Lookups} {before after steps : List Step} {step : Step}

theorem stepRange?_congr (h : step.Agrees a b) : stepRange? a step = stepRange? b step := by
  cases step with
  | literal solution => exact h.range solution rfl
  | choice _ | dynamic _ => rfl

theorem bounds_congr (hbefore : ∀ step ∈ before, step.Agrees a b)
    (hafter : ∀ step ∈ after, step.Agrees a b) :
    bounds a before after = bounds b before after := by
  have hlower : before.filterMap (stepRange? a) = before.filterMap (stepRange? b) :=
    List.filterMap_congr fun step hmem => stepRange?_congr (hbefore step hmem)
  have hupper : after.filterMap (stepRange? a) = after.filterMap (stepRange? b) :=
    List.filterMap_congr fun step hmem => stepRange?_congr (hafter step hmem)
  rw [bounds, bounds, hlower, hupper]

theorem narrowStep_congr (hbefore : ∀ step ∈ before, step.Agrees a b) (hstep : step.Agrees a b)
    (hafter : ∀ step ∈ after, step.Agrees a b) :
    narrowStep (some a) before step after = narrowStep (some b) before step after := by
  cases step with
  | literal solution =>
      rw [narrowStep, narrowStep, Option.elim_some, Option.elim_some, bounds_congr hbefore hafter]
  | choice solutions => rfl
  | dynamic raw =>
      cases hraw : raw.condition? with
      | none => simp only [narrowStep, hraw]
      | some condition => simp only [narrowStep, hraw, hstep.resolved condition hraw]

theorem narrowSteps_congr (hbefore : ∀ step ∈ before, step.Agrees a b)
    (hsteps : ∀ step ∈ steps, step.Agrees a b) :
    narrowSteps (some a) before steps = narrowSteps (some b) before steps := by
  induction steps generalizing before with
  | nil => rfl
  | cons step steps ih =>
      rw [List.forall_mem_cons] at hsteps
      have hnext : ∀ other ∈ before ++ [step], other.Agrees a b :=
        List.forall_mem_append.2 ⟨hbefore, List.forall_mem_singleton.2 hsteps.1⟩
      rw [narrowSteps, narrowSteps, narrowStep_congr hbefore hsteps.1 hsteps.2,
        ih hnext hsteps.2]

theorem sequence_congr (hsteps : ∀ step ∈ steps, step.Agrees a b) (polarity : Polarity) :
    sequence (some a) steps polarity = sequence (some b) steps polarity := by
  cases polarity with
  | positive =>
      rw [sequence, sequence, narrowSteps_congr (List.forall_mem_nil _) hsteps]
  | negative => rfl

end

/-! ### No lookups

To have no lookups comes to the same as to have lookups that know nothing. -/

theorem bounds_empty (before after : List Step) : bounds .empty before after = [] := by
  have hunknown : ∀ steps : List Step, steps.filterMap (stepRange? .empty) = [] := by
    intro steps
    rw [List.filterMap_eq_nil_iff]
    intro step _
    cases step <;> rfl
  rw [bounds, hunknown, hunknown]
  rfl

theorem narrowStep_none (before : List Step) (step : Step) (after : List Step) :
    narrowStep none before step after = narrowStep (some .empty) before step after := by
  cases step with
  | literal solution =>
      rw [narrowStep, narrowStep, Option.elim_some, bounds_empty]
      rfl
  | choice solutions => rfl
  | dynamic raw =>
      simp only [narrowStep]
      cases raw.condition? <;> rfl

theorem narrowSteps_none (before steps : List Step) :
    narrowSteps none before steps = narrowSteps (some .empty) before steps := by
  induction steps generalizing before with
  | nil => rfl
  | cons step steps ih => rw [narrowSteps, narrowSteps, narrowStep_none, ih]

theorem sequence_none (steps : List Step) (polarity : Polarity) :
    sequence none steps polarity = sequence (some .empty) steps polarity := by
  cases polarity with
  | positive => rw [sequence, sequence, narrowSteps_none]
  | negative => rfl

/-! ## Filters -/

section

variable {a b : Pushdown}

/-- Whether two ways to make predicates make the same of the sequences that count positively in a
filter. -/
def AgreeOn (a b : Pushdown) (filter : Filter) (polarity : Polarity) : Prop :=
  ∀ tested ∈ filter.sequences polarity,
    sequence a.lookups tested.2 .positive = sequence b.lookups tested.2 .positive

theorem AgreeOn.sequence_eq {mode : SequenceMode} {steps : List Step} {polarity : Polarity}
    (h : AgreeOn a b (.sequence mode steps) polarity) :
    sequence a.lookups steps polarity = sequence b.lookups steps polarity := by
  cases polarity with
  | positive => exact h (mode, steps) (List.mem_singleton_self _)
  | negative => rfl

theorem layer_congr (hexcluded : a.excluded = b.excluded) (filter : Filter) (polarity : Polarity)
    (h : AgreeOn a b filter polarity) : a.layer filter polarity = b.layer filter polarity := by
  induction filter using Filter.induction generalizing polarity with
  | component _ | solutions _ _ | anyLayerAlone | layerOfAlone _ | notAlone | unknown =>
      rw [Pushdown.layer, Pushdown.layer]
  | layer test => rw [Pushdown.layer, Pushdown.layer, hexcluded]
  | sequence mode steps => rw [Pushdown.layer, Pushdown.layer, h.sequence_eq]
  | anyLayer child ih | layerOf _ child ih | not child ih =>
      rw [AgreeOn, Filter.sequences] at h
      rw [Pushdown.layer, Pushdown.layer, ih _ h]
  | all children ih | any children ih =>
      rw [AgreeOn, Filter.sequences] at h
      rw [Pushdown.layer, Pushdown.layer, layers_eq_map, layers_eq_map]
      congr 1
      exact List.map_congr_left fun child hmem => ih child hmem polarity fun tested htested =>
        h tested (Filter.mem_sequencesOfEach.2 ⟨child, hmem, htested⟩)

theorem component_congr (hexcluded : a.excluded = b.excluded) (filter : Filter)
    (polarity : Polarity) (h : AgreeOn a b filter polarity) :
    a.component filter polarity = b.component filter polarity := by
  induction filter using Filter.induction generalizing polarity with
  | component _ | solutions _ _ | anyLayerAlone | layerOfAlone _ | notAlone | unknown =>
      rw [Pushdown.component, Pushdown.component]
  | layer test => rw [Pushdown.component, Pushdown.component, hexcluded]
  | sequence mode steps => rw [Pushdown.component, Pushdown.component, h.sequence_eq]
  | anyLayer child _ | layerOf _ child _ =>
      rw [AgreeOn, Filter.sequences] at h
      rw [Pushdown.component, Pushdown.component, layer_congr hexcluded child polarity h]
  | not child ih =>
      rw [AgreeOn, Filter.sequences] at h
      rw [Pushdown.component, Pushdown.component, ih _ h]
  | all children ih | any children ih =>
      rw [AgreeOn, Filter.sequences] at h
      rw [Pushdown.component, Pushdown.component, components_eq_map, components_eq_map]
      congr 1
      exact List.map_congr_left fun child hmem => ih child hmem polarity fun tested htested =>
        h tested (Filter.mem_sequencesOfEach.2 ⟨child, hmem, htested⟩)

end

/-- No lookups and lookups that know nothing make the same predicate. -/
theorem predicate_none_eq_empty (excluded : ExcludedAttributes) (filter : Option Filter) :
    predicate { excluded } filter = predicate { excluded, lookups := some .empty } filter := by
  cases filter with
  | none => rfl
  | some filter =>
      rw [predicate, predicate]
      exact component_congr (by rfl) filter .positive fun tested _ =>
        sequence_none tested.2 .positive

end Pushdown

/-! ## What was asked -/

theorem Filter.mem_allSteps_of_mem_sequences {filter : Filter} {polarity : Polarity}
    {tested : SequenceMode × List Step} {step : Step} (h : tested ∈ filter.sequences polarity)
    (hstep : step ∈ tested.2) : step ∈ filter.allSteps := by
  induction filter using Filter.induction generalizing polarity with
  | component _ | layer _ | solutions _ _ | anyLayerAlone | layerOfAlone _ | notAlone | unknown =>
      simp only [sequences, List.not_mem_nil] at h
  | sequence mode steps =>
      cases polarity with
      | positive =>
          rw [sequences, List.mem_singleton] at h
          rw [h] at hstep
          exact hstep
      | negative => cases h
  | anyLayer child ih | layerOf _ child ih | not child ih =>
      rw [sequences] at h
      rw [allSteps]
      exact ih h
  | all children ih | any children ih =>
      rw [sequences, mem_sequencesOfEach] at h
      obtain ⟨child, hmem, h⟩ := h
      rw [allSteps, stepsOfEach_eq, List.mem_flatMap]
      exact ⟨child, hmem, ih child hmem h⟩

/-- Whether two lookups have the same answer to a question. -/
def Lookup.Agrees (a b : Lookups) : Lookup → Prop
  | .ordinalRanges solutions => ∀ solution ∈ solutions, a.range? solution = b.range? solution
  | .resolve condition => a.resolved? condition = b.resolved? condition

instance (a b : Lookups) (lookup : Lookup) : Decidable (lookup.Agrees a b) :=
  match lookup with
  | .ordinalRanges solutions =>
    inferInstanceAs (Decidable (∀ solution ∈ solutions, a.range? solution = b.range? solution))
  | .resolve condition =>
    inferInstanceAs (Decidable (a.resolved? condition = b.resolved? condition))

/-- Lookups that agree on what a filter asks for agree on each of its steps, however it spells
them. -/
theorem Step.agrees_of_asked {a b : Lookups} {filter : Filter} {step : Step}
    (h : ∀ lookup ∈ Lookup.extract filter, lookup.Agrees a b) (hstep : step ∈ filter.allSteps) :
    step.Agrees a b where
  range solution hliteral := by
    rw [hliteral] at hstep
    -- Another spelling may have been asked for; lookups do not tell the two apart.
    obtain ⟨solutions, kept, hasked, hkept, hsame⟩ := Lookup.exists_asked_of_literal hstep
    rw [a.range?_congr hsame, b.range?_congr hsame]
    exact h _ hasked kept hkept
  resolved condition hcondition := by
    obtain ⟨asked, hasked, hkey⟩ := Lookup.exists_asked_of_condition hstep hcondition
    rw [← a.resolved?_congr hkey, ← b.resolved?_congr hkey]
    exact h _ hasked

namespace Pushdown

/-- Lookups that agree on what a filter asks for make the same predicate of it: the predicate
consults nothing that was not asked. -/
theorem predicate_eq_of_agrees (excluded : ExcludedAttributes) (filter : Filter) {a b : Lookups}
    (h : ∀ lookup ∈ Lookup.extract filter, lookup.Agrees a b) :
    predicate { excluded, lookups := some a } (some filter)
      = predicate { excluded, lookups := some b } (some filter) := by
  rw [predicate, predicate]
  refine component_congr (by rfl) filter .positive fun tested htested => ?_
  refine sequence_congr (fun step hstep => ?_) .positive
  exact Step.agrees_of_asked h (Filter.mem_allSteps_of_mem_sequences htested hstep)

/-- A name and a condition that occur in two spellings are asked for in one; answers that were
stored under another, and what else the lookups know, make no difference. -/
theorem predicate_eq_of_agrees_in_spellings :
    let condition (value : String) : RawCondition :=
      { field := "publisher", operator := "eq", value }
    let filter : Filter := .not (some (.anyLayer (some (.any [
      .not (some (.sequence .strict [
        .literal "Base", .dynamic (condition "Contoso"), .literal "x"])),
      .sequence .flexible [.dynamic (condition "CONTOSO"), .literal "BASE", .choice ["other"]]]))))
    let asked : LayerCondition := { field := .publisher, value := "Contoso" }
    let a := ((Lookups.empty.insertRange "unrelated" ⟨5, 5⟩).insertResolution asked
      ["Base"]).insertRange "BASE" ⟨1, 2⟩
    let b := (Lookups.empty.insertRange "bAsE" ⟨1, 2⟩).insertResolution
      { asked with value := "contoso" } ["BASE"]
    a.range? "unrelated" ≠ b.range? "unrelated" ∧
    Lookup.extract filter = [.ordinalRanges ["Base", "other", "x"], .resolve asked] ∧
    (∀ lookup ∈ Lookup.extract filter, lookup.Agrees a b) ∧
    predicate { excluded := .standard, lookups := some a } (some filter)
      = predicate { excluded := .standard, lookups := some b } (some filter) := by
  intro condition filter asked a b
  have hagrees : ∀ lookup ∈ Lookup.extract filter, lookup.Agrees a b := by decide +kernel
  exact ⟨by decide +kernel, by decide +kernel, hagrees,
    predicate_eq_of_agrees .standard filter hagrees⟩

end Pushdown

end Strata
