import Strata.Filter.Sequence
import Strata.Proofs.Connectives
import Strata.Proofs.Folding
import Strata.Proofs.Ordering

/-!
# What the predicate of a sequence says

A sequence becomes a conjunction, one part or none for each step. `holds_sequence_iff` reads it off
step by step, without the folds and lists that it is built from: `Step.Met` is what the predicate
asks of a component for the sake of one step, given the steps before and after it.

On the other side stands the walk through the layers. `walk_split` says what a walk that went
through knows at any of its steps: the layer it took for the step, layers below that for the steps
before, and a walk through the layers above for the steps after.
-/

namespace Strata

/-! ## Walks -/

namespace SequenceMode

variable {mode : SequenceMode}

theorem walk_cons_iff {step : Step} {steps : List Step} {layer : Layer} {layers : List Layer} :
    mode.walk (step :: steps) (layer :: layers) = true ↔
      (step.accepts layer = true ∧ mode.walk steps layers = true) ∨
      (step.accepts layer = false ∧ mode = .flexible ∧
        mode.walk (step :: steps) layers = true) := by
  cases mode with
  | strict => cases hacc : step.accepts layer <;> simp [walk, hacc]
  | flexible => cases hacc : step.accepts layer <;> simp [walk, hacc]

theorem walk_split {before after : List Step} {step : Step} {layers : List Layer}
    (h : mode.walk (before ++ step :: after) layers = true) :
    ∃ below layer above, layers = below ++ layer :: above ∧ step.accepts layer = true ∧
      (∀ earlier ∈ before, ∃ lower ∈ below, earlier.accepts lower = true) ∧
      mode.walk after above = true := by
  induction layers generalizing before with
  | nil => cases before <;> exact Bool.noConfusion h
  | cons layer layers ih =>
      -- A layer that is passed over lies below all that the rest of the walk takes.
      have hskip : mode.walk (before ++ step :: after) layers = true →
          ∃ below taken above, layer :: layers = below ++ taken :: above ∧
            step.accepts taken = true ∧
            (∀ earlier ∈ before, ∃ lower ∈ below, earlier.accepts lower = true) ∧
            mode.walk after above = true := by
        intro hrest
        obtain ⟨below, taken, above, rfl, htaken, hbelow, habove⟩ := ih hrest
        refine ⟨layer :: below, taken, above, rfl, htaken, fun earlier he => ?_, habove⟩
        obtain ⟨lower, hl, hacc⟩ := hbelow earlier he
        exact ⟨lower, List.mem_cons_of_mem layer hl, hacc⟩
      cases before with
      | nil =>
          rcases walk_cons_iff.1 h with ⟨hacc, hrest⟩ | ⟨-, -, hrest⟩
          · exact ⟨[], layer, layers, rfl, hacc, fun _ he => (nomatch he), hrest⟩
          · exact hskip hrest
      | cons first before =>
          rcases walk_cons_iff.1 h with ⟨hacc, hrest⟩ | ⟨-, -, hrest⟩
          · obtain ⟨below, taken, above, rfl, htaken, hbelow, habove⟩ := ih hrest
            refine ⟨layer :: below, taken, above, rfl, htaken, fun earlier he => ?_, habove⟩
            rcases List.mem_cons.1 he with rfl | he
            · exact ⟨layer, List.mem_cons_self, hacc⟩
            · obtain ⟨lower, hl, hlow⟩ := hbelow earlier he
              exact ⟨lower, List.mem_cons_of_mem layer hl, hlow⟩
          · exact hskip hrest

theorem accepts_of_walk {steps : List Step} {layers : List Layer}
    (h : mode.walk steps layers = true) :
    ∀ step ∈ steps, ∃ layer ∈ layers, step.accepts layer = true := by
  intro step hstep
  obtain ⟨before, after, rfl⟩ := List.append_of_mem hstep
  obtain ⟨below, layer, above, rfl, hacc, -, -⟩ := walk_split h
  exact ⟨layer, List.mem_append_right below List.mem_cons_self, hacc⟩

end SequenceMode

/-! ## Bounds -/

/-- Whether an ordinal lies above the lowest layer of every literal step before, and below the
highest of every one after, as far as lookups know. -/
structure Lookups.Bounds (lookups : Lookups) (before after : List Step) (ordinal : Ordinal) :
    Prop where
  above : ∀ solution range, .literal solution ∈ before → lookups.range? solution = some range →
    range.min < ordinal
  below : ∀ solution range, .literal solution ∈ after → lookups.range? solution = some range →
    ordinal < range.max

theorem Pushdown.mem_filterMap_stepRange? {lookups : Lookups} {steps : List Step}
    {range : OrdinalRange} :
    range ∈ steps.filterMap (stepRange? lookups)
      ↔ ∃ solution, .literal solution ∈ steps ∧ lookups.range? solution = some range := by
  rw [List.mem_filterMap]
  constructor
  · rintro ⟨step, hmem, hrange⟩
    cases step with
    | literal solution => exact ⟨solution, hmem, hrange⟩
    | choice _ => cases hrange
    | dynamic _ => cases hrange
  · rintro ⟨solution, hmem, hrange⟩
    exact ⟨.literal solution, hmem, hrange⟩

theorem Lookups.bounds_iff {lookups : Lookups} {before after : List Step} {ordinal : Ordinal} :
    lookups.Bounds before after ordinal
      ↔ (∀ range ∈ before.filterMap (Pushdown.stepRange? lookups), range.min < ordinal) ∧
        ∀ range ∈ after.filterMap (Pushdown.stepRange? lookups), ordinal < range.max := by
  simp only [Pushdown.mem_filterMap_stepRange?]
  constructor
  · intro h
    constructor
    · rintro range ⟨solution, hmem, hrange⟩
      exact h.above solution range hmem hrange
    · rintro range ⟨solution, hmem, hrange⟩
      exact h.below solution range hmem hrange
  · rintro ⟨hlow, hhigh⟩
    exact ⟨fun solution range hmem hrange => hlow range ⟨solution, hmem, hrange⟩,
      fun solution range hmem hrange => hhigh range ⟨solution, hmem, hrange⟩⟩

theorem LayerPredicate.holds_bounds {component : Component} {layer : Layer} {lookups : Lookups}
    {before after : List Step} :
    (∀ bound ∈ Pushdown.bounds lookups before after, holds component bound layer = true)
      ↔ lookups.Bounds before after layer.ordinal := by
  have habove : ∀ bound : Ordinal,
      holds component (.atom (.ordinalAbove bound)) layer = true ↔ bound < layer.ordinal := by
    intro bound
    rw [holds, LayerTest.holds, decide_eq_true_iff]
  have hbelow : ∀ bound : Ordinal,
      holds component (.atom (.ordinalBelow bound)) layer = true ↔ layer.ordinal < bound := by
    intro bound
    rw [holds, LayerTest.holds, decide_eq_true_iff]
  rw [Pushdown.bounds, Lookups.bounds_iff]
  simp only [List.forall_mem_append, List.forall_mem_map, Option.mem_toList,
    habove, hbelow, forall_max?_lt, forall_lt_min?]

/-! ## Steps -/

/-- What the predicate of a sequence asks of a component for one step, given the steps before and
after it. -/
def Step.Met (lookups : Option Lookups) (component : Component) (before : List Step) (step : Step)
    (after : List Step) : Prop :=
  match step with
  | .literal solution => ∃ layer ∈ component.layers, layer.isOf solution = true ∧
      ∀ known, lookups = some known → known.Bounds before after layer.ordinal
  | .choice solutions => ∃ layer ∈ component.layers, solutions.any layer.isOf = true
  | .dynamic raw => ∀ known condition solutions, lookups = some known →
      raw.condition? = some condition → known.resolved? condition = some solutions →
      ∃ layer ∈ component.layers, Text.lowercase layer.solution ∈ solutions

namespace Pushdown

variable {component : Component} {lookups : Option Lookups}

theorem holds_narrowStep_literal {before after : List Step} {solution : String} :
    (∀ predicate ∈ narrowStep lookups before (.literal solution) after,
        ComponentPredicate.holds component predicate = true)
      ↔ Step.Met lookups component before (.literal solution) after := by
  rw [narrowStep, Step.Met, List.forall_mem_singleton, LayerPredicate.holds_someLayer,
    List.any_eq_true]
  refine exists_congr fun layer => and_congr_right fun _ => ?_
  rw [LayerPredicate.holds_all, List.all_cons, LayerPredicate.holds_named, Bool.and_eq_true]
  refine and_congr_right fun _ => ?_
  cases lookups with
  | none => simp
  | some known =>
      rw [Option.elim_some, List.all_eq_true, LayerPredicate.holds_bounds]
      simp

theorem holds_narrowStep_choice {before after : List Step} {solutions : List String} :
    (∀ predicate ∈ narrowStep lookups before (.choice solutions) after,
        ComponentPredicate.holds component predicate = true)
      ↔ Step.Met lookups component before (.choice solutions) after := by
  rw [narrowStep, Step.Met, List.forall_mem_singleton, ComponentPredicate.holds_any]
  simp only [List.any_map, List.any_eq_true, Function.comp_apply, holds_hasLayerOf]
  constructor
  · rintro ⟨solution, hs, layer, hl, hof⟩
    exact ⟨layer, hl, solution, hs, hof⟩
  · rintro ⟨layer, hl, solution, hs, hof⟩
    exact ⟨solution, hs, layer, hl, hof⟩

theorem holds_narrowStep_dynamic {before after : List Step} {raw : RawCondition} :
    (∀ predicate ∈ narrowStep lookups before (.dynamic raw) after,
        ComponentPredicate.holds component predicate = true)
      ↔ Step.Met lookups component before (.dynamic raw) after := by
  rw [Step.Met]
  cases lookups with
  | none =>
      have hnil : narrowStep none before (.dynamic raw) after = [] := rfl
      rw [hnil]
      constructor
      · intro _ known _ _ hknown
        cases hknown
      · intro _ predicate hmem
        cases hmem
  | some known =>
      cases hraw : raw.condition? with
      | none =>
          have hnil : narrowStep (some known) before (.dynamic raw) after = [] := by
            simp only [narrowStep, hraw]
          rw [hnil]
          constructor
          · intro _ _ _ _ _ hcondition
            cases hcondition
          · intro _ predicate hmem
            cases hmem
      | some condition =>
          simp only [narrowStep, hraw, List.forall_mem_map, Option.mem_toList,
            LayerPredicate.holds_someLayer, List.any_eq_true, LayerPredicate.holds,
            LayerTest.holds, List.contains_iff_mem]
          constructor
          · intro h _ _ solutions hknown hcondition hsolutions
            cases hknown
            cases hcondition
            exact h solutions hsolutions
          · exact fun h solutions hsolutions => h known condition solutions rfl rfl hsolutions

theorem holds_narrowStep {before after : List Step} {step : Step} :
    (∀ predicate ∈ narrowStep lookups before step after,
        ComponentPredicate.holds component predicate = true)
      ↔ step.Met lookups component before after := by
  cases step with
  | literal solution => exact holds_narrowStep_literal
  | choice solutions => exact holds_narrowStep_choice
  | dynamic raw => exact holds_narrowStep_dynamic

theorem holds_narrowSteps {before steps : List Step} :
    (∀ predicate ∈ narrowSteps lookups before steps,
        ComponentPredicate.holds component predicate = true)
      ↔ ∀ earlier step after, steps = earlier ++ step :: after →
          step.Met lookups component (before ++ earlier) after := by
  induction steps generalizing before with
  | nil =>
      constructor
      · exact fun _ earlier step after h => absurd h (by simp)
      · exact fun _ _ hmem => nomatch hmem
  | cons first steps ih =>
      rw [narrowSteps, List.forall_mem_append, holds_narrowStep, ih]
      constructor
      · rintro ⟨hfirst, hrest⟩ earlier step after h
        cases earlier with
        | nil =>
            cases h
            rw [List.append_nil]
            exact hfirst
        | cons _ earlier =>
            cases h
            have hstep := hrest earlier step after rfl
            rw [List.append_assoc] at hstep
            exact hstep
      · intro h
        constructor
        · have hfirst := h [] first steps rfl
          rw [List.append_nil] at hfirst
          exact hfirst
        · intro earlier step after hsplit
          have hstep := h (first :: earlier) step after (by rw [hsplit]; rfl)
          rw [List.append_assoc]
          exact hstep

/-- The predicate of a sequence asks what it asks for each of the steps. -/
theorem holds_sequence_iff {steps : List Step} :
    ComponentPredicate.holds component (sequence lookups steps .positive) = true
      ↔ ∀ before step after, steps = before ++ step :: after →
          step.Met lookups component before after := by
  rw [sequence, ComponentPredicate.holds_all, List.all_eq_true, holds_narrowSteps]
  rfl

end Pushdown

end Strata
