import Strata.Proofs.Consultation
import Strata.Proofs.Executing

/-!
# Lookups only tighten

The more lookups know, and the narrower it is, the fewer components satisfy the predicate that is
made with them. The ordinal of a layer lies above the least ones of the steps before and below the
greatest of those after; a range that is known in addition, or is narrower, leaves less room for it.
A resolution with fewer solutions is satisfied by fewer layers. That is so where a sequence counts
positively. Where it counts negatively its predicate is the constant false, whatever lookups there
are. So the one predicate may stand for the other in the sense of `Polarity.Widens`, and the
induction of `Filter.valueIn_widens` carries that to the root. Nothing depends on what the lookups
were collected from.
-/

namespace Strata

theorem Lookups.eq_empty_of_isEmpty {lookups : Lookups} (h : lookups.isEmpty = true) :
    lookups = .empty := by
  obtain ⟨ranges, resolutions⟩ := lookups
  rw [isEmpty, Bool.and_eq_true, List.isEmpty_iff, List.isEmpty_iff] at h
  obtain ⟨rfl, rfl⟩ := h
  rfl

/-- Whether lookups know all that others do, and as narrowly: of each range a part, and of the
solutions that satisfy a condition some. They may know more. -/
structure Lookups.Refines (tight loose : Lookups) : Prop where
  ranges : ∀ solution range, loose.range? solution = some range →
    ∃ narrower, tight.range? solution = some narrower ∧
      range.min ≤ narrower.min ∧ narrower.max ≤ range.max
  resolutions : ∀ condition solutions, loose.resolved? condition = some solutions →
    ∃ fewer, tight.resolved? condition = some fewer ∧ fewer ⊆ solutions

namespace Lookups.Refines

variable {tight loose : Lookups} {component : Component} {before after : List Step} {step : Step}

theorem of_empty : tight.Refines .empty where
  ranges _ _ h := nomatch h
  resolutions _ _ h := nomatch h

/-- Answers for one solution that are added on both sides may be narrower on one. -/
theorem insertRange {range narrower : OrdinalRange} (h : tight.Refines loose) (solution : String)
    (hmin : range.min ≤ narrower.min) (hmax : narrower.max ≤ range.max) :
    (tight.insertRange solution narrower).Refines (loose.insertRange solution range) where
  ranges other known hknown := by
    rw [range?_insertRange] at hknown ⊢
    split at hknown
    · next hsame =>
        cases hknown
        exact ⟨narrower, by rw [if_pos hsame], hmin, hmax⟩
    · next hsame =>
        rw [if_neg hsame]
        exact h.ranges other known hknown
  resolutions := h.resolutions

/-! ## Steps -/

theorem bounds {ordinal : Ordinal} (h : tight.Refines loose)
    (hbounds : tight.Bounds before after ordinal) : loose.Bounds before after ordinal where
  above solution range hmem hrange := by
    obtain ⟨narrower, hnarrower, hmin, -⟩ := h.ranges solution range hrange
    exact Int64.lt_of_le_of_lt hmin (hbounds.above solution narrower hmem hnarrower)
  below solution range hmem hrange := by
    obtain ⟨narrower, hnarrower, -, hmax⟩ := h.ranges solution range hrange
    exact Int64.lt_of_lt_of_le (hbounds.below solution narrower hmem hnarrower) hmax

theorem met (h : tight.Refines loose) (hmet : step.Met (some tight) component before after) :
    step.Met (some loose) component before after := by
  cases step with
  | literal solution =>
      obtain ⟨layer, hlayer, hof, hbounds⟩ := hmet
      refine ⟨layer, hlayer, hof, fun known hknown => ?_⟩
      cases hknown
      exact h.bounds (hbounds tight rfl)
  | choice solutions => exact hmet
  | dynamic raw =>
      intro known condition solutions hknown hcondition hsolutions
      cases hknown
      obtain ⟨fewer, hfewer, hsubset⟩ := h.resolutions condition solutions hsolutions
      obtain ⟨layer, hlayer, hmem⟩ := hmet tight condition fewer rfl hcondition hfewer
      exact ⟨layer, hlayer, hsubset hmem⟩

theorem holds_sequence {steps : List Step} (h : tight.Refines loose)
    (hholds : ComponentPredicate.holds component
      (Pushdown.sequence (some tight) steps .positive) = true) :
    ComponentPredicate.holds component
      (Pushdown.sequence (some loose) steps .positive) = true := by
  rw [Pushdown.holds_sequence_iff] at hholds ⊢
  exact fun before step after hsteps => h.met (hholds before step after hsteps)

/-! ## Filters -/

theorem interpretation_widens (excluded : ExcludedAttributes) (component : Component) :
    (Pushdown.interpretation { excluded, lookups := some tight } component).Widens
      (Pushdown.interpretation { excluded, lookups := some loose } component) where
  unknown _ := .of_eq rfl
  negative _ _ := .of_eq rfl

theorem holds_predicate {excluded : ExcludedAttributes} {filter : Option Filter}
    (h : tight.Refines loose)
    (hholds : ComponentPredicate.holds component
      (Pushdown.predicate { excluded, lookups := some tight } filter) = true) :
    ComponentPredicate.holds component
      (Pushdown.predicate { excluded, lookups := some loose } filter) = true := by
  cases filter with
  | none => exact hholds
  | some filter =>
      rw [Pushdown.holds_predicate_eq_valueIn] at hholds ⊢
      refine filter.valueIn_widens (interpretation_widens excluded component) .positive .component
        (fun tested _ => ?_) hholds
      exact h.holds_sequence

end Lookups.Refines

namespace Plan

variable {config : Config} {component : Component}

theorem predicateWith_empty (config : Config) (filter : Option Filter) :
    (make config filter).predicateWith config (some .empty) = (make config filter).predicate := by
  rw [← predicateWith_none, predicateWith, predicateWith]
  split
  · exact (Pushdown.predicate_none_eq_empty config.excluded _).symm
  · rfl

theorem holds_predicateWith_of_refines {plan : Plan} {tight loose : Lookups}
    (h : tight.Refines loose)
    (hholds : ComponentPredicate.holds component (plan.predicateWith config (some tight)) = true) :
    ComponentPredicate.holds component (plan.predicateWith config (some loose)) = true := by
  rw [predicateWith] at hholds ⊢
  split at hholds
  · exact h.holds_predicate hholds
  · exact hholds

/-- Lookups that refine others make a predicate that fewer components satisfy, whatever either of
them was collected from. So the predicate of a plan with whatever lookups is satisfied only by what
satisfies the predicate that the plan was made with, and with no answers it is that predicate. -/
theorem predicate_antitone (filter : Option Filter) (component : Component) :
    (∀ (excluded : ExcludedAttributes) (tight loose : Lookups), tight.Refines loose →
      ComponentPredicate.holds component
        (Pushdown.predicate { excluded, lookups := some tight } filter) = true →
      ComponentPredicate.holds component
        (Pushdown.predicate { excluded, lookups := some loose } filter) = true) ∧
    ∀ (config : Config) (lookups : Lookups),
      (ComponentPredicate.holds component ((make config filter).finalPredicate config lookups)
          = true →
        ComponentPredicate.holds component (make config filter).predicate = true) ∧
      (lookups.isEmpty = true →
        (make config filter).finalPredicate config lookups = (make config filter).predicate) := by
  refine ⟨fun _ _ _ h => h.holds_predicate, fun config lookups => ⟨fun hholds => ?_, fun h => ?_⟩⟩
  · rw [finalPredicate_eq] at hholds
    rw [← predicateWith_empty]
    exact holds_predicateWith_of_refines .of_empty hholds
  · rw [finalPredicate_eq, Lookups.eq_empty_of_isEmpty h]
    exact predicateWith_empty config filter

/-- Under two negations, a range that is narrower and a condition that is known in addition: one
component is kept by either predicate, and one by the looser only. -/
theorem predicate_antitone_of_narrower :
    let condition : RawCondition := { field := "publisher", operator := "eq", value := "Contoso" }
    let filter : Filter := .not (some (.anyLayer (some (.not (some
      (.sequence .flexible [.literal "base", .dynamic condition, .literal "patch"]))))))
    let loose := Lookups.empty.insertRange "Base" ⟨0, 9⟩
    let tight := (Lookups.empty.insertResolution { field := .publisher, value := "contoso" }
      ["Addon"]).insertRange "Base" ⟨2, 5⟩
    let keptByBoth : Component :=
      { logicalName := "account", componentType := "Form", layers := [
          { solution := "Base", ordinal := 2 }, { solution := "Addon", ordinal := 3 },
          { solution := "Patch", ordinal := 4 }] }
    let keptByOne : Component :=
      { logicalName := "contact", componentType := "Form", layers := [
          { solution := "Base", ordinal := 1 }, { solution := "Patch", ordinal := 2 }] }
    let predicate (lookups : Lookups) : ComponentPredicate :=
      Pushdown.predicate { excluded := ⟨[]⟩, lookups := some lookups } (some filter)
    tight.Refines loose ∧
    ComponentPredicate.holds keptByBoth (predicate tight) = true ∧
    ComponentPredicate.holds keptByBoth (predicate loose) = true ∧
    ComponentPredicate.holds keptByOne (predicate tight) = false ∧
    ComponentPredicate.holds keptByOne (predicate loose) = true := by
  intro condition filter loose tight keptByBoth keptByOne predicate
  have hrefines : tight.Refines loose :=
    Lookups.Refines.of_empty.insertRange "Base" (by decide) (by decide)
  have htight : ComponentPredicate.holds keptByBoth (predicate tight) = true := by decide +kernel
  have hantitone := (predicate_antitone (some filter) keptByBoth).1 ⟨[]⟩ tight loose hrefines
  exact ⟨hrefines, htight, hantitone htight, by decide +kernel, by decide +kernel⟩

end Plan

end Strata
