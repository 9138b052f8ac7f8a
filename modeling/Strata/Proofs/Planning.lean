import Strata.Execution
import Strata.Proofs.Exactness
import Strata.Proofs.Ranking

/-!
# Plans decide what their filters say

A component passes a plan if it satisfies the predicate that the store gets and then the residual.
There are two cases. The predicate of a hybrid plan only narrows, and the residual is the whole
filter; so a component passes exactly if it satisfies the filter and the predicate does not lose it.
In every other plan what goes to the store is exact, and the residual is what is left of the filter.
There lookups change nothing.
-/

namespace Strata

namespace Filter

theorem holds_all {excluded : ExcludedAttributes} {component : Component} (filters : List Filter) :
    (Filter.all filters).holds excluded component
      = filters.all fun filter => filter.holds excluded component := by
  rw [holds, holdsIn, allHoldIn_eq]
  rfl

end Filter

namespace Plan

variable {config : Config} {component : Component}

/-! ## Conjunctions -/

theorem holds_conjunction {excluded : ExcludedAttributes} (filters : List Filter) :
    (conjunction filters).holds excluded component
      = filters.all fun filter => filter.holds excluded component := by
  rw [conjunction.eq_def]
  split
  · rw [List.all_cons, List.all_nil, Bool.and_true]
  · exact Filter.holds_all filters

theorem conjunction_full {filters : List Filter}
    (h : ∀ filter ∈ filters, filter.capability = .full) :
    (conjunction filters).capability = .full := by
  rw [conjunction.eq_def]
  split
  · exact h _ List.mem_cons_self
  · rw [Filter.capability]
    exact (Filter.worstOf_full_iff filters).2 h

theorem isTranslatable_iff {filter : Filter} :
    isTranslatable filter = true ↔ filter.capability = .full := decide_eq_true_iff

theorem conjunction_translatable (children : List Filter) :
    (conjunction (children.filter isTranslatable)).capability = .full :=
  conjunction_full fun _ hmem => isTranslatable_iff.1 (List.mem_filter.1 hmem).2

theorem all_partition {α : Type} (list : List α) (chosen test : α → Bool) :
    ((list.filter chosen).all test && (list.filter fun a => !chosen a).all test)
      = list.all test := by
  induction list with
  | nil => rfl
  | cons a list ih =>
      rw [List.all_cons, ← ih]
      cases h : chosen a <;> simp [h, Bool.and_left_comm, Bool.and_assoc]

/-! ## What passes a plan -/

/-- The predicate of a plan with the lookups that there are. -/
def predicateWith (plan : Plan) (config : Config) (lookups : Option Lookups) : ComponentPredicate :=
  match plan.pushdown with
  | some filter => Pushdown.predicate { excluded := config.excluded, lookups } (some filter)
  | none => plan.predicate

/-- Whether a component satisfies the predicate of a plan and the residual. -/
def passes (plan : Plan) (config : Config) (lookups : Option Lookups) (component : Component) :
    Bool :=
  ComponentPredicate.holds component (plan.predicateWith config lookups)
    && satisfies config.excluded plan.residual component

theorem passes_inMemory {capability : Capability} {filter : Filter} {rationale : Rationale}
    {lookups : Option Lookups} :
    (inMemory capability filter rationale).passes config lookups component
      = filter.holds config.excluded component := by
  rw [passes, predicateWith, inMemory, ComponentPredicate.holds, Bool.true_and]
  rfl

theorem passes_divide (filter : Filter) (lookups : Option Lookups) :
    (divide config.excluded filter).passes config lookups component
      = filter.holds config.excluded component := by
  cases filter with
  | all children =>
      have hpushed := conjunction_translatable children
      have hpartition := all_partition children isTranslatable
        fun filter => filter.holds config.excluded component
      rw [Filter.holds_all, ← hpartition, divide]
      split
      · next hempty =>
          rw [List.isEmpty_iff.1 hempty, passes_inMemory, Filter.holds_all]
          rfl
      · rw [passes, predicateWith, Pushdown.holds_predicate_of_full hpushed, satisfies,
          Option.all_some, holds_conjunction, holds_conjunction]
  | _ => exact passes_inMemory

theorem shape_divide (excluded : ExcludedAttributes) (filter : Filter) :
    (divide excluded filter).shape ≠ .hybrid := by
  cases filter with
  | all children =>
      rw [divide]
      split
      · exact fun h => nomatch h
      · exact fun h => nomatch h
  | _ => exact fun h => nomatch h

theorem shape_eq_hybrid_iff {filter : Filter} :
    (ofFilter config filter).shape = .hybrid
      ↔ config.forceInMemory = false ∧ filter.capability = .hybrid := by
  cases hforced : config.forceInMemory with
  | true => simp [ofFilter, hforced, inMemory]
  | false =>
      cases hcapability : filter.capability with
      | full => simp [ofFilter, hforced, hcapability]
      | hybrid => simp [ofFilter, hforced, hcapability]
      | inMemory => simp [ofFilter, hforced, hcapability, shape_divide]

/-- A plan that is not hybrid lets through what satisfies its filter, whatever lookups there are. -/
theorem passes_of_exact {filter : Filter} (h : (ofFilter config filter).shape ≠ .hybrid)
    (lookups : Option Lookups) :
    (ofFilter config filter).passes config lookups component
      = filter.holds config.excluded component := by
  rw [ofFilter]
  split
  · exact passes_inMemory
  · next hforced =>
      split
      · next hfull =>
          rw [passes, predicateWith, Pushdown.holds_predicate_of_full hfull]
          exact Bool.and_true _
      · next hhybrid =>
          exact absurd (shape_eq_hybrid_iff.2 ⟨Bool.eq_false_iff.2 hforced, hhybrid⟩) h
      · exact passes_divide filter lookups

/-- A hybrid plan lets through what satisfies its filter and is not lost by the predicate. -/
theorem passes_of_hybrid {filter : Filter} (h : (ofFilter config filter).shape = .hybrid)
    (lookups : Option Lookups) :
    (ofFilter config filter).passes config lookups component
      = (ComponentPredicate.holds component
            (Pushdown.predicate { excluded := config.excluded, lookups } (some filter))
          && filter.holds config.excluded component) := by
  obtain ⟨hforced, hhybrid⟩ := shape_eq_hybrid_iff.1 h
  have hchecked := (filter.capability_eq_hybrid_iff.1 hhybrid).2
  simp [passes, predicateWith, ofFilter, hforced, hhybrid, hchecked, satisfies]

theorem holds_of_passes {filter : Filter} {lookups : Option Lookups}
    (h : (ofFilter config filter).passes config lookups component = true) :
    filter.holds config.excluded component = true := by
  by_cases hshape : (ofFilter config filter).shape = .hybrid
  · rw [passes_of_hybrid hshape, Bool.and_eq_true] at h
    exact h.2
  · rw [passes_of_exact hshape] at h
    exact h

/-- A plan loses nothing as long as none of the sequences in its filter does. -/
theorem passes_of_keeps {filter : Filter} {lookups : Option Lookups}
    (hkeeps : ∀ tested ∈ filter.sequences .positive,
      Pushdown.Keeps { excluded := config.excluded, lookups } component tested)
    (h : filter.holds config.excluded component = true) :
    (ofFilter config filter).passes config lookups component = true := by
  by_cases hshape : (ofFilter config filter).shape = .hybrid
  · rw [passes_of_hybrid hshape, h, Bool.and_true]
    exact Pushdown.holds_predicate_of_keeps hkeeps h
  · rw [passes_of_exact hshape]
    exact h

/-! ## Plans as they are made -/

/-- The filter that a plan is made of: the ranked one if filters are ranked. -/
def planned (config : Config) (filter : Filter) : Filter :=
  if config.rankBySelectivity then filter.ranked else filter

theorem make_eq (config : Config) (filter : Filter) :
    make config (some filter) = ofFilter config (planned config filter) := rfl

theorem sequences_planned (config : Config) (filter : Filter) (polarity : Polarity) :
    ((planned config filter).sequences polarity).Perm (filter.sequences polarity) := by
  rw [planned]
  split
  · exact Filter.sequences_ranked filter polarity
  · exact .refl _

theorem holds_planned (config : Config) (filter : Filter) :
    (planned config filter).holds config.excluded component
      = filter.holds config.excluded component := by
  rw [planned]
  split
  · exact Filter.holds_ranked filter
  · rfl

theorem capability_planned (config : Config) (filter : Filter) :
    (planned config filter).capability = filter.capability := by
  rw [planned]
  split
  · exact filter.capability_ranked
  · rfl

/-- What passes the plan of a filter satisfies the filter, whatever the lookups say. -/
theorem satisfies_of_passes {filter : Option Filter} {lookups : Option Lookups}
    (h : (make config filter).passes config lookups component = true) :
    satisfies config.excluded filter component = true := by
  cases filter with
  | none => rfl
  | some filter =>
      rw [satisfies, Option.all_some, ← holds_planned]
      rw [make_eq] at h
      exact holds_of_passes h

theorem passes_make {filter : Option Filter} {lookups : Option Lookups}
    (hkeeps : ∀ root, filter = some root → ∀ tested ∈ root.sequences .positive,
      Pushdown.Keeps { excluded := config.excluded, lookups } component tested) :
    (make config filter).passes config lookups component
      = satisfies config.excluded filter component := by
  rw [Bool.eq_iff_iff]
  refine ⟨satisfies_of_passes, fun h => ?_⟩
  cases filter with
  | none => rfl
  | some filter =>
      rw [satisfies, Option.all_some, ← holds_planned] at h
      rw [make_eq]
      refine passes_of_keeps (fun tested hmem => ?_) h
      exact hkeeps filter rfl tested ((sequences_planned config filter .positive).mem_iff.1 hmem)

theorem predicateWith_none_divide (filter : Filter) :
    (divide config.excluded filter).predicateWith config none
      = (divide config.excluded filter).predicate := by
  cases filter with
  | all children =>
      rw [divide]
      split
      · rfl
      · rfl
  | _ => rfl

theorem predicateWith_none_ofFilter (filter : Filter) :
    (ofFilter config filter).predicateWith config none = (ofFilter config filter).predicate := by
  rw [ofFilter]
  split
  · rfl
  · split
    · rfl
    · rfl
    · exact predicateWith_none_divide filter

/-- Without lookups, the predicate of a plan is the one that was made with it. -/
theorem predicateWith_none (config : Config) (filter : Option Filter) :
    (make config filter).predicateWith config none = (make config filter).predicate := by
  cases filter with
  | none => rfl
  | some filter => exact predicateWith_none_ofFilter _

/-- A component passes the plan of a filter exactly if it satisfies the filter, whatever is
excluded, forced or ranked, and whatever ordinals its layers have. -/
theorem predicate_and_residual_eq_satisfies (config : Config) (filter : Option Filter)
    (component : Component) :
    (ComponentPredicate.holds component (make config filter).predicate
        && satisfies config.excluded (make config filter).residual component)
      = satisfies config.excluded filter component := by
  have hkeeps : ∀ root, filter = some root → ∀ tested ∈ root.sequences .positive,
      Pushdown.Keeps { excluded := config.excluded } component tested :=
    fun _ _ tested _ => Pushdown.keeps_of_no_lookups rfl component tested
  rw [← predicateWith_none]
  exact passes_make hkeeps

end Plan

end Strata
