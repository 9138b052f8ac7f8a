import Strata.Proofs.Ranking
import Strata.Proofs.Spelling

/-!
# The ranked form of a filter

Ranking is a normal form. What it makes of a filter can be said without it: the filter with the
children of every conjunction, ranked themselves, in the order of their selectivity, and those of
one selectivity as they came (`IsRanking`). There is one such filter, and ranking finds it
(`isRanking_iff`). A filter that is ranked already is left as it is. That does not follow from the
selectivity of a conjunction being what it was, since a product of doubles may depend on the order
of its factors; it follows because the children come first and are as they will stay when they are
sorted.

Of selectivity nothing is used but that filters are compared by numbers.
-/

namespace Strata.Filter

/-! ## The order -/

/-- The place of a filter in the order of selectivity. -/
def place (filter : Filter) : Int := floatRank filter.selectivity

theorem atLeastAsSelective_iff {a b : Filter} :
    atLeastAsSelective a b = true ↔ a.place ≤ b.place := decide_eq_true_iff

/-- Whether a list has the filters of another in the order of their selectivity, and those of one
selectivity in the order in which they came. -/
structure IsSortOf (sorted filters : List Filter) : Prop where
  perm : sorted.Perm filters
  ordered : sorted.Pairwise fun a b => a.place ≤ b.place
  stable : ∀ place, (sorted.filter fun filter => filter.place == place)
    = filters.filter fun filter => filter.place == place

theorem atLeastAsSelective_total (a b : Filter) :
    atLeastAsSelective a b = true ∨ atLeastAsSelective b a = true := by
  rw [atLeastAsSelective_iff, atLeastAsSelective_iff]
  omega

theorem atLeastAsSelective_trans (a b c : Filter) :
    atLeastAsSelective a b = true → atLeastAsSelective b c = true →
      atLeastAsSelective a c = true := by
  simp only [atLeastAsSelective_iff]
  omega

theorem stableSort_pairwise_place (filters : List Filter) :
    (stableSort atLeastAsSelective filters).Pairwise fun a b => a.place ≤ b.place :=
  (stableSort_pairwise atLeastAsSelective_total atLeastAsSelective_trans filters).imp
    atLeastAsSelective_iff.1

theorem isSortOf_stableSort (filters : List Filter) :
    IsSortOf (stableSort atLeastAsSelective filters) filters where
  perm := stableSort_perm filters
  ordered := stableSort_pairwise_place filters
  stable place := by
    refine filter_stableSort atLeastAsSelective_total atLeastAsSelective_trans (fun a b ha hb => ?_)
      filters
    have hplaces : a.place = b.place := (beq_iff_eq.1 ha).trans (beq_iff_eq.1 hb).symm
    exact atLeastAsSelective_iff.2 (Int.le_of_eq hplaces)

theorem isSortOf_iff {sorted filters : List Filter} :
    IsSortOf sorted filters ↔ sorted = stableSort atLeastAsSelective filters := by
  constructor
  · intro h
    have hsort := isSortOf_stableSort filters
    refine eq_of_filter_eq Int.le_refl (fun _ _ => Int.le_antisymm)
      (h.perm.trans hsort.perm.symm) h.ordered hsort.ordered fun place => ?_
    rw [h.stable, hsort.stable]
  · rintro rfl
    exact isSortOf_stableSort filters

/-! ## The form -/

/-- Whether a filter is another with the children of every conjunction sorted. -/
inductive IsRanking : Filter → Filter → Prop
  | leaf {filter : Filter} (h : filter.children = []) : IsRanking filter filter
  | anyLayer {form child : Filter} (h : IsRanking form child) :
      IsRanking (.anyLayer (some form)) (.anyLayer (some child))
  | layerOf {solution : String} {form child : Filter} (h : IsRanking form child) :
      IsRanking (.layerOf solution (some form)) (.layerOf solution (some child))
  | not {form child : Filter} (h : IsRanking form child) :
      IsRanking (.not (some form)) (.not (some child))
  | any {forms children : List Filter} (h : List.Forall₂ IsRanking forms children) :
      IsRanking (.any forms) (.any children)
  | all {sorted forms children : List Filter} (h : List.Forall₂ IsRanking forms children)
      (hsort : IsSortOf sorted forms) : IsRanking (.all sorted) (.all children)

theorem forall₂_isRanking_iff {forms children : List Filter}
    (h : ∀ child ∈ children, ∀ form, IsRanking form child ↔ form = child.ranked) :
    List.Forall₂ IsRanking forms children ↔ forms = rankedEach children := by
  induction children generalizing forms with
  | nil => exact List.forall₂_nil_right_iff
  | cons child children ih =>
      rw [List.forall_mem_cons] at h
      rw [List.forall₂_cons_right_iff, rankedEach]
      constructor
      · rintro ⟨form, rest, hform, hrest, rfl⟩
        rw [(h.1 form).1 hform, (ih h.2).1 hrest]
      · rintro rfl
        exact ⟨_, _, (h.1 _).2 rfl, (ih h.2).2 rfl, rfl⟩

theorem isRanking_iff (form filter : Filter) : IsRanking form filter ↔ form = filter.ranked := by
  induction filter using Filter.induction generalizing form with
  | component _ | layer _ | solutions _ _ | sequence _ _ | anyLayerAlone | layerOfAlone _
  | notAlone | unknown =>
      rw [ranked]
      constructor
      · intro h
        cases h
        rfl
      · rintro rfl
        exact .leaf rfl
  | anyLayer child ih | layerOf _ child ih | not child ih =>
      rw [ranked]
      constructor
      · intro h
        cases h with
        | leaf h => cases h
        | _ h => rw [(ih _).1 h]
      · rintro rfl
        constructor
        exact (ih _).2 rfl
  | any children ih =>
      rw [ranked]
      constructor
      · intro h
        cases h with
        | leaf h =>
            cases h
            rfl
        | any h => rw [(forall₂_isRanking_iff ih).1 h]
      · rintro rfl
        exact .any ((forall₂_isRanking_iff ih).2 rfl)
  | all children ih =>
      rw [ranked]
      constructor
      · intro h
        cases h with
        -- without children a conjunction is a leaf as well
        | leaf h =>
            cases h
            rfl
        | all h hsort => rw [isSortOf_iff.1 hsort, (forall₂_isRanking_iff ih).1 h]
      · rintro rfl
        exact .all ((forall₂_isRanking_iff ih).2 rfl) (isSortOf_stableSort _)

/-! ## Ranking again -/

theorem rankedEach_eq_self {filters : List Filter}
    (h : ∀ filter ∈ filters, filter.ranked = filter) : rankedEach filters = filters := by
  rw [rankedEach_eq_map, List.map_congr_left h, List.map_id']

theorem forall_mem_rankedEach {children : List Filter}
    (h : ∀ child ∈ children, child.ranked.ranked = child.ranked) :
    ∀ filter ∈ rankedEach children, filter.ranked = filter := by
  intro filter hmem
  rw [rankedEach_eq_map] at hmem
  obtain ⟨child, hchild, rfl⟩ := List.mem_map.1 hmem
  exact h child hchild

theorem ranked_ranked (filter : Filter) : filter.ranked.ranked = filter.ranked := by
  induction filter using Filter.induction with
  | component _ | layer _ | solutions _ _ | sequence _ _ | anyLayerAlone | layerOfAlone _
  | notAlone | unknown => rfl
  | anyLayer child ih | layerOf _ child ih | not child ih => rw [ranked, ranked, ih]
  | any children ih => rw [ranked, ranked, rankedEach_eq_self (forall_mem_rankedEach ih)]
  | all children ih =>
      -- the selectivity of the conjunction may have changed, but not that of its ranked children
      have hranked : ∀ filter ∈ stableSort atLeastAsSelective (rankedEach children),
          filter.ranked = filter :=
        fun filter hmem => forall_mem_rankedEach ih filter (mem_stableSort.1 hmem)
      rw [ranked, ranked, rankedEach_eq_self hranked, stableSort_eq_self]
      exact stableSort_pairwise atLeastAsSelective_total atLeastAsSelective_trans _

/-! ## Names and questions -/

/-- The solutions that a filter names apart from those under it. -/
def ownNames : Filter → List String
  | .layer test => test.solutions
  | .solutions _ names => names
  | .sequence _ steps => steps.flatMap Step.solutions
  | .layerOf solution _ => [solution]
  | _ => []

theorem mentionedIn_eq (filters : List Filter) :
    mentionedIn filters = filters.flatMap mentioned := by
  induction filters with
  | nil => rfl
  | cons filter filters ih => rw [mentionedIn, List.flatMap_cons, ih]

theorem mentioned_eq (filter : Filter) :
    filter.mentioned = filter.ownNames ++ filter.children.flatMap mentioned := by
  cases filter with
  | component _ | unknown => rfl
  | layer _ | solutions _ _ | sequence _ _ => exact (List.append_nil _).symm
  | all children | any children => exact mentionedIn_eq children
  | anyLayer child | layerOf _ child | not child =>
      cases child with
      | none => rfl
      | some child =>
          simp only [mentioned, ownNames, children, Option.toList, List.flatMap_singleton,
            List.nil_append, List.singleton_append]

theorem ownNames_ranked (filter : Filter) : filter.ranked.ownNames = filter.ownNames := by
  cases filter with
  | component _ | layer _ | solutions _ _ | sequence _ _ | unknown | all _ | any _ => rfl
  | anyLayer child | layerOf _ child | not child => cases child <;> rfl

theorem solutionNames_eq (filter : Filter) :
    filter.solutionNames = sortedNames (filter.mentioned.map Text.lowercase) := by
  rw [solutionNames, sortedNames, List.foldl_map]

theorem solutionNames_ranked (filter : Filter) :
    filter.ranked.solutionNames = filter.solutionNames := by
  have hperm := perm_ranked ownNames mentioned mentioned_eq ownNames_ranked filter
  rw [solutionNames_eq, solutionNames_eq]
  exact sortedNames_congr fun name => (hperm.map Text.lowercase).mem_iff

/-- The question for some names, if there are any. -/
def questionFor (names : List String) : List Lookup :=
  if names.isEmpty then [] else [.ordinalRanges names]

theorem map_lowercased_extract (filter : Filter) :
    (Lookup.extract filter).map Lookup.lowercased
      = questionFor (sortedNames ((filter.allSteps.flatMap Step.solutions).map Text.lowercase))
        ++ ((Lookup.distinctConditions (filter.allSteps.filterMap Step.condition?)).map
            LayerCondition.key).map .resolve := by
  rw [Lookup.extract, List.map_append, List.map_map, List.map_map, questionFor,
    ← Lookup.map_lowercase_distinctNames, List.isEmpty_map]
  congr 1
  split <;> rfl

theorem extract_ranked (filter : Filter) :
    ((Lookup.extract filter.ranked).map Lookup.lowercased).Perm
      ((Lookup.extract filter).map Lookup.lowercased) := by
  have hsteps := filter.allSteps_ranked
  have hnames : sortedNames ((filter.ranked.allSteps.flatMap Step.solutions).map Text.lowercase)
      = sortedNames ((filter.allSteps.flatMap Step.solutions).map Text.lowercase) :=
    sortedNames_congr fun _ => ((hsteps.flatMap_right _).map _).mem_iff
  rw [map_lowercased_extract, map_lowercased_extract, hnames]
  refine List.Perm.append_left _ (List.Perm.map _ ?_)
  exact Lookup.keys_distinctConditions_perm (hsteps.filterMap _)

theorem holds_predicate_ranked (pushdown : Pushdown) (component : Component) (filter : Filter) :
    ComponentPredicate.holds component (pushdown.predicate (some filter.ranked))
      = ComponentPredicate.holds component (pushdown.predicate (some filter)) := by
  rw [Pushdown.holds_predicate_eq_valueIn, Pushdown.holds_predicate_eq_valueIn,
    filter.valueIn_ranked]

/-! ## The normal form -/

/-- The ranked form of a filter says what the filter says, as a filter and as a predicate with any
lookups; stores can do as much with it; it names the same solutions and asks the same questions, if
not in the same order or spelling. It is the one filter in which the children of every conjunction
are ranked and in the order of their selectivity, those of one selectivity as they came, and to rank
it again changes nothing. -/
theorem ranked_normal_form (filter : Filter) :
    (∀ excluded component,
      filter.ranked.holds excluded component = filter.holds excluded component) ∧
    (∀ (pushdown : Pushdown) (component : Component),
      ComponentPredicate.holds component (pushdown.predicate (some filter.ranked))
        = ComponentPredicate.holds component (pushdown.predicate (some filter))) ∧
    filter.ranked.capability = filter.capability ∧
    filter.ranked.containsSequence = filter.containsSequence ∧
    filter.ranked.solutionNames = filter.solutionNames ∧
    ((Lookup.extract filter.ranked).map Lookup.lowercased).Perm
      ((Lookup.extract filter).map Lookup.lowercased) ∧
    (∀ form, IsRanking form filter ↔ form = filter.ranked) ∧
    filter.ranked.ranked = filter.ranked :=
  ⟨fun _ _ => filter.holds_ranked, fun pushdown component =>
      filter.holds_predicate_ranked pushdown component,
    filter.capability_ranked, filter.containsSequence_ranked, filter.solutionNames_ranked,
    filter.extract_ranked, fun form => isRanking_iff form filter, filter.ranked_ranked⟩

end Strata.Filter
