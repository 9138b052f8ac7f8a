import Strata.Proofs.Answers
import Strata.Proofs.Approximation

/-!
# What bounds keep apart

With lookups, the predicate of a sequence asks for more than without: the layer of a literal step
has to lie above the least ordinal of every literal step before it and below the greatest of every
one after it, and conditions have to be satisfied by solutions that are known. What is lost by it is
what `Component.Separates` does not hold of: a component whose layers, though in the order of the
sequence, have no ordinals strictly between those of the steps around them. As long as the lookups
are sound, which means that ranges contain what they are ranges of and resolutions what they
resolve, nothing else is lost. They may well be wider.

A component no two layers of which share an ordinal separates whatever sequence it satisfies. For a
walk that went through knows, at any literal step, the layer taken, layers taken for the steps
before and layers for the steps after. Sorted layers of distinct ordinals lie strictly above one
another.
-/

namespace Strata

/-! ## Components -/

/-- No two layers of the component have the same ordinal. -/
def Component.Distinct (component : Component) : Prop :=
  (component.layers.map (·.ordinal)).Nodup

instance (component : Component) : Decidable component.Distinct :=
  inferInstanceAs (Decidable (component.layers.map (·.ordinal)).Nodup)

/-- Whether the component has, for each literal step, a layer strictly between the steps around it:
above some layer of every literal step before, and below some of every one after, in whatever
component of those among which it is stored. -/
def Component.Separates (component : Component) (among : List Component) (steps : List Step) :
    Prop :=
  ∀ before solution after, steps = before ++ .literal solution :: after →
    ∃ layer ∈ component.layers, layer.isOf solution = true ∧
      (∀ earlier, .literal earlier ∈ before → ∃ other ∈ among, ∃ lower ∈ other.layers,
        lower.isOf earlier = true ∧ lower.ordinal < layer.ordinal) ∧
      (∀ later, .literal later ∈ after → ∃ other ∈ among, ∃ higher ∈ other.layers,
        higher.isOf later = true ∧ layer.ordinal < higher.ordinal)

theorem Component.separates_of_distinct {component : Component} {among : List Component}
    {mode : SequenceMode} {steps : List Step} (hmem : component ∈ among)
    (hdistinct : component.Distinct) (haccepts : mode.accepts steps component.layers = true) :
    component.Separates among steps := by
  intro before solution after hsteps
  rw [SequenceMode.accepts, hsteps] at haccepts
  obtain ⟨below, layer, above, hsort, hof, hbelow, habove⟩ := SequenceMode.walk_split haccepts
  have hlayers : ∀ other, other ∈ below ++ layer :: above → other ∈ component.layers := by
    intro other hother
    rw [← hsort] at hother
    exact Layer.mem_sort.1 hother
  have hstrict := Layer.sort_strict hdistinct
  rw [hsort, List.pairwise_append, List.pairwise_cons] at hstrict
  obtain ⟨-, ⟨hupper, -⟩, hlower⟩ := hstrict
  refine ⟨layer, hlayers layer (List.mem_append_right below List.mem_cons_self), hof, ?_, ?_⟩
  · intro earlier hearlier
    obtain ⟨lower, hlow, hlowof⟩ := hbelow (.literal earlier) hearlier
    exact ⟨component, hmem, lower, hlayers lower (List.mem_append_left _ hlow), hlowof,
      hlower lower hlow layer List.mem_cons_self⟩
  · intro later hlater
    obtain ⟨higher, hhigh, hhighof⟩ := SequenceMode.accepts_of_walk habove (.literal later) hlater
    exact ⟨component, hmem, higher,
      hlayers higher (List.mem_append_right below (List.mem_cons_of_mem layer hhigh)), hhighof,
      hupper higher hhigh⟩

/-! ## Sound lookups -/

/-- Whether lookups leave out nothing of a component where they know something. -/
structure Lookups.Sound (lookups : Lookups) (component : Component) : Prop where
  ranges : ∀ solution range, lookups.range? solution = some range →
    ∀ layer ∈ component.layers, layer.isOf solution = true →
      range.min ≤ layer.ordinal ∧ layer.ordinal ≤ range.max
  resolutions : ∀ condition solutions, lookups.resolved? condition = some solutions →
    ∀ layer ∈ component.layers, layer.satisfies condition = true →
      Text.lowercase layer.solution ∈ solutions

/-- Whether what an accessor answers leaves out nothing of some components. It may answer for fewer
names than it was asked for, and answers may be wider than they have to be. -/
structure Accessor.Sound {ε : Type} (accessor : Accessor ε) (components : List Component) :
    Prop where
  ranges : ∀ solutions ranges, accessor.ordinalRanges solutions = .ok ranges →
    ∀ entry ∈ ranges, ∀ component ∈ components, ∀ layer ∈ component.layers,
      layer.isOf entry.1 = true →
        entry.2.min ≤ layer.ordinal ∧ layer.ordinal ≤ entry.2.max
  resolutions : ∀ condition solutions, accessor.resolve condition = .ok solutions →
    ∀ component ∈ components, ∀ layer ∈ component.layers, layer.satisfies condition = true →
      ∃ solution ∈ solutions, layer.isOf solution = true

namespace Lookups.Sound

variable {lookups : Lookups} {component : Component}

theorem empty : Lookups.empty.Sound component where
  ranges _ _ h := nomatch h
  resolutions _ _ h := nomatch h

theorem insertRange {solution : String} {range : OrdinalRange} (h : lookups.Sound component)
    (hrange : ∀ layer ∈ component.layers, layer.isOf solution = true →
      range.min ≤ layer.ordinal ∧ layer.ordinal ≤ range.max) :
    (lookups.insertRange solution range).Sound component where
  ranges other known hknown layer hlayer hof := by
    rw [range?_insertRange] at hknown
    split at hknown
    · next hsame =>
        cases hknown
        exact hrange layer hlayer ((Layer.isOf_congr hsame).symm.trans hof)
    · exact h.ranges other known hknown layer hlayer hof
  resolutions := h.resolutions

theorem insertResolution {condition : LayerCondition} {solutions : List String}
    (h : lookups.Sound component)
    (hsolutions : ∀ layer ∈ component.layers, layer.satisfies condition = true →
      ∃ solution ∈ solutions, layer.isOf solution = true) :
    (lookups.insertResolution condition solutions).Sound component where
  ranges := h.ranges
  resolutions other known hknown layer hlayer hsat := by
    rw [resolved?_insertResolution] at hknown
    split at hknown
    · next hkey =>
        cases hknown
        rw [Layer.satisfies_congr hkey] at hsat
        obtain ⟨solution, hsolution, hof⟩ := hsolutions layer hlayer hsat
        rw [Text.same_iff_lowercase.1 hof]
        exact List.mem_map_of_mem hsolution
    · exact h.resolutions other known hknown layer hlayer hsat

/-- What was collected from a sound accessor is sound. -/
theorem collect {ε : Type} {accessor : Accessor ε} {components : List Component}
    {questions : List Lookup} (hsound : accessor.Sound components)
    (hcollect : Lookups.collect accessor questions = .ok lookups)
    (hmem : component ∈ components) : lookups.Sound component := by
  refine foldlM_ask_induction (fun known => known.Sound component) ?_ ?_ hcollect empty
  · intro known solutions ranges _ hanswer entry hentry h
    exact h.insertRange (hsound.ranges solutions ranges hanswer entry hentry component hmem)
  · intro known condition solutions _ hanswer h
    exact h.insertResolution (hsound.resolutions condition solutions hanswer component hmem)

end Lookups.Sound

/-! ## Sequences -/

/-- Sound lookups lose no component that separates the sequences it satisfies. -/
theorem Pushdown.keeps_of_separates {pushdown : Pushdown} {component : Component}
    {among : List Component} {tested : SequenceMode × List Step} (hmem : component ∈ among)
    (hsound : ∀ known, pushdown.lookups = some known → ∀ other ∈ among, known.Sound other)
    (hseparates : tested.1.accepts tested.2 component.layers = true →
      component.Separates among tested.2) :
    pushdown.Keeps component tested := by
  intro haccepts
  rw [holds_sequence_iff]
  intro before step after hsteps
  have hstep : step ∈ tested.2 := by
    rw [hsteps]
    exact List.mem_append_right before List.mem_cons_self
  obtain ⟨layer, hlayer, hacc⟩ := SequenceMode.accepts_of_walk haccepts step hstep
  rw [Layer.mem_sort] at hlayer
  cases step with
  | choice solutions => exact ⟨layer, hlayer, hacc⟩
  | dynamic raw =>
      intro known condition solutions hknown hcondition hsolutions
      rw [Step.accepts, hcondition] at hacc
      have hsolution := (hsound known hknown component hmem).resolutions condition solutions
        hsolutions layer hlayer hacc
      exact ⟨layer, hlayer, hsolution⟩
  | literal solution =>
      obtain ⟨layer, hlayer, hof, hlower, hupper⟩ :=
        hseparates haccepts before solution after hsteps
      refine ⟨layer, hlayer, hof, fun known hknown => ⟨?_, ?_⟩⟩
      · intro earlier range hearlier hrange
        obtain ⟨other, hother, lower, hlow, hlowof, hlt⟩ := hlower earlier hearlier
        have hmin := ((hsound known hknown other hother).ranges earlier range hrange lower hlow
          hlowof).1
        exact Int64.lt_of_le_of_lt hmin hlt
      · intro later range hlater hrange
        obtain ⟨other, hother, higher, hhigh, hhighof, hlt⟩ := hupper later hlater
        have hmax := ((hsound known hknown other hother).ranges later range hrange higher hhigh
          hhighof).2
        exact Int64.lt_of_lt_of_le hlt hmax

end Strata
