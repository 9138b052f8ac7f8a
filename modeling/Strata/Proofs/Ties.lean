import Strata.Proofs.StoreAnswers

/-!
# Layers of one ordinal

A store accepts components with layers of one ordinal, and the walk of a sequence takes such layers
in the order in which they are stored. The bounds that lookups put on ordinals are strict. So where
a sequence takes two layers of one ordinal, the predicate may lose a component that satisfies the
filter. This happens exactly if no other layers give the bounds room, which may belong to the
component or to any other in the store: ranges are taken over the whole of it.

The store's answers are the least ranges, so each bound is the ordinal of a layer in the store.
Hence a component that the predicate of a sequence keeps separates the sequence, and what a sequence
loses is no less than what is said above.
-/

namespace Strata

/-! ## Collected from a store -/

namespace Store

variable {ε : Type} {store : Store} {questions : List Lookup} {lookups : Lookups}

/-- The ranges that were collected are those of the store. -/
theorem range?_of_collect
    (hcollect : Lookups.collect (store.accessor : Accessor ε) questions = .ok lookups) :
    ∀ solution range, lookups.range? solution = some range →
      store.range? solution = some range := by
  refine Lookups.foldlM_ask_induction
    (fun lookups => ∀ solution range, lookups.range? solution = some range →
      store.range? solution = some range) ?_ ?_ hcollect ?_
  · intro known solutions ranges _ hanswer entry hentry h solution range hrange
    cases hanswer
    rw [Lookups.range?_insertRange] at hrange
    split at hrange
    · next hsame =>
        cases hrange
        rw [range?_congr hsame]
        exact range?_of_mem_ordinalRanges hentry
    · exact h solution range hrange
  · exact fun _ _ _ _ _ h => h
  · exact fun _ _ h => nomatch h

/-- The least and the greatest ordinal of a range are ordinals of layers in the store. -/
theorem exists_layers_of_range? {solution : String} {range : OrdinalRange}
    (h : store.range? solution = some range) :
    (∃ other ∈ store.components, ∃ layer ∈ other.layers,
      layer.isOf solution = true ∧ layer.ordinal = range.min) ∧
    (∃ other ∈ store.components, ∃ layer ∈ other.layers,
      layer.isOf solution = true ∧ layer.ordinal = range.max) := by
  have hspans := OrdinalRange.spans_ofList h
  obtain ⟨lowest, hlowest, hlow, hmin⟩ := mem_ordinals.1 hspans.min_mem
  obtain ⟨highest, hhighest, hhigh, hmax⟩ := mem_ordinals.1 hspans.max_mem
  obtain ⟨below, hbelow, hlowest⟩ := mem_layers.1 hlowest
  obtain ⟨above, habove, hhighest⟩ := mem_layers.1 hhighest
  exact ⟨⟨below, hbelow, lowest, hlowest, hlow, hmin⟩,
    ⟨above, habove, highest, hhighest, hhigh, hmax⟩⟩

end Store

/-! ## What is kept is separated -/

section

variable {ε : Type} {store : Store} {lookups : Lookups} {mode : SequenceMode} {steps : List Step}
variable {component : Component}

/-- A literal step whose solution has layers in the store has a known range, and its ends are
ordinals of such layers. -/
theorem Store.exists_range_of_literal
    (hcollect : Lookups.collect (store.accessor : Accessor ε)
      (Lookup.extract (.sequence mode steps)) = .ok lookups)
    {solution : String} {layer : Layer} (hstep : .literal solution ∈ steps)
    (hlayer : layer ∈ store.layers) (hof : layer.isOf solution = true) :
    ∃ range, lookups.range? solution = some range ∧
      (∃ other ∈ store.components, ∃ lowest ∈ other.layers,
        lowest.isOf solution = true ∧ lowest.ordinal = range.min) ∧
      (∃ other ∈ store.components, ∃ highest ∈ other.layers,
        highest.isOf solution = true ∧ highest.ordinal = range.max) := by
  have hstep : .literal solution ∈ (Filter.sequence mode steps).allSteps := hstep
  obtain ⟨solutions, kept, hasked, hkept, hsame⟩ := Lookup.exists_asked_of_literal hstep
  rw [Layer.isOf_congr hsame] at hof
  obtain ⟨entry, hentry, hentrySame⟩ := exists_mem_ordinalRanges hkept hlayer hof
  obtain ⟨range, hrange⟩ :=
    Lookups.known_of_collect hcollect hasked rfl hentry (Text.same_trans hsame hentrySame)
  exact ⟨range, hrange, exists_layers_of_range? (range?_of_collect hcollect solution range hrange)⟩

theorem Component.separates_of_holds (hmem : component ∈ store.components)
    (hcollect : Lookups.collect (store.accessor : Accessor ε)
      (Lookup.extract (.sequence mode steps)) = .ok lookups)
    (haccepts : mode.accepts steps component.layers = true)
    (hholds : ComponentPredicate.holds component
      (Pushdown.sequence (some lookups) steps .positive) = true) :
    component.Separates store.components steps := by
  -- Each literal step has accepted a layer of the component, which is in the store.
  have hstored : ∀ solution, .literal solution ∈ steps →
      ∃ layer ∈ store.layers, layer.isOf solution = true := by
    intro solution hstep
    obtain ⟨layer, hlayer, hof⟩ := SequenceMode.accepts_of_walk haccepts _ hstep
    rw [Layer.mem_sort] at hlayer
    exact ⟨layer, Store.mem_layers.2 ⟨component, hmem, hlayer⟩, hof⟩
  intro before solution after hsteps
  obtain ⟨layer, hlayer, hof, hbounds⟩ :=
    Pushdown.holds_sequence_iff.1 hholds before (.literal solution) after hsteps
  obtain ⟨habove, hbelow⟩ := hbounds lookups rfl
  refine ⟨layer, hlayer, hof, ?_, ?_⟩
  · intro earlier hearlier
    have hstep : .literal earlier ∈ steps := by
      rw [hsteps]
      exact List.mem_append_left _ hearlier
    obtain ⟨stored, hmemStored, hstoredOf⟩ := hstored earlier hstep
    obtain ⟨range, hrange, ⟨other, hother, lowest, hlowest, hlowestOf, hmin⟩, -⟩ :=
      Store.exists_range_of_literal hcollect hstep hmemStored hstoredOf
    have hlt : lowest.ordinal < layer.ordinal := by
      rw [hmin]
      exact habove earlier range hearlier hrange
    exact ⟨other, hother, lowest, hlowest, hlowestOf, hlt⟩
  · intro later hlater
    have hstep : .literal later ∈ steps := by
      rw [hsteps]
      exact List.mem_append_right before (List.mem_cons_of_mem _ hlater)
    obtain ⟨stored, hmemStored, hstoredOf⟩ := hstored later hstep
    obtain ⟨range, hrange, -, other, hother, highest, hhighest, hhighestOf, hmax⟩ :=
      Store.exists_range_of_literal hcollect hstep hmemStored hstoredOf
    have hlt : layer.ordinal < highest.ordinal := by
      rw [hmax]
      exact hbelow later range hlater hrange
    exact ⟨other, hother, highest, hhighest, hhighestOf, hlt⟩

end

/-! ## Executing on a store -/

namespace PlannedFilter

variable {ε : Type} {config : Config} {filter : Option Filter} {store : Store}

theorem execute_eq_filter_passes (config : Config) (filter : Option Filter) (store : Store) :
    ∃ lookups : Option Lookups,
      ((make config filter).execute store : Except ε (List Component))
        = .ok (store.components.filter fun component =>
            (Plan.make config filter).passes config lookups component) ∧
      (lookups = none ↔ (Plan.make config filter).lookups = []) ∧
      ∀ known, lookups = some known →
        Lookups.collect (store.accessor : Accessor ε) (Plan.make config filter).lookups
          = .ok known := by
  obtain ⟨lookups, hpredicate, hnone, hcollect⟩ :=
    predicate_of_answers fun lookup (_ : lookup ∈ (Plan.make config filter).lookups) =>
      (store.accessor_answers lookup : (store.accessor : Accessor ε).Answers lookup)
  refine ⟨lookups, ?_, hnone, hcollect⟩
  have hfaithful : Query.Faithful (fun predicate => (.ok (store.query predicate) : Except ε _))
      store.components := fun _ _ h => (Except.ok.inj h).symm
  exact executeWith_of_predicate hfaithful hpredicate ⟨_, rfl⟩

variable {lookups : Option Lookups} {component : Component}

theorem passes_of_separates (hmem : component ∈ store.components)
    (hcollect : ∀ known, lookups = some known →
      Lookups.collect (store.accessor : Accessor ε) (Plan.make config filter).lookups = .ok known)
    (hseparates : ∀ root, filter = some root → ∀ tested ∈ root.sequences .positive,
      tested.1.accepts tested.2 component.layers = true →
        component.Separates store.components tested.2) :
    (Plan.make config filter).passes config lookups component
      = (make config filter).holds component := by
  refine Plan.passes_make fun root hroot tested htested => ?_
  refine Pushdown.keeps_of_separates hmem (fun known hknown other hother => ?_)
    (hseparates root hroot tested htested)
  exact Lookups.Sound.collect store.accessor_sound (hcollect known hknown) hother

theorem holds_sequence {mode : SequenceMode} {steps : List Step} :
    (make config (some (.sequence mode steps))).holds component
      = mode.accepts steps component.layers := by
  rw [holds, make, satisfies, Option.all_some, Filter.holds, Filter.holdsIn]

theorem make_sequence (mode : SequenceMode) (steps : List Step) :
    Plan.make config (some (.sequence mode steps))
      = Plan.ofFilter config (.sequence mode steps) := by
  rw [Plan.make, Filter.ranked, ite_self]

theorem lookups_make_sequence {mode : SequenceMode} {steps : List Step}
    (hforced : config.forceInMemory = false) :
    (Plan.make config (some (.sequence mode steps))).lookups
      = Lookup.extract (.sequence mode steps) := by
  simp [make_sequence, Plan.ofFilter, hforced, Filter.capability]

theorem separates_of_passes {mode : SequenceMode} {steps : List Step}
    (hforced : config.forceInMemory = false) (hmem : component ∈ store.components)
    (hnone : lookups = none → (Plan.make config (some (.sequence mode steps))).lookups = [])
    (hcollect : ∀ known, lookups = some known →
      Lookups.collect (store.accessor : Accessor ε)
        (Plan.make config (some (.sequence mode steps))).lookups = .ok known)
    (haccepts : mode.accepts steps component.layers = true)
    (hpasses : (Plan.make config (some (.sequence mode steps))).passes config lookups component
      = true) : component.Separates store.components steps := by
  rw [lookups_make_sequence hforced] at hnone hcollect
  cases lookups with
  | some known =>
      have hshape : (Plan.ofFilter config (.sequence mode steps)).shape = .hybrid :=
        Plan.shape_eq_hybrid_iff.2 ⟨hforced, rfl⟩
      rw [make_sequence, Plan.passes_of_hybrid hshape, Bool.and_eq_true] at hpasses
      exact Component.separates_of_holds hmem (hcollect known rfl) haccepts hpasses.1
  | none =>
      -- There is nothing to ask only if there are no literal steps.
      intro before solution after hsteps
      have hstep : .literal solution ∈ (Filter.sequence mode steps).allSteps := by
        rw [Filter.allSteps, hsteps]
        exact List.mem_append_right before List.mem_cons_self
      obtain ⟨solutions, kept, hextract, -, -⟩ := Lookup.exists_asked_of_literal hstep
      rw [hnone rfl] at hextract
      cases hextract

theorem passes_sequence_iff {mode : SequenceMode} {steps : List Step}
    (hforced : config.forceInMemory = false) (hmem : component ∈ store.components)
    (hnone : lookups = none → (Plan.make config (some (.sequence mode steps))).lookups = [])
    (hcollect : ∀ known, lookups = some known →
      Lookups.collect (store.accessor : Accessor ε)
        (Plan.make config (some (.sequence mode steps))).lookups = .ok known) :
    (Plan.make config (some (.sequence mode steps))).passes config lookups component = true
      ↔ mode.accepts steps component.layers = true ∧
        component.Separates store.components steps := by
  constructor
  · intro hpasses
    have haccepts : mode.accepts steps component.layers = true := by
      rw [← holds_sequence]
      exact Plan.satisfies_of_passes hpasses
    exact ⟨haccepts, separates_of_passes hforced hmem hnone hcollect haccepts hpasses⟩
  · rintro ⟨haccepts, hseparates⟩
    have hpasses := passes_of_separates hmem hcollect fun root hroot tested htested _ => by
      cases hroot
      rw [Filter.sequences, List.mem_singleton] at htested
      rw [htested]
      exact hseparates
    rw [hpasses, holds_sequence]
    exact haccepts

/-- Whatever ordinals the layers in a store have: what an execution returns are components that
satisfy the filter, in the order of the store. None is lost that separates the sequences of the
filter that count positively and that it satisfies. Nor is one whose layers have distinct ordinals,
or any if nothing was to be asked beforehand. Of a filter that is a sequence, exactly those are
returned that satisfy and separate it. -/
theorem execute_exact_of_separates (config : Config) (filter : Option Filter)
    (store : Store) :
    ∃ kept : Component → Bool,
      ((make config filter).execute store : Except ε (List Component))
        = .ok (store.components.filter kept) ∧
      ∀ component ∈ store.components,
        (kept component = true → (make config filter).holds component = true) ∧
        ((∀ root, filter = some root → ∀ tested ∈ root.sequences .positive,
            tested.1.accepts tested.2 component.layers = true →
              component.Separates store.components tested.2) →
          kept component = (make config filter).holds component) ∧
        (component.Distinct → kept component = (make config filter).holds component) ∧
        ((make config filter).plan.lookups = [] →
          kept component = (make config filter).holds component) ∧
        (∀ mode steps, filter = some (.sequence mode steps) → config.forceInMemory = false →
          (kept component = true ↔ mode.accepts steps component.layers = true ∧
            component.Separates store.components steps)) := by
  obtain ⟨lookups, hexecute, hnone, hcollect⟩ := execute_eq_filter_passes config filter store
  refine ⟨fun component => (Plan.make config filter).passes config lookups component, hexecute,
    fun component hmem => ?_⟩
  refine ⟨Plan.satisfies_of_passes, passes_of_separates hmem hcollect, ?_, ?_, ?_⟩
  · intro hdistinct
    exact passes_of_separates hmem hcollect
      fun _ _ tested _ => Component.separates_of_distinct hmem hdistinct
  · intro hempty
    refine Plan.passes_make fun _ _ tested _ => Pushdown.keeps_of_no_lookups ?_ component tested
    exact hnone.2 hempty
  · intro mode steps hfilter hforced
    subst hfilter
    exact passes_sequence_iff hforced hmem hnone.1 hcollect

/-- A component with two layers of one ordinal is kept where others make room for it. -/
theorem execute_exact_of_room :
    let tied : Component :=
      { logicalName := "account", componentType := "Form",
        layers := [{ solution := "Base", ordinal := 0 }, { solution := "Patch", ordinal := 0 }] }
    let spread : Component :=
      { logicalName := "contact", componentType := "Form",
        layers := [{ solution := "Base", ordinal := -1 }, { solution := "Patch", ordinal := 1 }] }
    let filter : Filter := .sequence .flexible [.literal "base", .literal "patch"]
    ((make {} (some filter)).execute (Store.ofList [tied, spread]) : Except String (List Component))
      = .ok [tied, spread] := by
  intro tied spread filter
  have hcomponents : (Store.ofList [tied, spread]).components = [tied, spread] := by decide +kernel
  obtain ⟨kept, hexecute, hkept⟩ :=
    @execute_exact_of_separates String {} (some filter) (Store.ofList [tied, spread])
  rw [hcomponents] at hexecute hkept
  have hroom : tied.Separates [tied, spread] [.literal "base", .literal "patch"] := by
    intro before solution after hsteps
    match before with
    | [] =>
        cases hsteps
        refine ⟨_, List.mem_cons_self, by decide +kernel, fun _ h => (nomatch h), ?_⟩
        intro later hlater
        cases List.mem_singleton.1 hlater
        decide +kernel
    | [first] =>
        cases hsteps
        refine ⟨_, List.mem_cons_of_mem _ List.mem_cons_self, by decide +kernel, ?_,
          fun _ h => (nomatch h)⟩
        intro earlier hearlier
        cases List.mem_singleton.1 hearlier
        decide +kernel
    | _ :: _ :: rest => cases rest <;> cases hsteps
  have htied : kept tied = true :=
    ((hkept tied (by decide)).2.2.2.2 _ _ rfl rfl).2 ⟨by decide +kernel, hroom⟩
  have hspread : kept spread = true := by
    rw [(hkept spread (by decide)).2.2.1 (by decide +kernel)]
    decide +kernel
  rw [hexecute, List.filter_cons_of_pos htied, List.filter_cons_of_pos hspread, List.filter_nil]

/-- Where nothing makes room, such a component is lost, although it satisfies the filter. -/
theorem execute_loses_ties :
    let tied : Component :=
      { logicalName := "x", componentType := "Form",
        layers := [{ solution := "A", ordinal := 0 }, { solution := "B", ordinal := 0 }] }
    let planned := make {} (some (.sequence .flexible [.literal "A", .literal "B"]))
    let store := Store.ofList [tied]
    store.components.filter planned.holds = [tied] ∧
    (planned.execute store : Except String (List Component)) = .ok [] ∧
    (planned.execute store : Except String (List Component))
      ≠ .ok (store.components.filter planned.holds) := by
  intro tied planned store
  have hholds : store.components.filter planned.holds = [tied] := by decide +kernel
  have hnone : (planned.execute store : Except String (List Component)).toOption = some [] := by
    decide +kernel
  generalize (planned.execute store : Except String (List Component)) = rows at hnone ⊢
  cases rows with
  | error failure => nomatch hnone
  | ok rows =>
      cases hnone
      rw [hholds]
      exact ⟨rfl, rfl, fun h => nomatch h⟩

end PlannedFilter

end Strata
