import Strata.Proofs.RankedForm

/-!
# What is asked, exactly

A filter is gone through depth first, itself before the filters under it and these from left to
right (`depthFirst`). Whatever is collected from filters by a recursion over their children is read
off that list, the steps of sequences and the names of solutions alike (`collected_eq`). So the
questions of a filter can be said by what is met on the way: one question for the names of literal
and choice steps, if there are any, and one for each condition of a dynamic step, where of names and
of conditions that differ in case only the first one counts.
-/

namespace Strata

namespace Filter

/-! ## Going through a filter -/

theorem sizeOf_lt_of_mem_children {filter child : Filter} (h : child ∈ filter.children) :
    sizeOf child < sizeOf filter := by
  cases filter with
  | component _ | layer _ | solutions _ _ | sequence _ _ | unknown => exact nomatch h
  | all list | any list =>
      have hlt : sizeOf child < sizeOf list := List.sizeOf_lt_of_mem h
      simp only [all.sizeOf_spec, any.sizeOf_spec]
      omega
  | anyLayer rest | layerOf _ rest | not rest =>
      cases rest with
      | none => exact nomatch h
      | some only =>
          rw [List.mem_singleton.1 h]
          simp only [anyLayer.sizeOf_spec, layerOf.sizeOf_spec, not.sizeOf_spec,
            Option.some.sizeOf_spec]
          omega

/-- A filter and all that stand in it, each before those under it and these from left to right. -/
def depthFirst (filter : Filter) : List Filter :=
  filter :: filter.children.attach.flatMap fun child => depthFirst child.1
termination_by filter
decreasing_by exact sizeOf_lt_of_mem_children child.2

theorem depthFirst_eq (filter : Filter) :
    filter.depthFirst = filter :: filter.children.flatMap depthFirst := by
  rw [depthFirst, List.flatMap_subtype fun _ _ => rfl, List.unattach_attach]

theorem mem_depthFirst {part filter : Filter} :
    part ∈ filter.depthFirst ↔ StandsIn part filter := by
  induction filter using induction_children with
  | step filter ih =>
      rw [depthFirst_eq, List.mem_cons, List.mem_flatMap, standsIn_iff]
      exact or_congr_right (exists_congr fun child => and_congr_right (ih child))

/-- What is collected from a filter itself and then from its children is what each filter has by
itself, as they are met. -/
theorem collected_eq {α : Type} {own collected : Filter → List α}
    (h : ∀ filter, collected filter = own filter ++ filter.children.flatMap collected)
    (filter : Filter) : collected filter = filter.depthFirst.flatMap own := by
  induction filter using induction_children with
  | step filter ih =>
      rw [h, depthFirst_eq, List.flatMap_cons, List.flatMap_assoc]
      exact congrArg _ (List.flatMap_congr ih)

/-- The steps of the sequences in a filter, as they are met. -/
def metSteps (filter : Filter) : List Step :=
  filter.depthFirst.flatMap fun part => part.steps?.getD []

theorem allSteps_eq_metSteps (filter : Filter) : filter.allSteps = filter.metSteps :=
  collected_eq allSteps_eq filter

theorem mem_metSteps {step : Step} {filter : Filter} :
    step ∈ filter.metSteps
      ↔ ∃ mode steps, StandsIn (.sequence mode steps) filter ∧ step ∈ steps := by
  rw [metSteps, List.mem_flatMap]
  constructor
  · rintro ⟨part, hpart, hstep⟩
    cases part with
    | sequence mode steps => exact ⟨mode, steps, mem_depthFirst.1 hpart, hstep⟩
    | _ => cases hstep
  · rintro ⟨mode, steps, hpart, hstep⟩
    exact ⟨.sequence mode steps, mem_depthFirst.2 hpart, hstep⟩

theorem exists_named_iff {filter : Filter} :
    filter.metSteps.flatMap Step.solutions ≠ []
      ↔ ∃ mode steps, StandsIn (.sequence mode steps) filter ∧
        ∃ step ∈ steps, step.solutions ≠ [] := by
  simp only [ne_eq, List.flatMap_eq_nil_iff, not_forall, exists_prop, mem_metSteps]
  constructor
  · rintro ⟨step, ⟨mode, steps, hpart, hstep⟩, hnamed⟩
    exact ⟨mode, steps, hpart, step, hstep, hnamed⟩
  · rintro ⟨mode, steps, hpart, step, hstep, hnamed⟩
    exact ⟨step, ⟨mode, steps, hpart, hstep⟩, hnamed⟩

/-- The names of a sequence are among those that the filter names. -/
theorem mem_solutionNames_of_met {filter : Filter} {name : String}
    (h : name ∈ filter.metSteps.flatMap Step.solutions) :
    Text.lowercase name ∈ filter.solutionNames := by
  obtain ⟨step, hstep, hname⟩ := List.mem_flatMap.1 h
  obtain ⟨mode, steps, hpart, hstep⟩ := mem_metSteps.1 hstep
  have hmentioned : name ∈ filter.mentioned := by
    rw [collected_eq mentioned_eq]
    refine List.mem_flatMap.2 ⟨_, mem_depthFirst.2 hpart, ?_⟩
    exact List.mem_flatMap.2 ⟨step, hstep, hname⟩
  rw [solutionNames_eq, mem_sortedNames]
  exact List.mem_map_of_mem hmentioned

end Filter

namespace Lookup

/-- The questions of a filter are one for names, which comes first and is there exactly if some
sequence in the filter has a literal step or an option of a choice, and one for each condition. The
names are those of all such steps and options, each in the spelling that is met first and in the
order of their lowercase; all of them are names of the filter. The conditions are those of the
dynamic steps that mean something, for each key the one that is met first, as they are met. -/
theorem extract_exact (filter : Filter) :
    ∃ (names : List String) (conditions : List LayerCondition),
      extract filter
          = (if names = [] then [] else [.ordinalRanges names]) ++ conditions.map .resolve ∧
      (names ≠ [] ↔ ∃ mode steps, Filter.StandsIn (.sequence mode steps) filter ∧
        ∃ step ∈ steps, step.solutions ≠ []) ∧
      FirstOfEach Text.lowercase (fun a b => Text.lowercase a < Text.lowercase b)
        (filter.metSteps.flatMap Step.solutions) names ∧
      names.map Text.lowercase ⊆ filter.solutionNames ∧
      FirstOfEach LayerCondition.key (comesBefore (filter.metSteps.filterMap Step.condition?))
        (filter.metSteps.filterMap Step.condition?) conditions := by
  have hnames := firstOfEach_distinctNames (filter.metSteps.flatMap Step.solutions)
  refine ⟨_, _, ?_, ?_, hnames, ?_, firstOfEach_distinctConditions _⟩
  · simp only [extract, Filter.allSteps_eq_metSteps, List.isEmpty_iff]
  · rw [ne_eq, hnames.eq_nil_iff]
    exact Filter.exists_named_iff
  · intro lowered hmem
    obtain ⟨name, hname, rfl⟩ := List.mem_map.1 hmem
    exact Filter.mem_solutionNames_of_met ((hnames.mem_iff name).1 hname).mem

/-- A name and a condition in two spellings each. The step that asks for a colour means nothing. -/
example :
    let condition (field operator value : String) : Step := .dynamic { field, operator, value }
    extract (.all [
      .not (some (.anyLayer (some (.sequence .strict
        [.choice ["patch", "Base"], condition "publisher" "eq" "Contoso"])))),
      .sequence .flexible
        [.literal "BASE", condition "Publisher" "Equals" "CONTOSO", condition "Colour" "eq" "red",
          condition "version" "beginswith" "2."]])
      = [.ordinalRanges ["Base", "patch"], .resolve { field := .publisher, value := "Contoso" },
          .resolve { field := .version, operator := .beginsWith, value := "2." }] := by
  decide +kernel

end Lookup

end Strata
