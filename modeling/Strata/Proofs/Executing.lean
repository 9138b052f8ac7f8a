import Strata.Proofs.Planning
import Strata.Proofs.Separation

/-!
# Execution is exact

What comes out of an execution are the components that pass the plan with the lookups that were
collected. Answers of a sound accessor add up to sound lookups, and with these a plan loses nothing
of components whose layers have distinct ordinals. So it does not matter which names an accessor
leaves out, nor how wide its answers are.
-/

namespace Strata

/-! ## Running a plan -/

/-- Whether what a query returns are the components that satisfy the predicate, in order. -/
def Query.Faithful {ε : Type} (query : Query ε) (components : List Component) : Prop :=
  ∀ predicate rows, query predicate = .ok rows →
    rows = components.filter fun component => ComponentPredicate.holds component predicate

theorem Plan.finalPredicate_eq (plan : Plan) (config : Config) (lookups : Lookups) :
    plan.finalPredicate config lookups = plan.predicateWith config (some lookups) := by
  cases h : plan.pushdown with
  | none => simp only [finalPredicate, predicateWith, h]
  | some filter => simp only [finalPredicate, predicateWith, h]

namespace PlannedFilter

variable {ε : Type} {config : Config} {filter : Option Filter} {accessor : Accessor ε}

/-- The predicate that is asked for is that of the plan, with the collected answers if there is
anything to ask. -/
theorem predicate_of_answers
    (h : ∀ lookup ∈ (Plan.make config filter).lookups, accessor.Answers lookup) :
    ∃ lookups : Option Lookups,
      (make config filter).predicate accessor
        = .ok ((Plan.make config filter).predicateWith config lookups) ∧
      (lookups = none ↔ (Plan.make config filter).lookups = []) ∧
      ∀ known, lookups = some known →
        Lookups.collect accessor (Plan.make config filter).lookups = .ok known := by
  rw [predicate]
  cases hempty : (make config filter).plan.lookups.isEmpty with
  | true =>
      refine ⟨none, ?_, iff_of_true rfl (List.isEmpty_iff.1 hempty), fun _ hknown => nomatch hknown⟩
      rw [if_pos rfl, Plan.predicateWith_none]
      rfl
  | false =>
      obtain ⟨known, hcollect⟩ := Lookups.collect_ok_iff.2 h
      have hasked : (Plan.make config filter).lookups ≠ [] := by
        intro hnone
        rw [make, hnone] at hempty
        nomatch hempty
      refine ⟨some known, ?_, iff_of_false (Option.some_ne_none known) hasked, ?_⟩
      · rw [if_neg Bool.false_ne_true, make, hcollect, ← Plan.finalPredicate_eq]
        rfl
      · intro other hother
        cases hother
        exact hcollect

/-- The components that come out are those that pass the plan. -/
theorem executeWith_of_predicate {query : Query ε} {components : List Component}
    {lookups : Option Lookups} (hfaithful : Query.Faithful query components)
    (hpredicate : (make config filter).predicate accessor
      = .ok ((Plan.make config filter).predicateWith config lookups))
    (hreturns : ∃ rows, query ((Plan.make config filter).predicateWith config lookups) = .ok rows) :
    (make config filter).executeWith query accessor
      = .ok (components.filter fun component =>
          (Plan.make config filter).passes config lookups component) := by
  obtain ⟨rows, hrows⟩ := hreturns
  have hfiltered : (components.filter fun component => ComponentPredicate.holds component
        ((Plan.make config filter).predicateWith config lookups)).filter (make config filter).keeps
      = components.filter fun component =>
          (Plan.make config filter).passes config lookups component := by
    rw [List.filter_filter]
    refine List.filter_congr fun component _ => ?_
    rw [Plan.passes, Bool.and_comm]
    rfl
  rw [executeWith, hpredicate]
  show (query _ >>= fun rows => pure (rows.filter (make config filter).keeps)) = _
  rw [hrows, hfaithful _ rows hrows, ← hfiltered]
  rfl

/-- Whatever is asked beforehand and however wide the answers, what comes out are exactly the
components that satisfy the filter, in the order of the store, as long as the accessor is sound for
the store and no component has two layers of one ordinal. -/
theorem executeWith_exact {query : Query ε} {components : List Component}
    (hdistinct : ∀ component ∈ components, component.Distinct)
    (hfaithful : Query.Faithful query components) (hsound : accessor.Sound components)
    (hanswers : ∀ lookup ∈ (Plan.make config filter).lookups, accessor.Answers lookup)
    (hreturns : ∀ predicate, (make config filter).predicate accessor = .ok predicate →
      ∃ rows, query predicate = .ok rows) :
    (make config filter).executeWith query accessor
      = .ok (components.filter (satisfies config.excluded filter)) := by
  obtain ⟨lookups, hpredicate, -, hcollect⟩ := predicate_of_answers hanswers
  rw [executeWith_of_predicate hfaithful hpredicate (hreturns _ hpredicate)]
  refine congrArg Except.ok (List.filter_congr fun component hmem => ?_)
  refine Plan.passes_make fun _ _ tested _ => ?_
  refine Pushdown.keeps_of_separates hmem (fun known hknown other hother => ?_) ?_
  · exact Lookups.Sound.collect hsound (hcollect known hknown) hother
  · exact Component.separates_of_distinct hmem (hdistinct component hmem)

/-- An accessor that knows one of the names only and answers more widely than it has to. -/
theorem executeWith_exact_of_wide_answers :
    let inOrder : Component :=
      { logicalName := "account", componentType := "Entity",
        layers := [{ solution := "Base", ordinal := 1 }, { solution := "Patch", ordinal := 2 }] }
    let reversed : Component :=
      { logicalName := "contact", componentType := "Entity",
        layers := [{ solution := "Base", ordinal := 3 }, { solution := "Patch", ordinal := 2 }] }
    let condition : RawCondition := { field := "name", operator := "eq", value := "PATCH" }
    let filter : Filter := .not (some (.not (some (.sequence .flexible
      [.literal "base", .dynamic condition]))))
    let accessor : Accessor String :=
      { ordinalRanges := fun _ => .ok [("BASE", ⟨0, 9⟩)]
        resolve := fun _ => .ok ["patch", "base", "other"] }
    let query : Query String := fun predicate =>
      .ok ([inOrder, reversed].filter fun component => ComponentPredicate.holds component predicate)
    (Plan.make {} (some filter)).lookups.length = 2 ∧
    (make {} (some filter)).executeWith query accessor = .ok [inOrder] := by
  intro inOrder reversed condition filter accessor query
  have hdistinct : ∀ component ∈ [inOrder, reversed], component.Distinct := by decide +kernel
  have hfaithful : Query.Faithful query [inOrder, reversed] := fun _ _ h => (Except.ok.inj h).symm
  have hsound : accessor.Sound [inOrder, reversed] := by
    constructor
    · intro solutions ranges h entry hentry
      cases h
      cases List.mem_singleton.1 hentry
      decide +kernel
    · intro tested solutions h
      cases h
      have hnamed : ∀ component ∈ [inOrder, reversed], ∀ layer ∈ component.layers,
          ∃ solution ∈ ["patch", "base", "other"], layer.isOf solution = true := by decide +kernel
      exact fun component hmem layer hlayer _ => hnamed component hmem layer hlayer
  have hanswers : ∀ lookup ∈ (Plan.make {} (some filter)).lookups, accessor.Answers lookup := by
    intro lookup _
    cases lookup with
    | ordinalRanges solutions => exact ⟨_, rfl⟩
    | resolve tested => exact ⟨_, rfl⟩
  have hresult : [inOrder, reversed].filter (satisfies .standard (some filter)) = [inOrder] := by
    decide +kernel
  refine ⟨by decide +kernel, ?_⟩
  rw [executeWith_exact hdistinct hfaithful hsound hanswers fun _ _ => ⟨_, rfl⟩]
  exact congrArg Except.ok hresult

end PlannedFilter

end Strata
