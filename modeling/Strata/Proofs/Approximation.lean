import Strata.Filter.Capability
import Strata.Proofs.Interpretation

/-!
# Predicates err on one side only

What a store cannot evaluate is replaced by something that is too weak where the filter counts
positively and too strong where it counts negatively. `Polarity.Widens` is the relation between what
is exact and what stands for it, and every way of building filters respects it: negation turns the
side around, and the connectives and the search for a layer keep it. So an induction over the
filter carries it from the leaves to the root (`Filter.valueIn_widens`). Leaves that a store can
evaluate are exact, an unknown one is the constant of its side, and of a sequence the induction
assumes that its predicate does not lose the component (`Pushdown.Keeps`). Without lookups that is
so, whatever ordinals the layers have.
-/

namespace Strata

/-! ## Sides -/

/-- Whether an answer may stand for the exact one where filters count as the polarity says: for a
positive one it may hold of more, for a negative one of less. -/
def Polarity.Widens (polarity : Polarity) (exact answer : Bool) : Prop :=
  match polarity with
  | .positive => exact = true → answer = true
  | .negative => answer = true → exact = true

namespace Polarity.Widens

variable {polarity : Polarity}

theorem of_eq {exact answer : Bool} (h : answer = exact) : polarity.Widens exact answer := by
  subst h
  cases polarity <;> exact id

theorem const_widest : polarity.Widens false polarity.widest := by
  cases polarity with
  | positive => exact fun _ => rfl
  | negative => exact id

theorem not {exact answer : Bool} (h : polarity.flip.Widens exact answer) :
    polarity.Widens (!exact) (!answer) := by
  cases polarity <;> cases exact <;> cases answer <;> simp_all [Widens, flip]

theorem and {exact₁ answer₁ exact₂ answer₂ : Bool} (h₁ : polarity.Widens exact₁ answer₁)
    (h₂ : polarity.Widens exact₂ answer₂) :
    polarity.Widens (exact₁ && exact₂) (answer₁ && answer₂) := by
  cases polarity <;> cases exact₁ <;> cases answer₁ <;> simp_all [Widens]

theorem or {exact₁ answer₁ exact₂ answer₂ : Bool} (h₁ : polarity.Widens exact₁ answer₁)
    (h₂ : polarity.Widens exact₂ answer₂) :
    polarity.Widens (exact₁ || exact₂) (answer₁ || answer₂) := by
  cases polarity <;> cases exact₁ <;> cases answer₁ <;> simp_all [Widens]

theorem any {α : Type} {list : List α} {exact answer : α → Bool}
    (h : ∀ a ∈ list, polarity.Widens (exact a) (answer a)) :
    polarity.Widens (list.any exact) (list.any answer) := by
  induction list with
  | nil => exact of_eq rfl
  | cons a list ih =>
      rw [List.forall_mem_cons] at h
      exact h.1.or (ih h.2)

theorem all {α : Type} {list : List α} {exact answer : α → Bool}
    (h : ∀ a ∈ list, polarity.Widens (exact a) (answer a)) :
    polarity.Widens (list.all exact) (list.all answer) := by
  induction list with
  | nil => exact of_eq rfl
  | cons a list ih =>
      rw [List.forall_mem_cons] at h
      exact h.1.and (ih h.2)

theorem someLayer {scope : Scope} {component : Component} {exact answer : Layer → Bool}
    (h : ∀ layer, polarity.Widens (exact layer) (answer layer)) :
    polarity.Widens (scope.someLayer component exact) (scope.someLayer component answer) := by
  cases scope with
  | component => exact .any fun layer _ => h layer
  | layer this => exact h this

end Polarity.Widens

/-! ## Sequences in filters

Of the sequences in a filter only those count that stand under an even number of negations. The
others become a constant. -/

namespace Filter

mutual

/-- The sequences in a filter that count positively, from left to right, if the filter itself counts
as the polarity says. -/
def sequences : Filter → Polarity → List (SequenceMode × List Step)
  | .sequence mode steps, .positive => [(mode, steps)]
  | .anyLayer (some child), polarity => child.sequences polarity
  | .layerOf _ (some child), polarity => child.sequences polarity
  | .all children, polarity => sequencesOfEach children polarity
  | .any children, polarity => sequencesOfEach children polarity
  | .not (some child), polarity => child.sequences polarity.flip
  | _, _ => []

/-- The sequences in some filters that count positively. -/
def sequencesOfEach : List Filter → Polarity → List (SequenceMode × List Step)
  | [], _ => []
  | child :: rest, polarity => child.sequences polarity ++ sequencesOfEach rest polarity

end

theorem sequencesOfEach_eq (filters : List Filter) (polarity : Polarity) :
    sequencesOfEach filters polarity = filters.flatMap fun filter => filter.sequences polarity := by
  induction filters with
  | nil => rfl
  | cons filter filters ih => rw [sequencesOfEach, List.flatMap_cons, ih]

theorem mem_sequencesOfEach {filters : List Filter} {polarity : Polarity}
    {tested : SequenceMode × List Step} :
    tested ∈ sequencesOfEach filters polarity
      ↔ ∃ filter ∈ filters, tested ∈ filter.sequences polarity := by
  rw [sequencesOfEach_eq, List.mem_flatMap]

end Filter

/-- Whether the predicate that a sequence becomes keeps a component that satisfies the sequence. -/
def Pushdown.Keeps (pushdown : Pushdown) (component : Component)
    (tested : SequenceMode × List Step) : Prop :=
  tested.1.accepts tested.2 component.layers = true →
    ComponentPredicate.holds component (sequence pushdown.lookups tested.2 .positive) = true

/-- Without lookups, what a sequence becomes asks for layers that the walk has taken. -/
theorem Pushdown.keeps_of_no_lookups {pushdown : Pushdown} (h : pushdown.lookups = none)
    (component : Component) (tested : SequenceMode × List Step) :
    pushdown.Keeps component tested := by
  intro haccepts
  rw [holds_sequence_iff, h]
  intro before step after hsteps
  have hmem : step ∈ tested.2 := by
    rw [hsteps]
    exact List.mem_append_right before List.mem_cons_self
  obtain ⟨layer, hlayer, hacc⟩ := SequenceMode.accepts_of_walk haccepts step hmem
  have hlayer : layer ∈ component.layers := Layer.mem_sort.1 hlayer
  cases step with
  | literal solution => exact ⟨layer, hlayer, hacc, fun _ hknown => nomatch hknown⟩
  | choice solutions => exact ⟨layer, hlayer, hacc⟩
  | dynamic raw => exact fun _ _ _ hknown => nomatch hknown

/-! ## The induction -/

/-- Whether the answers of one interpretation may stand for those of another, for unknown filters and
for sequences that count negatively. Of positive sequences it says nothing: which of them matter
depends on the filter. -/
structure Interpretation.Widens (exact answer : Interpretation) : Prop where
  unknown : ∀ polarity : Polarity,
    polarity.Widens (exact.unknown polarity) (answer.unknown polarity)
  negative : ∀ mode steps, Polarity.negative.Widens (exact.sequence mode steps .negative)
    (answer.sequence mode steps .negative)

/-- Where one interpretation may stand for another, also for the positive sequences of a filter, the
values of the filter may. -/
theorem Filter.valueIn_widens {exact answer : Interpretation} {excluded : ExcludedAttributes}
    {component : Component} (hwidens : exact.Widens answer) (filter : Filter) (polarity : Polarity)
    (scope : Scope)
    (h : ∀ tested ∈ filter.sequences polarity, Polarity.positive.Widens
      (exact.sequence tested.1 tested.2 .positive) (answer.sequence tested.1 tested.2 .positive)) :
    polarity.Widens (filter.valueIn exact excluded component polarity scope)
      (filter.valueIn answer excluded component polarity scope) := by
  induction filter using Filter.induction generalizing polarity scope with
  | component _ | layer _ | solutions _ _ | anyLayerAlone | layerOfAlone _ | notAlone =>
      rw [valueIn, valueIn]
      exact .of_eq rfl
  | unknown =>
      rw [valueIn, valueIn]
      exact hwidens.unknown polarity
  | sequence mode steps =>
      rw [valueIn, valueIn]
      cases polarity with
      | positive =>
          -- This is one of the sequences that the filter has.
          rw [sequences] at h
          exact h (mode, steps) (List.mem_singleton_self _)
      | negative => exact hwidens.negative mode steps
  | anyLayer child ih =>
      rw [sequences] at h
      rw [valueIn, valueIn]
      exact .any fun layer _ => ih polarity (.layer layer) h
  | layerOf solution child ih =>
      rw [sequences] at h
      rw [valueIn, valueIn]
      exact .someLayer fun layer => .and (.of_eq rfl) (ih polarity (.layer layer) h)
  | all children ih =>
      rw [sequences] at h
      rw [valueIn, valueIn, allValuesIn_eq, allValuesIn_eq]
      exact .all fun child hmem => ih child hmem polarity scope fun tested htested =>
        h tested (mem_sequencesOfEach.2 ⟨child, hmem, htested⟩)
  | any children ih =>
      rw [sequences] at h
      rw [valueIn, valueIn, anyValueIn_eq, anyValueIn_eq]
      exact .any fun child hmem => ih child hmem polarity scope fun tested htested =>
        h tested (mem_sequencesOfEach.2 ⟨child, hmem, htested⟩)
  | not child ih =>
      rw [sequences] at h
      rw [valueIn, valueIn]
      exact .not (ih polarity.flip scope h)

namespace Pushdown

variable {pushdown : Pushdown} {component : Component}

theorem interpretation_widens : component.interpretation.Widens (pushdown.interpretation component)
    where
  unknown _ := .const_widest
  negative _ _ := by
    show ComponentPredicate.holds component (.const false) = true → _
    rw [ComponentPredicate.holds]
    exact fun hfalse => absurd hfalse Bool.false_ne_true

/-- A component that satisfies a filter satisfies its predicate, or the other way round, depending
on the place, as long as none of the sequences in it loses the component. -/
theorem component_widens (filter : Filter) (polarity : Polarity)
    (h : ∀ tested ∈ filter.sequences polarity, pushdown.Keeps component tested) :
    polarity.Widens (filter.holdsIn pushdown.excluded component .component)
      (ComponentPredicate.holds component (pushdown.component filter polarity)) := by
  rw [filter.holdsIn_eq_valueIn polarity, holds_component_eq_valueIn]
  exact filter.valueIn_widens interpretation_widens polarity .component h

end Pushdown

end Strata
