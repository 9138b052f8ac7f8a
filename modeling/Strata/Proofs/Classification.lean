import Strata.Proofs.Exactness

/-!
# What decides the class of a filter

A store can evaluate a filter unless a sequence stands in it, and can narrow one with sequences
unless an unknown filter does. The class of a filter is found by a recursion of its own, and so is
whether a sequence stands in it. Both come down to the same step: something that the filter is by
itself, and the same question for the filters directly under it (`capability_eq`,
`containsSequence_eq`). So an induction over the filters directly under a filter relates each of
them to what stands in the filter, without regard to how the filters under it are kept.
-/

namespace Strata

namespace Capability

theorem full_worse (a : Capability) : full.worse a = a := by
  cases a <;> rfl

theorem worse_full (a : Capability) : a.worse full = a := by
  cases a <;> rfl

theorem worse_left_comm (a b c : Capability) : a.worse (b.worse c) = b.worse (a.worse c) := by
  cases a <;> cases b <;> cases c <;> rfl

theorem worse_eq_inMemory {a b : Capability} :
    a.worse b = .inMemory ↔ a = .inMemory ∨ b = .inMemory := by
  cases a <;> cases b <;> decide

end Capability

namespace Filter

/-! ## The filters under a filter -/

/-- What holds of a filter whenever it holds of its children holds of every filter. -/
@[elab_as_elim]
theorem induction_children {motive : Filter → Prop}
    (step : ∀ filter, (∀ child ∈ filter.children, motive child) → motive filter)
    (filter : Filter) : motive filter := by
  induction filter using Filter.induction with
  | component _ | layer _ | solutions _ _ | sequence _ _ | anyLayerAlone | layerOfAlone _
  | notAlone | unknown => exact step _ (List.forall_mem_nil _)
  | anyLayer child ih | layerOf _ child ih | not child ih =>
      exact step _ (List.forall_mem_singleton.2 ih)
  | all children ih | any children ih => exact step _ ih

/-- A filter stands in another if it is that filter or stands in one directly under it. -/
inductive StandsIn (part : Filter) : Filter → Prop
  | self : StandsIn part part
  | under {filter child : Filter} (hmem : child ∈ filter.children) (h : StandsIn part child) :
      StandsIn part filter

theorem standsIn_iff {part filter : Filter} :
    StandsIn part filter ↔ part = filter ∨ ∃ child ∈ filter.children, StandsIn part child := by
  constructor
  · intro h
    cases h with
    | self => exact .inl rfl
    | under hmem h => exact .inr ⟨_, hmem, h⟩
  · rintro (rfl | ⟨child, hmem, h⟩)
    · exact .self
    · exact .under hmem h

/-! ## One step -/

/-- What a store can do with a filter as far as the filters under it do not matter. -/
def ownCapability : Filter → Capability
  | .sequence _ _ => .hybrid
  | .unknown => .inMemory
  | _ => .full

theorem capability_eq (filter : Filter) :
    filter.capability = filter.ownCapability.worse (worstOf filter.children) := by
  cases filter with
  | component _ | layer _ | solutions _ _ | sequence _ _ | unknown =>
      simp only [capability, ownCapability, children, worstOf, Capability.worse_full]
  | all _ | any _ => simp only [capability, ownCapability, children, Capability.full_worse]
  | anyLayer child | layerOf _ child | not child =>
      cases child <;>
        simp only [capability, ownCapability, children, Option.toList, worstOf,
          Capability.worse_full, Capability.full_worse]

theorem anyContainsSequence_eq (filters : List Filter) :
    anyContainsSequence filters = filters.any containsSequence := by
  induction filters with
  | nil => rfl
  | cons filter filters ih => rw [anyContainsSequence, List.any_cons, ih]

theorem containsSequence_eq (filter : Filter) :
    filter.containsSequence = (filter.steps?.isSome || filter.children.any containsSequence) := by
  cases filter with
  | component _ | layer _ | solutions _ _ | sequence _ _ | unknown => rfl
  | all _ | any _ => exact anyContainsSequence_eq _
  | anyLayer child | layerOf _ child | not child =>
      cases child with
      | none => rfl
      | some child => exact (Bool.or_false _).symm

theorem worstOf_perm {a b : List Filter} (h : a.Perm b) : worstOf a = worstOf b := by
  induction h with
  | nil => rfl
  | cons filter _ ih => rw [worstOf, worstOf, ih]
  | swap first second rest => exact Capability.worse_left_comm _ _ (worstOf rest)
  | trans _ _ iha ihb => exact iha.trans ihb

theorem worstOf_map {f : Filter → Filter} {filters : List Filter}
    (h : ∀ filter ∈ filters, (f filter).capability = filter.capability) :
    worstOf (filters.map f) = worstOf filters := by
  induction filters with
  | nil => rfl
  | cons filter filters ih =>
      rw [List.forall_mem_cons] at h
      rw [List.map_cons, worstOf, worstOf, h.1, ih h.2]

theorem worstOf_eq_inMemory_iff (filters : List Filter) :
    worstOf filters = .inMemory ↔ ∃ filter ∈ filters, filter.capability = .inMemory := by
  induction filters with
  | nil => simp [worstOf]
  | cons filter filters ih =>
      simp only [worstOf, Capability.worse_eq_inMemory, ih, List.mem_cons, exists_eq_or_imp]

/-! ## The classes -/

theorem containsSequence_iff (filter : Filter) :
    filter.containsSequence = true ↔ ∃ mode steps, StandsIn (.sequence mode steps) filter := by
  induction filter using induction_children with
  | step filter ih =>
      have hown : filter.steps?.isSome = true ↔ ∃ mode steps, .sequence mode steps = filter := by
        cases filter <;> simp [steps?]
      rw [containsSequence_eq, Bool.or_eq_true, hown, List.any_eq_true]
      constructor
      · rintro (⟨mode, steps, rfl⟩ | ⟨child, hmem, h⟩)
        · exact ⟨mode, steps, .self⟩
        · obtain ⟨mode, steps, h⟩ := (ih child hmem).1 h
          exact ⟨mode, steps, .under hmem h⟩
      · rintro ⟨mode, steps, h⟩
        rcases standsIn_iff.1 h with h | ⟨child, hmem, h⟩
        · exact .inl ⟨mode, steps, h⟩
        · exact .inr ⟨child, hmem, (ih child hmem).2 ⟨mode, steps, h⟩⟩

theorem capability_eq_inMemory_iff (filter : Filter) :
    filter.capability = .inMemory ↔ StandsIn .unknown filter := by
  induction filter using induction_children with
  | step filter ih =>
      have hown : filter.ownCapability = .inMemory ↔ .unknown = filter := by
        cases filter <;> simp [ownCapability]
      rw [capability_eq, Capability.worse_eq_inMemory, worstOf_eq_inMemory_iff, standsIn_iff, hown]
      exact or_congr_right (exists_congr fun child => and_congr_right (ih child))

theorem capability_eq_full_iff (filter : Filter) :
    filter.capability = .full ↔ ¬ StandsIn .unknown filter ∧ filter.containsSequence = false := by
  induction filter using induction_children with
  | step filter ih =>
      have hown : filter.ownCapability = .full
          ↔ .unknown ≠ filter ∧ filter.steps?.isSome = false := by
        cases filter <;> simp [ownCapability, steps?]
      have hchildren : (∀ child ∈ filter.children, child.capability = .full)
          ↔ (¬ ∃ child ∈ filter.children, StandsIn .unknown child) ∧
            ∀ child ∈ filter.children, ¬ child.containsSequence = true := by
        rw [forall₂_congr ih]
        simp only [not_exists, not_and, Bool.not_eq_true, imp_and, forall_and]
      rw [capability_eq, Capability.worse_eq_full, worstOf_full_iff, hown, hchildren, standsIn_iff,
        containsSequence_eq, Bool.or_eq_false_iff, List.any_eq_false, not_or]
      exact and_and_and_comm

theorem capability_eq_hybrid_iff (filter : Filter) :
    filter.capability = .hybrid ↔ ¬ StandsIn .unknown filter ∧ filter.containsSequence = true := by
  have hfull := filter.capability_eq_full_iff
  have hinMemory := filter.capability_eq_inMemory_iff
  cases hcapability : filter.capability <;> simp_all

end Filter

end Strata
