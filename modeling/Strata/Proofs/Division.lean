import Strata.Proofs.Consultation
import Strata.Proofs.Planning

/-!
# How filters are divided

A filter that a store can narrow goes to it whole and stays whole as the residual. One in which an
unknown filter stands is divided if it is a conjunction: the store gets the children that it can
evaluate, the residual has the others, and both are in the order of the conjunction. There is always
something left for the residual, since a conjunction is no worse than the worst of its children.

What is divided holds no sequence as far as it goes to the store, and a predicate consults lookups
for sequences only. So the predicate of every plan that is not hybrid is one tree, whatever lookups
there are (`finalPredicate_of_shape`).
-/

namespace Strata

/-! ## Filters without sequences -/

theorem Filter.containsSequence_of_mem_sequences {filter : Filter} {polarity : Polarity}
    {tested : SequenceMode × List Step} (h : tested ∈ filter.sequences polarity) :
    filter.containsSequence = true := by
  induction filter using Filter.induction generalizing polarity with
  | component _ | layer _ | solutions _ _ | anyLayerAlone | layerOfAlone _ | notAlone | unknown =>
      simp only [sequences, List.not_mem_nil] at h
  | sequence _ _ => rfl
  | anyLayer child ih | layerOf _ child ih | not child ih =>
      rw [sequences] at h
      rw [containsSequence]
      exact ih h
  | all children ih | any children ih =>
      rw [sequences, mem_sequencesOfEach] at h
      obtain ⟨child, hmem, h⟩ := h
      rw [containsSequence, anyContainsSequence_eq, List.any_eq_true]
      exact ⟨child, hmem, ih child hmem h⟩

theorem Pushdown.predicate_eq_of_full {a b : Pushdown} {filter : Filter}
    (hexcluded : a.excluded = b.excluded) (h : filter.capability = .full) :
    a.predicate (some filter) = b.predicate (some filter) := by
  refine component_congr hexcluded filter .positive fun tested htested => ?_
  have hnone := (filter.capability_eq_full_iff.1 h).2
  rw [Filter.containsSequence_of_mem_sequences htested] at hnone
  cases hnone

namespace Plan

variable {config : Config} {filter : Filter}

/-! ## Plans of a class -/

theorem ofFilter_of_inMemory (hforced : config.forceInMemory = false)
    (h : filter.capability = .inMemory) :
    ofFilter config filter = divide config.excluded filter := by
  simp only [ofFilter, hforced, h, Bool.false_eq_true, if_false]

theorem residual_of_hybrid (h : (ofFilter config filter).shape = .hybrid) :
    (ofFilter config filter).residual = some filter := by
  obtain ⟨hforced, hhybrid⟩ := shape_eq_hybrid_iff.1 h
  have hchecked := (filter.capability_eq_hybrid_iff.1 hhybrid).2
  simp only [ofFilter, hforced, hhybrid, hchecked, Bool.false_eq_true, if_false, if_true]

theorem of_shape_eq_split (h : (ofFilter config filter).shape = .split) :
    config.forceInMemory = false ∧ filter.capability = .inMemory := by
  cases hforced : config.forceInMemory with
  | true => simp [ofFilter, hforced, inMemory] at h
  | false =>
      cases hcapability : filter.capability with
      | full => simp [ofFilter, hforced, hcapability] at h
      | hybrid => simp [ofFilter, hforced, hcapability] at h
      | inMemory => exact ⟨rfl, rfl⟩

/-! ## Divided conjunctions -/

/-- Whether a filter stands for the conjunction of some: for a single one that one does. -/
def StandsFor (whole : Filter) (parts : List Filter) : Prop :=
  parts = [whole] ∨ 2 ≤ parts.length ∧ whole = .all parts

theorem standsFor_conjunction {parts : List Filter} (h : parts ≠ []) :
    StandsFor (conjunction parts) parts := by
  match parts with
  | [] => exact absurd rfl h
  | [_] => exact .inl rfl
  | _ :: _ :: rest => exact .inr ⟨Nat.le_add_left 2 rest.length, rfl⟩

/-- Whether a plan divides the children of a conjunction: some are pushed to the store and the
others are kept. -/
structure Divides (plan : Plan) (children pushed kept : List Filter) : Prop where
  shape : plan.shape = .split
  pushdown : ∃ whole, plan.pushdown = some whole ∧ StandsFor whole pushed
  residual : ∃ whole, plan.residual = some whole ∧ StandsFor whole kept
  pushed_full : ∀ child ∈ pushed, child.capability = .full
  kept_not_full : ∀ child ∈ kept, child.capability ≠ .full
  pushed_sublist : pushed.Sublist children
  kept_sublist : kept.Sublist children
  perm : (pushed ++ kept).Perm children

theorem divides_divide (excluded : ExcludedAttributes) {children : List Filter}
    (hfull : ∃ child ∈ children, child.capability = .full)
    (hunknown : (Filter.all children).capability = .inMemory) :
    (divide excluded (.all children)).Divides children (children.filter isTranslatable)
      (children.filter fun child => !isTranslatable child) := by
  have hpushed : children.filter isTranslatable ≠ [] := by
    obtain ⟨child, hmem, h⟩ := hfull
    exact List.ne_nil_of_mem (List.mem_filter.2 ⟨hmem, isTranslatable_iff.2 h⟩)
  have hkept : children.filter (fun child => !isTranslatable child) ≠ [] := by
    -- the conjunction is unknown because one of its children is
    rw [Filter.capability, Filter.worstOf_eq_inMemory_iff] at hunknown
    obtain ⟨child, hmem, h⟩ := hunknown
    refine List.ne_nil_of_mem (List.mem_filter.2 ⟨hmem, ?_⟩)
    simp [isTranslatable, h]
  rw [divide, if_neg (mt List.isEmpty_iff.1 hpushed)]
  constructor
  case shape => rfl
  case pushdown => exact ⟨_, rfl, standsFor_conjunction hpushed⟩
  case residual => exact ⟨_, rfl, standsFor_conjunction hkept⟩
  case pushed_full => exact fun child hmem => isTranslatable_iff.1 (List.mem_filter.1 hmem).2
  case kept_not_full =>
    intro child hmem h
    have hnot := (List.mem_filter.1 hmem).2
    rw [isTranslatable_iff.2 h] at hnot
    cases hnot
  case pushed_sublist => exact List.filter_sublist
  case kept_sublist => exact List.filter_sublist
  case perm => exact List.filter_append_perm isTranslatable children

theorem exists_pushdown_divide (excluded : ExcludedAttributes)
    (h : (divide excluded filter).shape = .split) :
    ∃ pushed, (divide excluded filter).pushdown = some pushed ∧ pushed.capability = .full := by
  cases filter with
  | all children =>
      rw [divide] at h ⊢
      split at h
      · cases h
      · next hpushed =>
          rw [if_neg hpushed]
          exact ⟨_, rfl, conjunction_translatable children⟩
  | _ => cases h

theorem divide_of_indivisible (excluded : ExcludedAttributes)
    (h : ∀ children, filter = .all children → ∀ child ∈ children, child.capability ≠ .full) :
    ∃ rationale, divide excluded filter = inMemory .inMemory filter rationale := by
  cases filter with
  | all children =>
      have hnot : ∀ child ∈ children, isTranslatable child = false := fun child hmem =>
        decide_eq_false (h children rfl child hmem)
      have hpushed : children.filter isTranslatable = [] :=
        List.filter_eq_nil_iff.2 fun child hmem => by simp [hnot child hmem]
      have hkept : children.filter (fun child => !isTranslatable child) = children :=
        List.filter_eq_self.2 fun child hmem => by simp [hnot child hmem]
      refine ⟨.nothingTranslatable, ?_⟩
      rw [divide, hpushed, hkept]
      rfl
  | _ => exact ⟨_, rfl⟩

theorem exists_pushdown_of_split {root : Option Filter} (h : (make config root).shape = .split) :
    ∃ pushed, (make config root).pushdown = some pushed ∧ pushed.capability = .full := by
  cases root with
  | none => cases h
  | some filter =>
      rw [make_eq] at h ⊢
      obtain ⟨hforced, hunknown⟩ := of_shape_eq_split h
      rw [ofFilter_of_inMemory hforced hunknown] at h ⊢
      exact exists_pushdown_divide config.excluded h

/-! ## Predicates that consult nothing -/

theorem finalPredicate_divide (filter : Filter) (lookups : Lookups) :
    (divide config.excluded filter).finalPredicate config lookups
      = (divide config.excluded filter).predicate := by
  cases filter with
  | all children =>
      rw [divide]
      split
      · rfl
      · exact Pushdown.predicate_eq_of_full (by rfl) (conjunction_translatable children)
  | _ => rfl

theorem finalPredicate_of_shape (config : Config) (root : Option Filter)
    (h : (make config root).shape ≠ .hybrid) (lookups : Lookups) :
    (make config root).finalPredicate config lookups = (make config root).predicate := by
  cases root with
  | none => rfl
  | some filter =>
      rw [make_eq] at h ⊢
      cases hforced : config.forceInMemory with
      | true =>
          simp only [ofFilter, hforced, if_true]
          rfl
      | false =>
          cases hcapability : (planned config filter).capability with
          | full =>
              simp only [ofFilter, hforced, hcapability, Bool.false_eq_true, if_false]
              exact Pushdown.predicate_eq_of_full (by rfl) hcapability
          | hybrid => exact absurd (shape_eq_hybrid_iff.2 ⟨hforced, hcapability⟩) h
          | inMemory =>
              rw [ofFilter_of_inMemory hforced hcapability]
              exact finalPredicate_divide _ lookups

/-! ## Classes and plans -/

/-- An unknown filter that stands in a filter decides the class of it, and if there is none a
sequence does. So a hybrid plan checks its whole filter again, and nothing of the kind stands in what
a split plan pushes to the store. -/
theorem classes_exact :
    (∀ filter : Filter,
      (filter.capability = .inMemory ↔ Filter.StandsIn .unknown filter) ∧
      (filter.capability = .hybrid
        ↔ ¬ Filter.StandsIn .unknown filter ∧ filter.containsSequence = true) ∧
      (filter.capability = .full
        ↔ ¬ Filter.StandsIn .unknown filter ∧ filter.containsSequence = false) ∧
      (filter.containsSequence = true
        ↔ ∃ mode steps, Filter.StandsIn (.sequence mode steps) filter)) ∧
    ∀ (config : Config) (root : Option Filter),
      ((make config root).shape = .hybrid →
        ∃ filter, root = some filter ∧
          (make config root).residual = some (planned config filter)) ∧
      ((make config root).shape = .split →
        ∃ pushed, (make config root).pushdown = some pushed ∧
          ¬ Filter.StandsIn .unknown pushed ∧ pushed.containsSequence = false) := by
  refine ⟨fun filter => ⟨filter.capability_eq_inMemory_iff, filter.capability_eq_hybrid_iff,
    filter.capability_eq_full_iff, filter.containsSequence_iff⟩, fun config root => ⟨?_, ?_⟩⟩
  · intro h
    cases root with
    | none => cases h
    | some filter => exact ⟨filter, rfl, residual_of_hybrid h⟩
  · intro h
    obtain ⟨pushed, hpushdown, hfull⟩ := exists_pushdown_of_split h
    exact ⟨pushed, hpushdown, pushed.capability_eq_full_iff.1 hfull⟩

/-- A sequence under a negation makes a plan hybrid, and one beside an unknown filter stays out of
what is pushed. -/
theorem classes_exact_of_sequence :
    let walked : Filter := .sequence .strict [.literal "base", .literal "patch"]
    let unordered : Filter := .not (some (.anyLayer (some walked)))
    let mixed : Filter := .all [walked, .not (some (.has "base")), .anyLayer (some .unknown)]
    (make {} (some unordered)).shape = .hybrid ∧
    (make {} (some unordered)).residual = some (planned {} unordered) ∧
    (make {} (some mixed)).shape = .split ∧
    ∃ pushed, (make {} (some mixed)).pushdown = some pushed ∧
      ¬ Filter.StandsIn .unknown pushed ∧ pushed.containsSequence = false := by
  intro walked unordered mixed
  have hhybrid : (make {} (some unordered)).shape = .hybrid := by decide +kernel
  have hsplit : (make {} (some mixed)).shape = .split := by decide +kernel
  obtain ⟨filter, hfilter, hresidual⟩ := (classes_exact.2 {} (some unordered)).1 hhybrid
  cases hfilter
  exact ⟨hhybrid, hresidual, hsplit, (classes_exact.2 {} (some mixed)).2 hsplit⟩

/-- A plan of a filter with an unknown part. If a child of a conjunction can be evaluated by a
store, the children are divided, and else all is kept. Whatever lookups there are, the predicate is
the one that the plan was made with, as it is for every filter that a store evaluates alone. -/
theorem division_exact (config : Config) :
    (∀ filter, config.forceInMemory = false → filter.capability = .inMemory →
      (∀ children, planned config filter = .all children →
        (∃ child ∈ children, child.capability = .full) →
        ∃ pushed kept, (make config (some filter)).Divides children pushed kept) ∧
      ((∀ children, planned config filter = .all children →
          ∀ child ∈ children, child.capability ≠ .full) →
        (make config (some filter)).shape = .inMemory ∧
        (make config (some filter)).predicate = .const true ∧
        (make config (some filter)).residual = some (planned config filter)) ∧
      ∀ lookups, (make config (some filter)).finalPredicate config lookups
        = (make config (some filter)).predicate) ∧
    ∀ root : Option Filter, (make config root).shape = .relational →
      ∀ lookups, (make config root).finalPredicate config lookups
        = (make config root).predicate := by
  constructor
  · intro filter hforced hcapability
    have hplanned : (planned config filter).capability = .inMemory := by
      rw [capability_planned, hcapability]
    have hmake : make config (some filter) = divide config.excluded (planned config filter) :=
      ofFilter_of_inMemory hforced hplanned
    refine ⟨fun children hroot hfull => ?_, fun hnone => ?_, fun lookups => ?_⟩
    · rw [hmake]
      rw [hroot] at hplanned ⊢
      exact ⟨_, _, divides_divide config.excluded hfull hplanned⟩
    · obtain ⟨rationale, hdivide⟩ := divide_of_indivisible config.excluded hnone
      rw [hmake, hdivide]
      exact ⟨rfl, rfl, rfl⟩
    · rw [hmake]
      exact finalPredicate_divide _ lookups
  · intro root h lookups
    refine finalPredicate_of_shape config root ?_ lookups
    rw [h]
    exact fun heq => nomatch heq

/-- A conjunction is divided even if it is ranked, a disjunction is not, and a negation is pushed
whole. -/
theorem division_exact_of_ranked :
    let config : Config := { rankBySelectivity := true }
    let parts : List Filter := [.unknown, .has "base", .sequence .strict [], .has "patch"]
    let disjunction : Filter := .any [.has "base", .unknown]
    let negation : Filter := .not (some (.has "base"))
    let lookups := Lookups.empty.insertRange "base" ⟨1, 2⟩
    (∃ pushed kept, (make config (some (.all parts))).Divides
      (stableSort Filter.atLeastAsSelective parts) pushed kept) ∧
    (make config (some disjunction)).shape = .inMemory ∧
    (make config (some disjunction)).residual = some disjunction ∧
    (make config (some negation)).finalPredicate config lookups
      = (make config (some negation)).predicate := by
  intro config parts disjunction negation lookups
  obtain ⟨hunknown, hrelational⟩ := division_exact config
  have hfull : ∃ child ∈ stableSort Filter.atLeastAsSelective parts, child.capability = .full :=
    ⟨.has "base", mem_stableSort.2 (List.mem_cons_of_mem _ List.mem_cons_self), rfl⟩
  obtain ⟨hdivided, -, -⟩ := hunknown (.all parts) rfl (by decide +kernel)
  obtain ⟨-, hkept, -⟩ := hunknown disjunction rfl (by decide +kernel)
  obtain ⟨hshape, -, hresidual⟩ := hkept fun _ heq => nomatch heq
  exact ⟨hdivided _ rfl hfull, hshape, hresidual,
    hrelational (some negation) (by decide +kernel) lookups⟩

end Plan

end Strata
