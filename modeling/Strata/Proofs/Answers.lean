import Strata.Filter.Sequence
import Strata.Lookup
import Strata.Proofs.Folding
import Strata.Proofs.Tables

/-!
# Collected answers

Asking goes through the questions one after the other, each adding to what is there. Three things
follow by induction on the questions. It gets through exactly if each of the questions is answered,
since whether one is does not depend on what was asked before. It fails with the first question that
is refused. And what holds of no answers and is kept by every range and every resolution that is
added holds of what was collected.

Names and conditions are told apart without regard to case, on both sides of a lookup, and layers do
not tell apart what is equal so. That is why answers that are good for the spelling that was asked
for are good for every other.
-/

namespace Strata

/-! ## Spellings -/

theorem Layer.isOf_congr {layer : Layer} {a b : String} (h : Text.same a b = true) :
    layer.isOf a = layer.isOf b := by
  rw [isOf, isOf, Text.same_comm layer.solution a, Text.same_comm layer.solution b,
    Text.same_congr h]

theorem Operator.apply_congr {a b : String} (operator : Operator) (input : String)
    (h : Text.lowercase a = Text.lowercase b) :
    operator.apply input a = operator.apply input b := by
  rw [apply.eq_def, apply.eq_def, Text.lowercase_eq_iff.1 h]

theorem Layer.satisfies_congr {layer : Layer} {a b : LayerCondition} (h : a.key = b.key) :
    layer.satisfies a = layer.satisfies b := by
  rw [LayerCondition.key, LayerCondition.key, LayerCondition.mk.injEq] at h
  obtain ⟨hfield, hoperator, hvalue⟩ := h
  rw [satisfies, satisfies, hfield, hoperator, Operator.apply_congr _ _ hvalue]

namespace Lookups

variable {lookups : Lookups}

theorem range?_insertRange (solution other : String) (range : OrdinalRange) :
    (lookups.insertRange solution range).range? other
      = if Text.same other solution then some range else lookups.range? other := by
  rw [range?, insertRange]
  split
  · next h =>
      rw [Text.same_iff_lowercase.1 h]
      exact Table.find?_assign_self _ _ _
  · next h => exact Table.find?_assign_of_ne _ _ fun heq => h (Text.same_iff_lowercase.2 heq)

theorem resolved?_insertResolution (condition other : LayerCondition) (solutions : List String) :
    (lookups.insertResolution condition solutions).resolved? other
      = if other.key = condition.key then some (solutions.map Text.lowercase)
        else lookups.resolved? other := by
  rw [resolved?, insertResolution]
  split
  · next h =>
      rw [h]
      exact Table.find?_assign_self _ _ _
  · next h => exact Table.find?_assign_of_ne _ _ h

/-! ## Asking -/

variable {ε : Type} {accessor : Accessor ε}

/-- The ranges that were answered, added one after the other. -/
def insertRanges (lookups : Lookups) (ranges : List (String × OrdinalRange)) : Lookups :=
  ranges.foldl (fun lookups entry => lookups.insertRange entry.1 entry.2) lookups

theorem ask_ordinalRanges (lookups : Lookups) (solutions : List String) :
    ask accessor lookups (.ordinalRanges solutions)
      = (accessor.ordinalRanges solutions).map lookups.insertRanges := by
  rw [ask]
  cases accessor.ordinalRanges solutions <;> rfl

theorem ask_resolve (lookups : Lookups) (condition : LayerCondition) :
    ask accessor lookups (.resolve condition)
      = (accessor.resolve condition).map (lookups.insertResolution condition) := by
  rw [ask]
  cases accessor.resolve condition <;> rfl

end Lookups

/-- Whether a question is answered. -/
def Accessor.Answers {ε : Type} (accessor : Accessor ε) : Lookup → Prop
  | .ordinalRanges solutions => ∃ ranges, accessor.ordinalRanges solutions = .ok ranges
  | .resolve condition => ∃ solutions, accessor.resolve condition = .ok solutions

/-- Whether a question fails. -/
def Accessor.Refuses {ε : Type} (accessor : Accessor ε) (failure : ε) : Lookup → Prop
  | .ordinalRanges solutions => accessor.ordinalRanges solutions = .error failure
  | .resolve condition => accessor.resolve condition = .error failure

namespace Lookups

variable {ε : Type} {accessor : Accessor ε} {lookups : Lookups} {questions : List Lookup}

theorem map_eq_ok_iff {α β : Type} {answer : Except ε α} {f : α → β} {b : β} :
    answer.map f = .ok b ↔ ∃ a, answer = .ok a ∧ b = f a := by
  cases answer with
  | error failure => simp [Except.map]
  | ok a => simp [Except.map, eq_comm]

/-- What an answered question adds. -/
theorem ask_cases {question : Lookup} {result : Lookups}
    (h : ask accessor lookups question = .ok result) :
    (∃ solutions ranges, question = .ordinalRanges solutions ∧
      accessor.ordinalRanges solutions = .ok ranges ∧ result = lookups.insertRanges ranges) ∨
    (∃ condition solutions, question = .resolve condition ∧
      accessor.resolve condition = .ok solutions ∧
      result = lookups.insertResolution condition solutions) := by
  cases question with
  | ordinalRanges solutions =>
      rw [ask_ordinalRanges, map_eq_ok_iff] at h
      obtain ⟨ranges, hanswer, hresult⟩ := h
      exact .inl ⟨solutions, ranges, rfl, hanswer, hresult⟩
  | resolve condition =>
      rw [ask_resolve, map_eq_ok_iff] at h
      obtain ⟨solutions, hanswer, hresult⟩ := h
      exact .inr ⟨condition, solutions, rfl, hanswer, hresult⟩

theorem ask_ok_iff {question : Lookup} :
    (∃ result, ask accessor lookups question = .ok result) ↔ accessor.Answers question := by
  constructor
  · rintro ⟨result, h⟩
    rcases ask_cases h with ⟨solutions, ranges, rfl, hanswer, -⟩ |
      ⟨condition, solutions, rfl, hanswer, -⟩
    · exact ⟨ranges, hanswer⟩
    · exact ⟨solutions, hanswer⟩
  · intro h
    cases question with
    | ordinalRanges solutions =>
        obtain ⟨ranges, hanswer⟩ := h
        exact ⟨_, by rw [ask_ordinalRanges, hanswer]; rfl⟩
    | resolve condition =>
        obtain ⟨solutions, hanswer⟩ := h
        exact ⟨_, by rw [ask_resolve, hanswer]; rfl⟩

theorem foldlM_ask_cons {question : Lookup} {result : Lookups} :
    (question :: questions).foldlM (ask accessor) lookups = .ok result
      ↔ ∃ next, ask accessor lookups question = .ok next ∧
        questions.foldlM (ask accessor) next = .ok result := by
  rw [List.foldlM_cons]
  cases ask accessor lookups question <;> simp [bind, Except.bind]

theorem foldlM_ask_ok_iff :
    (∃ result, questions.foldlM (ask accessor) lookups = .ok result)
      ↔ ∀ question ∈ questions, accessor.Answers question := by
  induction questions generalizing lookups with
  | nil => simp [pure, Except.pure]
  | cons question questions ih =>
      rw [List.forall_mem_cons]
      simp only [foldlM_ask_cons]
      constructor
      · rintro ⟨result, next, hnext, hresult⟩
        exact ⟨ask_ok_iff.1 ⟨next, hnext⟩, ih.1 ⟨result, hresult⟩⟩
      · rintro ⟨hquestion, hrest⟩
        obtain ⟨next, hnext⟩ := (@ask_ok_iff _ _ lookups _).2 hquestion
        obtain ⟨result, hresult⟩ := (@ih next).2 hrest
        exact ⟨result, next, hnext, hresult⟩

/-- Asking gets through exactly if every question is answered. -/
theorem collect_ok_iff :
    (∃ result, collect accessor questions = .ok result)
      ↔ ∀ question ∈ questions, accessor.Answers question := foldlM_ask_ok_iff

/-! ## Refusals -/

section

variable {question : Lookup} {failure : ε}

theorem map_eq_error_iff {α β : Type} {answer : Except ε α} {f : α → β} :
    answer.map f = .error failure ↔ answer = .error failure := by
  cases answer <;> simp [Except.map]

theorem ask_eq_error_iff :
    ask accessor lookups question = .error failure ↔ accessor.Refuses failure question := by
  cases question with
  | ordinalRanges solutions => rw [ask_ordinalRanges, map_eq_error_iff, Accessor.Refuses]
  | resolve condition => rw [ask_resolve, map_eq_error_iff, Accessor.Refuses]

theorem foldlM_ask_cons_eq_error_iff :
    (question :: questions).foldlM (ask accessor) lookups = .error failure
      ↔ accessor.Refuses failure question ∨ ∃ next, ask accessor lookups question = .ok next ∧
        questions.foldlM (ask accessor) next = .error failure := by
  rw [List.foldlM_cons, ← @ask_eq_error_iff _ _ lookups]
  cases ask accessor lookups question <;> simp [bind, Except.bind]

theorem foldlM_ask_eq_error_iff :
    questions.foldlM (ask accessor) lookups = .error failure
      ↔ ∃ before question after, questions = before ++ question :: after ∧
        (∀ earlier ∈ before, accessor.Answers earlier) ∧ accessor.Refuses failure question := by
  induction questions generalizing lookups with
  | nil =>
      refine iff_of_false (fun h => nomatch h) ?_
      rintro ⟨before, question, after, hsplit, -⟩
      cases before <;> cases hsplit
  | cons first questions ih =>
      rw [foldlM_ask_cons_eq_error_iff]
      constructor
      · rintro (hrefused | ⟨next, hnext, hrest⟩)
        · exact ⟨[], first, questions, rfl, List.forall_mem_nil _, hrefused⟩
        · obtain ⟨before, question, after, rfl, hanswered, hrefused⟩ := ih.1 hrest
          exact ⟨first :: before, question, after, rfl,
            List.forall_mem_cons.2 ⟨ask_ok_iff.1 ⟨next, hnext⟩, hanswered⟩, hrefused⟩
      · rintro ⟨before, question, after, hsplit, hanswered, hrefused⟩
        cases before with
        | nil =>
            cases hsplit
            exact .inl hrefused
        | cons earlier before =>
            cases hsplit
            obtain ⟨hfirst, hearlier⟩ := List.forall_mem_cons.1 hanswered
            obtain ⟨next, hnext⟩ := (@ask_ok_iff _ _ lookups _).2 hfirst
            exact .inr ⟨next, hnext, ih.2 ⟨before, question, after, rfl, hearlier, hrefused⟩⟩

/-- Asking fails with the first question that is refused. -/
theorem collect_eq_error_iff :
    collect accessor questions = .error failure
      ↔ ∃ before question after, questions = before ++ question :: after ∧
        (∀ earlier ∈ before, accessor.Answers earlier) ∧ accessor.Refuses failure question :=
  foldlM_ask_eq_error_iff

end

/-! ## What the answers add -/

theorem insertRanges_induction {motive : Lookups → Prop} {ranges : List (String × OrdinalRange)}
    (hrange : ∀ lookups, ∀ entry ∈ ranges, motive lookups →
      motive (lookups.insertRange entry.1 entry.2))
    (h : motive lookups) : motive (lookups.insertRanges ranges) := by
  induction ranges generalizing lookups with
  | nil => exact h
  | cons entry ranges ih =>
      refine ih (fun known other hmem => hrange known other (List.mem_cons_of_mem _ hmem)) ?_
      exact hrange lookups entry List.mem_cons_self h

/-- What holds at the start and is kept by whatever the answers add holds in the end. -/
theorem foldlM_ask_induction (motive : Lookups → Prop)
    (hrange : ∀ lookups solutions ranges, .ordinalRanges solutions ∈ questions →
      accessor.ordinalRanges solutions = .ok ranges → ∀ entry ∈ ranges,
      motive lookups → motive (lookups.insertRange entry.1 entry.2))
    (hresolution : ∀ lookups condition solutions, .resolve condition ∈ questions →
      accessor.resolve condition = .ok solutions →
      motive lookups → motive (lookups.insertResolution condition solutions))
    {result : Lookups} (hdone : questions.foldlM (ask accessor) lookups = .ok result)
    (h : motive lookups) : motive result := by
  induction questions generalizing lookups with
  | nil =>
      cases hdone
      exact h
  | cons question questions ih =>
      obtain ⟨next, hnext, hdone⟩ := foldlM_ask_cons.1 hdone
      refine ih
        (fun known solutions ranges hmem =>
          hrange known solutions ranges (List.mem_cons_of_mem question hmem))
        (fun known condition solutions hmem =>
          hresolution known condition solutions (List.mem_cons_of_mem question hmem))
        hdone ?_
      rcases ask_cases hnext with ⟨solutions, ranges, rfl, hanswer, rfl⟩ |
        ⟨condition, solutions, rfl, hanswer, rfl⟩
      · exact insertRanges_induction
          (fun known => hrange known solutions ranges List.mem_cons_self hanswer) h
      · exact hresolution lookups condition solutions List.mem_cons_self hanswer h

/-- A question is asked at some point, and others are left then. -/
theorem exists_asked {question : Lookup} {result : Lookups} (hmem : question ∈ questions)
    (hdone : questions.foldlM (ask accessor) lookups = .ok result) :
    ∃ (known next : Lookups) (left : List Lookup), ask accessor known question = .ok next ∧
      left.foldlM (ask accessor) next = .ok result := by
  induction questions generalizing lookups with
  | nil => exact nomatch hmem
  | cons first questions ih =>
      obtain ⟨next, hnext, hrest⟩ := foldlM_ask_cons.1 hdone
      rcases List.mem_cons.1 hmem with rfl | hmem
      · exact ⟨lookups, next, questions, hnext, hrest⟩
      · exact ih hmem hrest

/-! ## Known ranges -/

/-- A range that is known stays known, if not the same. -/
theorem known_insertRange {solution : String} (other : String) (range : OrdinalRange)
    (h : ∃ known, lookups.range? solution = some known) :
    ∃ known, (lookups.insertRange other range).range? solution = some known := by
  rw [range?_insertRange]
  split
  · exact ⟨range, rfl⟩
  · exact h

theorem known_insertRanges {ranges : List (String × OrdinalRange)} {entry : String × OrdinalRange}
    {solution : String} (hmem : entry ∈ ranges) (hsame : Text.same solution entry.1 = true) :
    ∃ known, (lookups.insertRanges ranges).range? solution = some known := by
  induction ranges generalizing lookups with
  | nil => exact nomatch hmem
  | cons first ranges ih =>
      rcases List.mem_cons.1 hmem with rfl | hmem
      · refine @insertRanges_induction (lookups.insertRange entry.1 entry.2)
          (fun lookups => ∃ known, lookups.range? solution = some known) ranges
          (fun lookups other _ => known_insertRange other.1 other.2) ?_
        exact ⟨entry.2, by rw [range?_insertRange, if_pos hsame]⟩
      · exact ih hmem

/-- A range that was answered for a solution is known in the end, under every spelling. -/
theorem known_of_collect {solutions : List String} {ranges : List (String × OrdinalRange)}
    {entry : String × OrdinalRange} {solution : String}
    (hcollect : collect accessor questions = .ok lookups)
    (hmem : .ordinalRanges solutions ∈ questions)
    (hanswer : accessor.ordinalRanges solutions = .ok ranges) (hentry : entry ∈ ranges)
    (hsame : Text.same solution entry.1 = true) :
    ∃ known, lookups.range? solution = some known := by
  obtain ⟨start, next, left, hask, hdone⟩ := exists_asked hmem hcollect
  rw [ask_ordinalRanges, hanswer] at hask
  cases hask
  refine foldlM_ask_induction (fun lookups => ∃ known, lookups.range? solution = some known)
    ?_ ?_ hdone (known_insertRanges hentry hsame)
  · exact fun lookups _ _ _ _ other _ => known_insertRange other.1 other.2
  · exact fun lookups condition solutions _ _ h => h

end Lookups

end Strata
