import Mathlib.Data.List.Nodup
import Strata.Execution
import Strata.Proofs.Answers
import Strata.Proofs.Consultation

/-!
# The order of questions

Answers are written into tables, where a later one takes the place of an earlier one of the same
key. In the questions of a filter no key comes twice: there is one question for ranges, and the keys
of the conditions differ. So nothing that is written is written over, and the tables hold exactly
what the accessor answered (`find?_ranges_iff`, `find?_resolutions_iff`). That can be said without the
order in which the questions were asked, or the order in which ranges were listed, so neither shows
in the tables.

The order does show in a failure: asking ends with the first question that is refused, and there are
no tables then.
-/

namespace Strata

open Lookup (extract)

/-! ## Keys -/

/-- What an answer is written under: ranges in a table of their own, the solutions of a condition
under its key. -/
def Lookup.slot : Lookup → Option LayerCondition
  | .ordinalRanges _ => none
  | .resolve condition => some condition.key

theorem Lookup.nodup_slot_extract (filter : Filter) : ((extract filter).map slot).Nodup := by
  have hresolve : ((distinctConditions (filter.allSteps.filterMap Step.condition?)).map
      (slot ∘ resolve)).Nodup := by
    have hkeys := nodup_keys_distinctConditions (filter.allSteps.filterMap Step.condition?)
    rw [List.Nodup, List.pairwise_map] at hkeys ⊢
    exact hkeys.imp fun hne heq => hne (Option.some.inj heq)
  rw [extract, List.map_append, List.map_map]
  split
  · exact hresolve
  · refine List.nodup_cons.2 ⟨fun hmem => ?_, hresolve⟩
    obtain ⟨condition, -, hslot⟩ := List.mem_map.1 hmem
    cases hslot

section

variable {ε : Type} {accessor : Accessor ε} {lookups : Lookups} {questions : List Lookup}

/-- Whether no two of the ranges that are answered at once are for names that differ in case
only. -/
def Accessor.NamesApart (accessor : Accessor ε) : Prop :=
  ∀ solutions ranges, accessor.ordinalRanges solutions = .ok ranges →
    (ranges.map fun entry => Text.lowercase entry.1).Nodup

/-- Whether a range is answered to one of some questions, for a name of this lowercase. -/
def Accessor.GivesRange (accessor : Accessor ε) (questions : List Lookup) (name : String)
    (range : OrdinalRange) : Prop :=
  ∃ solutions ranges, .ordinalRanges solutions ∈ questions ∧
    accessor.ordinalRanges solutions = .ok ranges ∧
    ∃ entry ∈ ranges, Text.lowercase entry.1 = name ∧ entry.2 = range

/-- Whether solutions, in lowercase, are answered to one of some questions of this key. -/
def Accessor.GivesSolutions (accessor : Accessor ε) (questions : List Lookup)
    (key : LayerCondition) (solutions : List String) : Prop :=
  ∃ condition answer, .resolve condition ∈ questions ∧ accessor.resolve condition = .ok answer ∧
    condition.key = key ∧ answer.map Text.lowercase = solutions

/-- At most one range is answered for a name. -/
theorem Accessor.GivesRange.unique (hapart : accessor.NamesApart)
    (hslots : (questions.map Lookup.slot).Nodup) {name : String} {range other : OrdinalRange}
    (hrange : accessor.GivesRange questions name range)
    (hother : accessor.GivesRange questions name other) : range = other := by
  obtain ⟨solutions, ranges, hasked, hanswer, entry, hentry, rfl, rfl⟩ := hrange
  obtain ⟨solutions', ranges', hasked', hanswer', entry', hentry', hname, rfl⟩ := hother
  have hquestion : Lookup.ordinalRanges solutions = .ordinalRanges solutions' :=
    List.inj_on_of_nodup_map hslots hasked hasked' rfl
  cases hquestion
  rw [hanswer] at hanswer'
  cases hanswer'
  rw [List.inj_on_of_nodup_map (hapart _ _ hanswer) hentry hentry' hname.symm]

theorem Accessor.GivesSolutions.unique (hslots : (questions.map Lookup.slot).Nodup)
    {key : LayerCondition} {solutions others : List String}
    (hsolutions : accessor.GivesSolutions questions key solutions)
    (hothers : accessor.GivesSolutions questions key others) : solutions = others := by
  obtain ⟨condition, answer, hasked, hanswer, rfl, rfl⟩ := hsolutions
  obtain ⟨condition', answer', hasked', hanswer', hkey, rfl⟩ := hothers
  have hquestion : Lookup.resolve condition = .resolve condition' :=
    List.inj_on_of_nodup_map hslots hasked hasked' (congrArg some hkey.symm)
  cases hquestion
  rw [hanswer] at hanswer'
  cases hanswer'
  rfl

namespace Lookups

/-! ## Tables -/

/-- What is in the tables was answered. -/
theorem given_of_collect (hcollect : collect accessor questions = .ok lookups) :
    (∀ name range, lookups.ranges.find? name = some range →
      accessor.GivesRange questions name range) ∧
    (∀ key solutions, lookups.resolutions.find? key = some solutions →
      accessor.GivesSolutions questions key solutions) := by
  refine foldlM_ask_induction (fun lookups =>
    (∀ name range, lookups.ranges.find? name = some range →
      accessor.GivesRange questions name range) ∧
    (∀ key solutions, lookups.resolutions.find? key = some solutions →
      accessor.GivesSolutions questions key solutions)) ?_ ?_ hcollect ?_
  · intro known solutions ranges hasked hanswer entry hentry h
    refine ⟨fun name range hfind => ?_, h.2⟩
    rw [insertRange, Table.find?_assign] at hfind
    split at hfind
    · next hname =>
        exact ⟨solutions, ranges, hasked, hanswer, entry, hentry, hname.symm, Option.some.inj hfind⟩
    · exact h.1 name range hfind
  · intro known condition answer hasked hanswer h
    refine ⟨h.1, fun key solutions hfind => ?_⟩
    rw [insertResolution, Table.find?_assign] at hfind
    split at hfind
    · next hkey => exact ⟨condition, answer, hasked, hanswer, hkey.symm, Option.some.inj hfind⟩
    · exact h.2 key solutions hfind
  · refine ⟨fun name range h => ?_, fun key solutions h => ?_⟩
    · cases h
    · cases h

theorem known_insertResolution {key : LayerCondition} (condition : LayerCondition)
    (solutions : List String) (h : ∃ known, lookups.resolutions.find? key = some known) :
    ∃ known, (lookups.insertResolution condition solutions).resolutions.find? key = some known := by
  rw [insertResolution, Table.find?_assign]
  split
  · exact ⟨_, rfl⟩
  · exact h

/-- The solutions of a condition that was asked for are known in the end. -/
theorem known_solutions_of_collect {condition : LayerCondition}
    (hcollect : collect accessor questions = .ok lookups) (hmem : .resolve condition ∈ questions) :
    ∃ known, lookups.resolutions.find? condition.key = some known := by
  obtain ⟨start, next, left, hask, hdone⟩ := exists_asked hmem hcollect
  rw [ask_resolve, map_eq_ok_iff] at hask
  obtain ⟨solutions, -, rfl⟩ := hask
  refine foldlM_ask_induction
    (fun lookups => ∃ known, lookups.resolutions.find? condition.key = some known) ?_ ?_ hdone ?_
  · exact fun _ _ _ _ _ _ _ h => h
  · exact fun _ other answer _ _ h => known_insertResolution other answer h
  · exact ⟨_, Table.find?_assign_self _ _ _⟩

theorem find?_ranges_iff (hapart : accessor.NamesApart)
    (hslots : (questions.map Lookup.slot).Nodup)
    (hcollect : collect accessor questions = .ok lookups) {name : String} {range : OrdinalRange} :
    lookups.ranges.find? name = some range ↔ accessor.GivesRange questions name range := by
  have hgiven := (given_of_collect hcollect).1 name
  refine ⟨hgiven range, fun hrange => ?_⟩
  have hknown : ∃ known, lookups.ranges.find? name = some known := by
    obtain ⟨solutions, ranges, hasked, hanswer, entry, hentry, rfl, -⟩ := hrange
    exact known_of_collect hcollect hasked hanswer hentry (Text.same_refl entry.1)
  obtain ⟨known, hknown⟩ := hknown
  rw [hknown, (hgiven known hknown).unique hapart hslots hrange]

theorem find?_resolutions_iff (hslots : (questions.map Lookup.slot).Nodup)
    (hcollect : collect accessor questions = .ok lookups) {key : LayerCondition}
    {solutions : List String} :
    lookups.resolutions.find? key = some solutions
      ↔ accessor.GivesSolutions questions key solutions := by
  have hgiven := (given_of_collect hcollect).2 key
  refine ⟨hgiven solutions, fun hsolutions => ?_⟩
  have hknown : ∃ known, lookups.resolutions.find? key = some known := by
    obtain ⟨condition, answer, hasked, -, rfl, -⟩ := hsolutions
    exact known_solutions_of_collect hcollect hasked
  obtain ⟨known, hknown⟩ := hknown
  rw [hknown, (hgiven known hknown).unique hslots hsolutions]

/-! ## Orders -/

/-- Whether two tables of answers have the same under every key. -/
structure Same (a b : Lookups) : Prop where
  ranges : ∀ name, a.ranges.find? name = b.ranges.find? name
  resolutions : ∀ key, a.resolutions.find? key = b.resolutions.find? key

end Lookups

/-- Whether two accessors answer alike, but for the order in which ranges are listed. -/
structure Accessor.Relists (accessor other : Accessor ε) : Prop where
  resolve : accessor.resolve = other.resolve
  ok : ∀ solutions ranges, accessor.ordinalRanges solutions = .ok ranges →
    ∃ relisted, other.ordinalRanges solutions = .ok relisted ∧ ranges.Perm relisted
  error : ∀ solutions failure, accessor.ordinalRanges solutions = .error failure →
    other.ordinalRanges solutions = .error failure

namespace Accessor.Relists

variable {other : Accessor ε} {others : List Lookup}

theorem symm (h : accessor.Relists other) : other.Relists accessor where
  resolve := h.resolve.symm
  ok solutions relisted hrelisted := by
    cases hanswer : accessor.ordinalRanges solutions with
    | error failure =>
        rw [h.error solutions failure hanswer] at hrelisted
        cases hrelisted
    | ok ranges =>
        obtain ⟨listed, hlisted, hperm⟩ := h.ok solutions ranges hanswer
        rw [hrelisted] at hlisted
        cases hlisted
        exact ⟨ranges, rfl, hperm.symm⟩
  error solutions failure hfailure := by
    cases hanswer : accessor.ordinalRanges solutions with
    | error refusal =>
        rw [h.error solutions refusal hanswer] at hfailure
        exact hfailure
    | ok ranges =>
        obtain ⟨relisted, hrelisted, -⟩ := h.ok solutions ranges hanswer
        rw [hrelisted] at hfailure
        cases hfailure

theorem namesApart (h : accessor.Relists other) (hapart : accessor.NamesApart) :
    other.NamesApart := by
  intro solutions relisted hrelisted
  obtain ⟨ranges, hanswer, hperm⟩ := h.symm.ok solutions relisted hrelisted
  exact (hperm.map _).nodup_iff.2 (hapart solutions ranges hanswer)

theorem givesRange (h : accessor.Relists other) (hperm : questions.Perm others) {name : String}
    {range : OrdinalRange} (hrange : accessor.GivesRange questions name range) :
    other.GivesRange others name range := by
  obtain ⟨solutions, ranges, hasked, hanswer, entry, hentry, hname, rfl⟩ := hrange
  obtain ⟨relisted, hrelisted, hlisted⟩ := h.ok solutions ranges hanswer
  exact ⟨solutions, relisted, hperm.mem_iff.1 hasked, hrelisted, entry, hlisted.mem_iff.1 hentry,
    hname, rfl⟩

theorem givesSolutions (h : accessor.Relists other) (hperm : questions.Perm others)
    {key : LayerCondition} {solutions : List String}
    (hsolutions : accessor.GivesSolutions questions key solutions) :
    other.GivesSolutions others key solutions := by
  obtain ⟨condition, answer, hasked, hanswer, hkey, hlowered⟩ := hsolutions
  rw [h.resolve] at hanswer
  exact ⟨condition, answer, hperm.mem_iff.1 hasked, hanswer, hkey, hlowered⟩

end Accessor.Relists

/-- The same answers make the same tables, in whatever order the questions are asked and the ranges
listed. -/
theorem Lookups.same_of_collect {other : Accessor ε} {others : List Lookup} {a b : Lookups}
    (hapart : accessor.NamesApart) (hslots : (questions.map Lookup.slot).Nodup)
    (hrelists : accessor.Relists other) (hperm : questions.Perm others)
    (ha : collect accessor questions = .ok a) (hb : collect other others = .ok b) : a.Same b := by
  have hslots' : (others.map Lookup.slot).Nodup := (hperm.map _).nodup_iff.1 hslots
  constructor
  · intro name
    refine Option.ext fun range => ?_
    rw [find?_ranges_iff hapart hslots ha, find?_ranges_iff (hrelists.namesApart hapart) hslots' hb]
    exact ⟨hrelists.givesRange hperm, hrelists.symm.givesRange hperm.symm⟩
  · intro key
    refine Option.ext fun solutions => ?_
    rw [find?_resolutions_iff hslots ha, find?_resolutions_iff hslots' hb]
    exact ⟨hrelists.givesSolutions hperm, hrelists.symm.givesSolutions hperm.symm⟩

end

/-- The same tables make the same predicate. -/
theorem Plan.finalPredicate_congr {a b : Lookups} (h : a.Same b) (plan : Plan) (config : Config) :
    plan.finalPredicate config a = plan.finalPredicate config b := by
  rw [finalPredicate, finalPredicate]
  cases plan.pushdown with
  | none => rfl
  | some filter =>
      refine Pushdown.component_congr (by rfl) filter .positive fun tested _ => ?_
      refine Pushdown.sequence_congr (fun step _ => ⟨?_, ?_⟩) .positive
      · exact fun solution _ => h.ranges (Text.lowercase solution)
      · exact fun condition _ => h.resolutions condition.key

/-- An execution whose questions fail fails so, whatever the store would have returned. -/
theorem PlannedFilter.executeWith_of_refused {ε : Type} {planned : PlannedFilter}
    {accessor : Accessor ε} {failure : ε}
    (h : Lookups.collect accessor planned.plan.lookups = .error failure) (query : Query ε) :
    planned.executeWith query accessor = .error failure := by
  have hasked : planned.plan.lookups.isEmpty = false := by
    cases hlookups : planned.plan.lookups with
    | nil =>
        rw [hlookups] at h
        cases h
    | cons question questions => rfl
  rw [executeWith, predicate, hasked, if_neg Bool.false_ne_true, h]
  rfl

/-- In whatever order the questions of a filter are asked: all of them are answered, or there are no
lookups. If they are answered, the lookups are the same in every order, and so is the predicate made
with them. If one is refused, what comes out is the failure of the first one that is, and an
execution returns it without regard to the store. -/
theorem Lookups.collect_of_perm_extract {ε : Type} {filter : Filter} {accessor : Accessor ε}
    {questions : List Lookup} (hapart : accessor.NamesApart)
    (hperm : questions.Perm (extract filter)) :
    ((∃ lookups, collect accessor questions = .ok lookups)
      ↔ ∀ question ∈ extract filter, accessor.Answers question) ∧
    (∀ others other a b, others.Perm (extract filter) → accessor.Relists other →
      collect accessor questions = .ok a → collect other others = .ok b →
        a.Same b ∧
          ∀ (plan : Plan) config, plan.finalPredicate config a = plan.finalPredicate config b) ∧
    (∀ failure, collect accessor questions = .error failure
      ↔ ∃ before question after, questions = before ++ question :: after ∧
        (∀ earlier ∈ before, accessor.Answers earlier) ∧ accessor.Refuses failure question) ∧
    (∀ (planned : PlannedFilter) (query : Query ε) failure, planned.plan.lookups = questions →
      collect accessor questions = .error failure →
        planned.executeWith query accessor = .error failure) := by
  have hslots : (questions.map Lookup.slot).Nodup :=
    (hperm.map _).nodup_iff.2 (Lookup.nodup_slot_extract filter)
  refine ⟨?_, ?_, fun _ => collect_eq_error_iff, ?_⟩
  · rw [collect_ok_iff]
    exact forall_congr' fun question => imp_congr_left hperm.mem_iff
  · intro others other a b hothers hrelists ha hb
    have hsame := same_of_collect hapart hslots hrelists (hperm.trans hothers.symm) ha hb
    exact ⟨hsame, Plan.finalPredicate_congr hsame⟩
  · intro planned query failure hplanned hfailure
    rw [← hplanned] at hfailure
    exact PlannedFilter.executeWith_of_refused hfailure query

/-- Ranges that are listed the other way round, questions that are asked from the last to the first,
and conditions that are refused. -/
theorem Lookups.collect_of_perm_extract_reversed :
    let condition (value : String) : Step :=
      .dynamic { field := "publisher", operator := "eq", value }
    let filter : Filter := .sequence .flexible
      [.literal "Base", condition "Contoso", .literal "patch", condition "Fabrikam"]
    let answering : Accessor String :=
      { ordinalRanges := fun _ => .ok [("BASE", ⟨0, 1⟩), ("patch", ⟨2, 3⟩)]
        resolve := fun condition => .ok [condition.value] }
    let relisting : Accessor String :=
      { answering with ordinalRanges := fun _ => .ok [("patch", ⟨2, 3⟩), ("BASE", ⟨0, 1⟩)] }
    let refusing : Accessor String :=
      { answering with resolve := fun condition => .error condition.value }
    (∃ a b, collect answering (extract filter) = .ok a ∧
      collect relisting (extract filter).reverse = .ok b ∧ a.Same b) ∧
    collect refusing (extract filter).reverse = .error "Fabrikam" ∧
    ∀ query, (PlannedFilter.make {} (some filter)).executeWith query refusing
      = .error "Contoso" := by
  intro condition filter answering relisting refusing
  let asked (value : String) : Lookup := .resolve { field := .publisher, value }
  have hextract : extract filter
      = [.ordinalRanges ["Base", "patch"], asked "Contoso", asked "Fabrikam"] := by decide +kernel
  have hapart : answering.NamesApart := by
    intro solutions ranges hanswer
    cases hanswer
    decide +kernel
  have hrefusing : refusing.NamesApart := hapart
  have hrelists : answering.Relists relisting := by
    refine ⟨rfl, fun solutions ranges hanswer => ?_, fun solutions failure hfailure => ?_⟩
    · cases hanswer
      exact ⟨_, rfl, List.Perm.swap _ _ []⟩
    · cases hfailure
  have hanswering : ∀ question ∈ extract filter, answering.Answers question := by
    intro question _
    cases question <;> exact ⟨_, rfl⟩
  have hrelisting : ∀ question ∈ extract filter, relisting.Answers question := by
    intro question _
    cases question <;> exact ⟨_, rfl⟩
  obtain ⟨hok, hsame, -, -⟩ := collect_of_perm_extract hapart (List.Perm.refl (extract filter))
  obtain ⟨a, ha⟩ := hok.2 hanswering
  obtain ⟨b, hb⟩ := (collect_of_perm_extract (hrelists.namesApart hapart)
    (List.reverse_perm (extract filter))).1.2 hrelisting
  have hfirst : collect refusing (extract filter) = .error "Contoso" := by
    refine ((collect_of_perm_extract hrefusing (List.Perm.refl _)).2.2.1 _).2
      ⟨[.ordinalRanges ["Base", "patch"]], asked "Contoso", [asked "Fabrikam"], hextract, ?_, rfl⟩
    exact List.forall_mem_singleton.2 ⟨_, rfl⟩
  refine ⟨⟨a, b, ha, hb, (hsame _ relisting a b (List.reverse_perm _) hrelists ha hb).1⟩, ?_,
    fun query => ?_⟩
  · refine ((collect_of_perm_extract hrefusing (List.reverse_perm _)).2.2.1 _).2
      ⟨[], asked "Fabrikam", [asked "Contoso", .ordinalRanges ["Base", "patch"]], ?_,
        List.forall_mem_nil _, rfl⟩
    rw [hextract]
    rfl
  · refine (collect_of_perm_extract hrefusing (List.Perm.refl (extract filter))).2.2.2 _ query _ ?_
      hfirst
    decide +kernel

end Strata
