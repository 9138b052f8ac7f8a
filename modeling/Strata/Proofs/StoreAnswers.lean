import Strata.Proofs.Criteria
import Strata.Proofs.Executing
import Strata.Proofs.Extraction

/-!
# What a store answers

A store answers for itself: from its layers it takes the range of each solution it was asked for,
and the solutions of the layers that satisfy a condition. Both lists are built by inserting into a
sorted list without repeats, which drops an entry only for another of the same key. So every answer
is there, if under another spelling, and every entry stems from the layers.

The answers are sound. Ranges are also the least that contain what they have to, so that a bound is
always the ordinal of a layer that is stored.
-/

namespace Strata

/-! ## Names -/

namespace Store

theorem lastSpellings_cons (first : String) (names : List String) :
    lastSpellings (first :: names)
      = if (lastSpellings names).any (Text.same first) then lastSpellings names
        else first :: lastSpellings names := rfl

theorem exists_mem_lastSpellings {names : List String} {name : String} (h : name ∈ names) :
    ∃ kept ∈ lastSpellings names, Text.same name kept = true := by
  induction names with
  | nil => exact nomatch h
  | cons first names ih =>
      rw [lastSpellings_cons]
      rcases List.mem_cons.1 h with rfl | h
      · split
        · next hany =>
            obtain ⟨kept, hkept, hsame⟩ := List.any_eq_true.1 hany
            exact ⟨kept, hkept, hsame⟩
        · exact ⟨name, List.mem_cons_self, Text.same_refl name⟩
      · obtain ⟨kept, hkept, hsame⟩ := ih h
        split
        · exact ⟨kept, hkept, hsame⟩
        · exact ⟨kept, List.mem_cons_of_mem first hkept, hsame⟩

theorem lastSpellings_sublist (names : List String) : (lastSpellings names).Sublist names := by
  induction names with
  | nil => exact List.Sublist.refl []
  | cons first names ih =>
      rw [lastSpellings_cons]
      split
      · exact ih.cons first
      · exact ih.cons_cons first

theorem nodup_lowercase_lastSpellings (names : List String) :
    ((lastSpellings names).map Text.lowercase).Nodup := by
  induction names with
  | nil => exact List.nodup_nil
  | cons first names ih =>
      rw [lastSpellings_cons]
      split
      · exact ih
      · next hnone =>
          refine List.nodup_cons.2 ⟨fun hmem => ?_, ih⟩
          obtain ⟨other, hother, hlower⟩ := List.mem_map.1 hmem
          exact hnone (List.any_eq_true.2 ⟨other, hother, Text.same_iff_lowercase.2 hlower.symm⟩)

end Store

/-! ## Ranges -/

/-- Whether a range is the least that contains some ordinals. -/
structure OrdinalRange.Spans (range : OrdinalRange) (ordinals : List Ordinal) : Prop where
  min_mem : range.min ∈ ordinals
  max_mem : range.max ∈ ordinals
  contains : ∀ ordinal ∈ ordinals, range.min ≤ ordinal ∧ ordinal ≤ range.max

namespace OrdinalRange

theorem Spans.extend {range : OrdinalRange} {ordinals : List Ordinal}
    (h : range.Spans ordinals) (ordinal : Ordinal) :
    (range.extend ordinal).Spans (ordinal :: ordinals) := by
  have hmin : (range.extend ordinal).min ≤ range.min ∧ (range.extend ordinal).min ≤ ordinal := by
    rw [OrdinalRange.extend]
    split <;> grind
  have hmax : range.max ≤ (range.extend ordinal).max ∧ ordinal ≤ (range.extend ordinal).max := by
    rw [OrdinalRange.extend]
    split <;> grind
  constructor
  · show (if range.min ≤ ordinal then range.min else ordinal) ∈ ordinal :: ordinals
    split
    · exact List.mem_cons_of_mem ordinal h.min_mem
    · exact List.mem_cons_self
  · show (if ordinal ≤ range.max then range.max else ordinal) ∈ ordinal :: ordinals
    split
    · exact List.mem_cons_of_mem ordinal h.max_mem
    · exact List.mem_cons_self
  · intro other hother
    rcases List.mem_cons.1 hother with rfl | hother
    · exact ⟨hmin.2, hmax.2⟩
    · obtain ⟨hlow, hhigh⟩ := h.contains other hother
      exact ⟨Int64.le_trans hmin.1 hlow, Int64.le_trans hhigh hmax.1⟩

theorem Spans.perm {range : OrdinalRange} {ordinals others : List Ordinal}
    (h : range.Spans ordinals) (hperm : ordinals.Perm others) : range.Spans others where
  min_mem := hperm.mem_iff.1 h.min_mem
  max_mem := hperm.mem_iff.1 h.max_mem
  contains ordinal hmem := h.contains ordinal (hperm.mem_iff.2 hmem)

theorem Spans.foldl_extend {range : OrdinalRange} {ordinals : List Ordinal}
    (h : range.Spans ordinals) (rest : List Ordinal) :
    (rest.foldl OrdinalRange.extend range).Spans (rest ++ ordinals) := by
  induction rest generalizing range ordinals with
  | nil => exact h
  | cons ordinal rest ih => exact (ih (h.extend ordinal)).perm List.perm_middle

theorem spans_ofList {ordinals : List Ordinal} {range : OrdinalRange}
    (h : ofList ordinals = some range) : range.Spans ordinals := by
  cases ordinals with
  | nil => exact nomatch h
  | cons ordinal rest =>
      cases h
      have hfirst : Spans ⟨ordinal, ordinal⟩ [ordinal] :=
        ⟨List.mem_singleton_self _, List.mem_singleton_self _, fun other hother => by
          rw [List.mem_singleton.1 hother]
          exact ⟨Int64.le_refl ordinal, Int64.le_refl ordinal⟩⟩
      exact (hfirst.foldl_extend rest).perm List.perm_append_comm

theorem Spans.unique {range other : OrdinalRange} {ordinals : List Ordinal}
    (h : range.Spans ordinals) (hother : other.Spans ordinals) : range = other := by
  have hmin : range.min = other.min :=
    Int64.le_antisymm (h.contains _ hother.min_mem).1 (hother.contains _ h.min_mem).1
  have hmax : range.max = other.max :=
    Int64.le_antisymm (hother.contains _ h.max_mem).2 (h.contains _ hother.max_mem).2
  rw [OrdinalRange.mk.injEq]
  exact ⟨hmin, hmax⟩

theorem exists_ofList {ordinals : List Ordinal} {ordinal : Ordinal} (h : ordinal ∈ ordinals) :
    ∃ range, ofList ordinals = some range := by
  cases ordinals with
  | nil => exact nomatch h
  | cons first rest => exact ⟨_, rfl⟩

/-- The range of ordinals is the least that contains them. -/
theorem ofList_eq_some_iff {ordinals : List Ordinal} {range : OrdinalRange} :
    ofList ordinals = some range ↔ range.Spans ordinals := by
  refine ⟨spans_ofList, fun h => ?_⟩
  obtain ⟨found, hfound⟩ := exists_ofList h.min_mem
  rw [hfound, (spans_ofList hfound).unique h]

end OrdinalRange

/-! ## The store's answers -/

namespace Store

variable {store : Store}

theorem mem_layers {layer : Layer} :
    layer ∈ store.layers ↔ ∃ component ∈ store.components, layer ∈ component.layers := by
  rw [layers, List.mem_flatMap]

theorem mem_ordinals {solution : String} {ordinal : Ordinal} :
    ordinal ∈ (store.layers.filter (·.isOf solution)).map (·.ordinal)
      ↔ ∃ layer ∈ store.layers, layer.isOf solution = true ∧ layer.ordinal = ordinal := by
  simp only [List.mem_map, List.mem_filter, and_assoc]

theorem range?_congr {a b : String} (h : Text.same a b = true) :
    store.range? a = store.range? b := by
  rw [range?, range?]
  simp only [Layer.isOf_congr h]

theorem ordinalRanges_eq (solutions : List String) :
    store.ordinalRanges solutions
      = insertEach ((lastSpellings solutions).filterMap fun solution =>
          (store.range? solution).map fun range => (solution, range)) [] := by
  rw [ordinalRanges, insertEach, List.foldl_filterMap]
  congr 1
  funext ranges solution
  cases store.range? solution <;> rfl

/-- The ranges are those of the solutions that were asked for, each in its last spelling, as far as
they have layers. -/
theorem mem_ordinalRanges {solutions : List String} {entry : String × OrdinalRange} :
    entry ∈ store.ordinalRanges solutions
      ↔ entry.1 ∈ lastSpellings solutions ∧ store.range? entry.1 = some entry.2 := by
  have hlisted : ∀ entry : String × OrdinalRange,
      (entry ∈ (lastSpellings solutions).filterMap fun solution =>
        (store.range? solution).map fun range => (solution, range))
      ↔ entry.1 ∈ lastSpellings solutions ∧ store.range? entry.1 = some entry.2 := by
    intro entry
    simp only [List.mem_filterMap, Option.map_eq_some_iff]
    constructor
    · rintro ⟨solution, hmem, range, hrange, rfl⟩
      exact ⟨hmem, hrange⟩
    · rintro ⟨hmem, hrange⟩
      exact ⟨entry.1, hmem, entry.2, hrange, rfl⟩
  have hsound : ∀ entry ∈ store.ordinalRanges solutions,
      entry.1 ∈ lastSpellings solutions ∧ store.range? entry.1 = some entry.2 := by
    intro entry h
    rw [ordinalRanges_eq] at h
    exact (hlisted entry).1 ((mem_of_mem_insertEach h).resolve_right List.not_mem_nil)
  refine ⟨hsound entry, fun h => ?_⟩
  -- an entry may be dropped for another of its name, but that one has the same range
  obtain ⟨found, hfound⟩ := exists_mem_insertEach (.inl ((hlisted entry).2 h))
  rw [← ordinalRanges_eq] at hfound
  have hrange : some found = some entry.2 := (hsound _ hfound).2.symm.trans h.2
  rw [Option.some.inj hrange] at hfound
  exact hfound

theorem range?_of_mem_ordinalRanges {solutions : List String} {entry : String × OrdinalRange}
    (h : entry ∈ store.ordinalRanges solutions) : store.range? entry.1 = some entry.2 :=
  (mem_ordinalRanges.1 h).2

/-- A solution that was asked for and has layers has an entry. -/
theorem exists_mem_ordinalRanges {solutions : List String} {solution : String} {layer : Layer}
    (hsolution : solution ∈ solutions) (hlayer : layer ∈ store.layers)
    (hof : layer.isOf solution = true) :
    ∃ entry ∈ store.ordinalRanges solutions, Text.same solution entry.1 = true := by
  obtain ⟨kept, hkept, hsame⟩ := exists_mem_lastSpellings hsolution
  obtain ⟨range, hrange⟩ := OrdinalRange.exists_ofList
    (mem_ordinals.2 ⟨layer, hlayer, hof, rfl⟩)
  refine ⟨(kept, range), mem_ordinalRanges.2 ⟨hkept, ?_⟩, hsame⟩
  rw [← range?_congr hsame]
  exact hrange

theorem accessor_answers {ε : Type} (store : Store) (question : Lookup) :
    (store.accessor : Accessor ε).Answers question := by
  cases question <;> exact ⟨_, rfl⟩

/-- The store's test of layers, which is the one of predicates, is that of filters. -/
theorem resolve_eq (condition : LayerCondition) :
    store.resolve condition
      = Lookup.distinctNames
          ((store.layers.filter (·.satisfies condition)).map (·.solution)) := by
  have htest : ∀ component, LayerPredicate.holds component condition.predicate
      = (·.satisfies condition) := by
    intro component
    funext layer
    rw [LayerCondition.predicate, LayerPredicate.holds_solution]
    rfl
  simp only [resolve, htest, layers, List.filter_flatMap]

/-- What a store answers leaves out nothing of its components. -/
theorem accessor_sound (store : Store) {ε : Type} :
    (store.accessor : Accessor ε).Sound store.components := by
  constructor
  · intro solutions ranges hanswer entry hentry component hcomponent layer hlayer hof
    cases hanswer
    have hspans := OrdinalRange.spans_ofList (range?_of_mem_ordinalRanges hentry)
    have hmem : layer ∈ store.layers := mem_layers.2 ⟨component, hcomponent, hlayer⟩
    exact hspans.contains layer.ordinal (mem_ordinals.2 ⟨layer, hmem, hof, rfl⟩)
  · intro condition solutions hanswer component hcomponent layer hlayer hsat
    cases hanswer
    have hmem : layer ∈ store.layers := mem_layers.2 ⟨component, hcomponent, hlayer⟩
    rw [resolve_eq]
    exact Lookup.exists_mem_distinctNames
      (List.mem_map_of_mem (List.mem_filter.2 ⟨hmem, hsat⟩))

end Store

end Strata
