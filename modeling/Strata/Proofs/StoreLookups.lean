import Strata.Proofs.Collecting
import Strata.Proofs.StoreAnswers

/-!
# What is looked up in a store

Between what a store holds and what is looked up stand two lists: the one that is asked for, in
which a name may come more than once and in several spellings, and the one that is answered. Of the
names asked for the last spelling is answered, of the solutions found the first one. Neither
spelling shows, for answers are kept in lowercase. So under every spelling of a name the range that
is looked up is that of all layers of the solution, and under every spelling of a condition the
solutions are those of all layers that satisfy it.
-/

namespace Strata.Store

variable {ε : Type} {store : Store}

/-! ## Ranges -/

/-- No two of the ranges that a store answers at once are for one solution. -/
theorem accessor_namesApart (store : Store) : (store.accessor : Accessor ε).NamesApart := by
  intro solutions ranges hanswer
  cases hanswer
  have hsorted : (store.ordinalRanges solutions).Pairwise fun a b => a.1 < b.1 := by
    rw [ordinalRanges_eq]
    exact insertEach_pairwise _
  rw [List.Nodup, List.pairwise_map]
  refine hsorted.imp_of_mem fun {a b} ha hb hlt hlower => ?_
  -- of one solution only one spelling is answered, and the list is sorted strictly
  have hname : a.1 = b.1 :=
    List.inj_on_of_nodup_map (nodup_lowercase_lastSpellings solutions) (mem_ordinalRanges.1 ha).1
      (mem_ordinalRanges.1 hb).1 hlower
  rw [hname] at hlt
  exact String.lt_irrefl _ hlt

theorem givesRange_iff {names : List String} {name : String} {range : OrdinalRange} :
    (store.accessor : Accessor ε).GivesRange [.ordinalRanges names] (Text.lowercase name) range
      ↔ (∃ asked ∈ names, Text.lowercase asked = Text.lowercase name)
        ∧ store.range? name = some range := by
  constructor
  · rintro ⟨solutions, ranges, hasked, hanswer, entry, hentry, hname, rfl⟩
    cases List.mem_singleton.1 hasked
    cases hanswer
    obtain ⟨hmem, hrange⟩ := mem_ordinalRanges.1 hentry
    refine ⟨⟨entry.1, (lastSpellings_sublist names).mem hmem, hname⟩, ?_⟩
    rw [← range?_congr (Text.same_iff_lowercase.2 hname)]
    exact hrange
  · rintro ⟨⟨asked, hasked, hname⟩, hrange⟩
    obtain ⟨kept, hkept, hsame⟩ := exists_mem_lastSpellings hasked
    have hlower : Text.lowercase kept = Text.lowercase name :=
      (Text.same_iff_lowercase.1 hsame).symm.trans hname
    refine ⟨names, store.ordinalRanges names, List.mem_singleton_self _, rfl, (kept, range), ?_,
      hlower, rfl⟩
    refine mem_ordinalRanges.2 ⟨hkept, ?_⟩
    rw [range?_congr (Text.same_iff_lowercase.2 hlower)]
    exact hrange

/-- The ordinals of the layers of a solution. -/
def ordinalsOf (store : Store) (name : String) : List Ordinal :=
  (store.layers.filter fun layer => Text.lowercase layer.solution == Text.lowercase name).map
    (·.ordinal)

theorem mem_ordinalsOf {name : String} {ordinal : Ordinal} :
    ordinal ∈ store.ordinalsOf name
      ↔ ∃ layer ∈ store.layers, Text.lowercase layer.solution = Text.lowercase name
        ∧ layer.ordinal = ordinal := by
  simp only [ordinalsOf, List.mem_map, List.mem_filter, beq_iff_eq, and_assoc]

theorem range?_eq (name : String) :
    store.range? name = OrdinalRange.ofList (store.ordinalsOf name) := by
  simp only [range?, ordinalsOf, Layer.isOf, Text.lowercase_beq]

theorem exists_spans_iff {name : String} :
    (∃ range : OrdinalRange, range.Spans (store.ordinalsOf name))
      ↔ ∃ layer ∈ store.layers, Text.lowercase layer.solution = Text.lowercase name := by
  constructor
  · rintro ⟨range, hspans⟩
    obtain ⟨layer, hlayer, hname, -⟩ := mem_ordinalsOf.1 hspans.min_mem
    exact ⟨layer, hlayer, hname⟩
  · rintro ⟨layer, hlayer, hname⟩
    obtain ⟨range, hrange⟩ :=
      OrdinalRange.exists_ofList (mem_ordinalsOf.2 ⟨layer, hlayer, hname, rfl⟩)
    exact ⟨range, OrdinalRange.spans_ofList hrange⟩

section

variable {names : List String} {lookups : Lookups} {name : String}

theorem range?_of_collect_ranges
    (hcollect : Lookups.collect (store.accessor : Accessor ε) [.ordinalRanges names] = .ok lookups)
    {range : OrdinalRange} :
    lookups.range? name = some range
      ↔ (∃ asked ∈ names, Text.lowercase asked = Text.lowercase name)
        ∧ range.Spans (store.ordinalsOf name) := by
  have hslots : ([Lookup.ordinalRanges names].map Lookup.slot).Nodup := List.nodup_singleton _
  refine (Lookups.find?_ranges_iff store.accessor_namesApart hslots hcollect).trans ?_
  rw [givesRange_iff, range?_eq, OrdinalRange.ofList_eq_some_iff]

/-- A range is missing if it was not asked for, or the solution has no layers. -/
theorem range?_eq_none_of_collect_ranges
    (hcollect : Lookups.collect (store.accessor : Accessor ε) [.ordinalRanges names]
      = .ok lookups) :
    lookups.range? name = none
      ↔ ¬ ((∃ asked ∈ names, Text.lowercase asked = Text.lowercase name)
        ∧ ∃ layer ∈ store.layers, Text.lowercase layer.solution = Text.lowercase name) := by
  rw [← exists_spans_iff, ← exists_and_left, Option.eq_none_iff_forall_ne_some, not_exists]
  exact forall_congr' fun range => not_congr (range?_of_collect_ranges hcollect)

end

/-! ## Solutions -/

theorem mem_map_lowercase_resolve {condition : LayerCondition} {name : String} :
    name ∈ (store.resolve condition).map Text.lowercase
      ↔ ∃ layer ∈ store.layers, layer.satisfies condition = true
        ∧ Text.lowercase layer.solution = name := by
  rw [resolve_eq, Lookup.map_lowercase_distinctNames, mem_sortedNames, List.map_map, List.mem_map]
  simp only [List.mem_filter, and_assoc, Function.comp_apply]

theorem map_lowercase_resolve_pairwise (store : Store) (condition : LayerCondition) :
    ((store.resolve condition).map Text.lowercase).Pairwise (· < ·) := by
  rw [resolve_eq, Lookup.map_lowercase_distinctNames]
  exact sortedNames_pairwise _

theorem resolved?_of_collect_resolve {condition other : LayerCondition} {lookups : Lookups}
    (hcollect : Lookups.collect (store.accessor : Accessor ε) [.resolve condition] = .ok lookups)
    (hkey : other.key = condition.key) :
    lookups.resolved? other = some ((store.resolve condition).map Text.lowercase) := by
  have hslots : ([Lookup.resolve condition].map Lookup.slot).Nodup := List.nodup_singleton _
  refine (Lookups.find?_resolutions_iff hslots hcollect).2 ?_
  exact ⟨condition, _, List.mem_singleton_self _, rfl, hkey.symm, rfl⟩

/-! ## Both -/

theorem exists_collect (store : Store) (questions : List Lookup) :
    ∃ lookups, Lookups.collect (store.accessor : Accessor ε) questions = .ok lookups :=
  Lookups.collect_ok_iff.2 fun question _ => store.accessor_answers question

/-- What is looked up in a store after it was asked. For names, and under every spelling of one of
them, the least and the greatest ordinal of all layers of the solution; nothing for a solution
without layers, or one that was not asked for. For a condition, and under every spelling of it, the
solutions of all layers that satisfy it, in lowercase, sorted and without repeats. -/
theorem collect_exact (store : Store) :
    (∀ names, ∃ lookups,
      Lookups.collect (store.accessor : Accessor ε) [.ordinalRanges names] = .ok lookups ∧
      ∀ name,
        (∀ range, lookups.range? name = some range
          ↔ (∃ asked ∈ names, Text.lowercase asked = Text.lowercase name)
            ∧ range.Spans (store.ordinalsOf name)) ∧
        (lookups.range? name = none
          ↔ ¬ ((∃ asked ∈ names, Text.lowercase asked = Text.lowercase name)
            ∧ ∃ layer ∈ store.layers,
              Text.lowercase layer.solution = Text.lowercase name))) ∧
    (∀ condition, ∃ lookups,
      Lookups.collect (store.accessor : Accessor ε) [.resolve condition] = .ok lookups ∧
      ∀ other : LayerCondition, other.key = condition.key → ∃ solutions,
        lookups.resolved? other = some solutions ∧ solutions.Pairwise (· < ·) ∧
        ∀ name, name ∈ solutions
          ↔ ∃ layer ∈ store.layers, layer.satisfies condition = true
            ∧ Text.lowercase layer.solution = name) := by
  constructor
  · intro names
    obtain ⟨lookups, hcollect⟩ := store.exists_collect [.ordinalRanges names]
    exact ⟨lookups, hcollect, fun name =>
      ⟨fun range => range?_of_collect_ranges hcollect, range?_eq_none_of_collect_ranges hcollect⟩⟩
  · intro condition
    obtain ⟨lookups, hcollect⟩ := store.exists_collect [.resolve condition]
    exact ⟨lookups, hcollect, fun other hkey => ⟨_, resolved?_of_collect_resolve hcollect hkey,
      store.map_lowercase_resolve_pairwise condition, fun name => mem_map_lowercase_resolve⟩⟩

/-- Names and a condition in several spellings, layers of one solution in two components, and a
publisher that is written in capitals. -/
theorem collect_exact_in_spellings :
    let store := Store.ofList [
      { logicalName := "account", componentType := "Form", layers := [
        { solution := "Patch", ordinal := 7, publisher := some "CONTOSO" },
        { solution := "Base", ordinal := 3, publisher := some "Contoso" }] },
      { logicalName := "contact", componentType := "Form", layers := [
        { solution := "BASE", ordinal := -1, publisher := some "Fabrikam" }] }]
    let condition : LayerCondition := { field := .publisher, operator := .contains, value := "Con" }
    (∃ lookups, Lookups.collect (store.accessor : Accessor String)
        [.ordinalRanges ["bASE", "missing", "base"]] = .ok lookups ∧
      lookups.range? "Base" = some ⟨-1, 3⟩ ∧ lookups.range? "Patch" = none ∧
      lookups.range? "missing" = none) ∧
    (∃ lookups solutions,
      Lookups.collect (store.accessor : Accessor String) [.resolve condition] = .ok lookups ∧
      lookups.resolved? { condition with value := "cON" } = some solutions ∧
      "base" ∈ solutions ∧ "patch" ∈ solutions ∧ "Patch" ∉ solutions) := by
  intro store condition
  obtain ⟨hranges, hsolutions⟩ := @collect_exact String store
  constructor
  · obtain ⟨lookups, hcollect, hlookups⟩ := hranges ["bASE", "missing", "base"]
    refine ⟨lookups, hcollect, ?_, ?_, ?_⟩
    · exact ((hlookups "Base").1 _).2
        ⟨by decide +kernel, OrdinalRange.spans_ofList (by decide +kernel)⟩
    · exact (hlookups "Patch").2.2 (by decide +kernel)
    · exact (hlookups "missing").2.2 (by decide +kernel)
  · obtain ⟨lookups, hcollect, hlookups⟩ := hsolutions condition
    obtain ⟨solutions, hresolved, -, hmem⟩ :=
      hlookups { condition with value := "cON" } (by decide +kernel)
    refine ⟨lookups, solutions, hcollect, hresolved, ?_, ?_, ?_⟩
    · exact (hmem "base").2 (by decide +kernel)
    · exact (hmem "patch").2 (by decide +kernel)
    · rw [hmem]
      decide +kernel

end Strata.Store
