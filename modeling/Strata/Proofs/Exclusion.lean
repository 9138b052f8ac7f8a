import Strata.Proofs.Criteria
import Strata.Proofs.Lowercasing
import Strata.Proofs.Recovery
import Strata.Proofs.Tables

/-!
# Excluded attributes are a set without regard to case

The names of excluded attributes are kept in lowercase, sorted and without repeats, and there is one
list of that kind for each set of lowercase names. So what is excluded does not depend on how, how
often or in which order the names were given. A name that was kept is its own lowercase, and
therefore the set that is made of the kept names is the set itself: it survives being written as a
list and read again.
-/

namespace Strata

namespace ExcludedAttributes

theorem ofList_eq (names : List String) :
    ofList names = ⟨sortedNames (names.map Text.lowercase)⟩ := by
  rw [ofList, sortedNames, List.foldl_map]

theorem mem_names_ofList {names : List String} {name : String} :
    name ∈ (ofList names).names ↔ ∃ given ∈ names, Text.lowercase given = name := by
  rw [ofList_eq, mem_sortedNames, List.mem_map]

theorem contains_iff {names : List String} {name : String} :
    (ofList names).contains name = true
      ↔ ∃ given ∈ names, Text.lowercase given = Text.lowercase name := by
  rw [contains, List.contains_iff_mem, mem_names_ofList]

theorem ofList_eq_iff {names others : List String} :
    ofList names = ofList others
      ↔ ∀ name, name ∈ names.map Text.lowercase ↔ name ∈ others.map Text.lowercase := by
  constructor
  · intro h name
    rw [ofList_eq, ofList_eq] at h
    rw [← mem_sortedNames, ExcludedAttributes.mk.inj h, mem_sortedNames]
  · intro h
    rw [ofList_eq, ofList_eq, sortedNames_congr h]

/-! ## Sets that were made of names -/

/-- Whether the names of a set are kept as they are when it is made of a list. -/
structure IsSet (excluded : ExcludedAttributes) : Prop where
  lowercase : ∀ name ∈ excluded.names, Text.lowercase name = name
  sorted : excluded.names.Pairwise (· < ·)

theorem isSet_ofList (names : List String) : (ofList names).IsSet where
  lowercase := by
    intro name hname
    obtain ⟨given, -, rfl⟩ := mem_names_ofList.1 hname
    exact Text.lowercase_lowercase given
  sorted := by
    rw [ofList_eq]
    exact sortedNames_pairwise _

theorem IsSet.ofList_names {excluded : ExcludedAttributes} (h : excluded.IsSet) :
    ofList excluded.names = excluded := by
  have hmap : excluded.names.map Text.lowercase = excluded.names :=
    (List.map_congr_left h.lowercase).trans (List.map_id _)
  rw [ofList_eq, hmap, sortedNames_eq_self h.sorted]

theorem IsSet.recovers {excluded : ExcludedAttributes} (h : excluded.IsSet) :
    Wire.Recovers decode excluded.encode excluded := by
  have hlist := (Wire.Recovers.strings excluded.names).map ofList
  rwa [h.ofList_names] at hlist

end ExcludedAttributes

/-! ## Configurations -/

namespace Config

theorem recovers {config : Config} (h : config.excluded.IsSet) :
    Wire.Recovers (layout.decode .streamed) config.encode config := by
  have htakes : layout.Takes layout.draft
      [("forceInMemory", .bool config.forceInMemory),
        ("rankBySelectivity", .bool config.rankBySelectivity),
        ("excludedAttributes", config.excluded.encode)]
      config :=
    .cons ((Wire.Recovers.bool config.forceInMemory).bind_pure _) <|
    .cons ((Wire.Recovers.bool config.rankBySelectivity).bind_pure _) <|
    .cons (h.recovers.bind_pure _) <|
    .nil _
  exact .record htakes rfl (by decide) rfl

theorem ofText_render {config : Config} (h : config.excluded.IsSet) :
    ofText config.encode.render = .ok config := by
  have hnames : (Json.list .str config.excluded.names).depth ≤ 1 :=
    Json.depth_list_le (fun _ => Nat.le_refl 0) config.excluded.names
  refine (recovers h).decodeText_render_of_le ?_
  simp only [encode, ExcludedAttributes.encode, Json.depth, Json.depthMembers, maxDepth]
  omega

end Config

/-- The excluded attributes that are made of some names are those whose lowercase is that of one of
them, for everyone who asks: the set itself, the predicates that are made with it, and filters that
look for relevant changes. Names of the same lowercase make the same set, and a configuration with
the set is read back from its text. -/
theorem ExcludedAttributes.caseless_set (names : List String) :
    (∀ name, (ofList names).contains name = true
      ↔ ∃ given ∈ names, Text.lowercase given = Text.lowercase name) ∧
    (∀ a : LayerAttribute,
      AttributePredicate.holds (Pushdown.notExcluded (ofList names)) a
        = !(ofList names).contains a.name ∧
      AttributePredicate.holds (Formula.all (Pushdown.relevantChange (ofList names))) a
        = a.isRelevantChange (ofList names)) ∧
    (∀ others, ofList names = ofList others
      ↔ ∀ name, name ∈ names.map Text.lowercase ↔ name ∈ others.map Text.lowercase) ∧
    ∀ forceInMemory rankBySelectivity,
      Config.ofText (Config.encode ⟨forceInMemory, rankBySelectivity, ofList names⟩).render
        = .ok ⟨forceInMemory, rankBySelectivity, ofList names⟩ := by
  refine ⟨fun name => contains_iff, fun a => ⟨?_, ?_⟩, fun others => ofList_eq_iff, ?_⟩
  · exact AttributePredicate.holds_notExcluded a
  · rw [AttributePredicate.holds, Formula.eval_all, AttributePredicate.all_relevantChange]
  · exact fun forceInMemory rankBySelectivity => Config.ofText_render (isSet_ofList names)

end Strata
