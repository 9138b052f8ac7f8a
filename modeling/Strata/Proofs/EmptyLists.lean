import Strata.Proofs.Clauses

/-!
# Empty lists

A list of names in a predicate becomes a list in its text, and SQL knows no list without elements.
The lists that name attributes are left out if they are empty. The others are taken as they come:
the solutions that a comparison is with, and those that a condition was resolved to. So there are
two ways to an empty list, which is written as a pair of parentheses with nothing inside
(`Pushdown.Starves`). Where a filter and its lookups have neither, every list has a name, and no
pair of parentheses in the text is empty.
-/

namespace Strata

open Sql

namespace Pushdown

/-- What leaves a list in the predicate of a filter empty. -/
inductive Starves (pushdown : Pushdown) (filter : Filter) : Prop
  /-- A comparison is with the layers of no solutions. -/
  | compared {diff : AttributeDiff} (stands : (Filter.layer (.differs diff)).StandsIn filter)
      (specific : diff.mode = .specific) (no_target : diff.targets = [])
  /-- No solution is known to satisfy the condition of a step. -/
  | resolved {mode : SequenceMode} {steps : List Step} {raw : RawCondition}
      {condition : LayerCondition} {lookups : Lookups}
      (stands : (Filter.sequence mode steps).StandsIn filter) (hmem : .dynamic raw ∈ steps)
      (hcondition : raw.condition? = some condition) (hlookups : pushdown.lookups = some lookups)
      (no_solution : lookups.resolved? condition = some [])

variable {pushdown : Pushdown} {filter : Filter}

theorem Origin.hasName {m : Membership} (h : pushdown.Origin filter m)
    (hfed : ¬pushdown.Starves filter) : m.HasName := by
  cases h with
  | excluded some_name => exact some_name
  | attributes _ some_name => exact mt List.map_eq_nil_iff.1 some_name
  | targets stands specific =>
      exact fun hnil => hfed (.compared stands specific (List.map_eq_nil_iff.1 hnil))
  | resolved stands hmem hcondition hlookups hresolved =>
      rintro rfl
      exact hfed (.resolved stands hmem hcondition hlookups hresolved)

/-- Only filters without children leave lists empty. -/
theorem Starves.mono {part : Filter}
    (h : ∀ leaf : Filter, leaf.children = [] → leaf.StandsIn part → leaf.StandsIn filter)
    (hstarves : pushdown.Starves part) : pushdown.Starves filter := by
  cases hstarves with
  | compared stands specific no_target => exact .compared (h _ rfl stands) specific no_target
  | resolved stands hmem hcondition hlookups no_solution =>
      exact .resolved (h _ rfl stands) hmem hcondition hlookups no_solution

end Pushdown

/-- Whether no list in a predicate is empty, nor any pair of parentheses in its text outside
literals. -/
def ComponentPredicate.IsWritable (predicate : ComponentPredicate) : Prop :=
  (∀ m ∈ ComponentPredicate.memberships predicate, m.list ≠ []) ∧
    ∃ symbols, readText (render (ComponentPredicate.sql predicate)) = some symbols ∧
      ¬ [.plain '(', .plain ')'] <:+: symbols

theorem ComponentPredicate.IsNormal.isWritable {predicate : ComponentPredicate}
    (hnormal : predicate.IsNormal)
    (h : ∀ m ∈ ComponentPredicate.memberships predicate, m.HasName) : predicate.IsWritable := by
  have hclause : Clause False (ComponentPredicate.sql predicate) :=
    ComponentPredicate.clause predicate fun _ => ComponentPredicate.IsNormal.isFull hnormal h
  exact ⟨h, _, readText_render hclause.spaced, (hclause.isSolid id).no_empty_pair⟩

/-- Whether nothing leaves a list empty in the predicate of a filter that may be absent. -/
def Pushdown.Feeds (pushdown : Pushdown) (filter : Option Filter) : Prop :=
  ∀ root ∈ filter, ¬pushdown.Starves root

theorem Pushdown.Feeds.hasName {pushdown : Pushdown} {filter : Option Filter}
    (hfed : pushdown.Feeds filter) {m : Membership}
    (h : m ∈ ComponentPredicate.memberships (pushdown.predicate filter)) : m.HasName := by
  cases filter with
  | none =>
      rw [predicate, ComponentPredicate.memberships] at h
      cases h
  | some root => exact (origin_of_mem_memberships pushdown h).hasName (hfed root rfl)

theorem Pushdown.Feeds.of_make {config : Config} {pushdown : Pushdown} {filter : Option Filter}
    (hfed : pushdown.Feeds filter) : pushdown.Feeds (Plan.make config filter).pushdown := by
  intro pushed hpushed hstarves
  cases filter with
  | none => cases hpushed
  | some root =>
      exact hfed root rfl (hstarves.mono fun leaf hleaf => Plan.standsIn_pushdown hleaf hpushed)

theorem Pushdown.Feeds.isWritable {pushdown : Pushdown} {filter : Option Filter}
    (hfed : pushdown.Feeds filter) : (pushdown.predicate filter).IsWritable :=
  ComponentPredicate.IsNormal.isWritable (pushdown.predicate_isNormal filter) fun _ => hfed.hasName

/-- Unless a comparison is with no solutions or a condition is resolved to none, no list in the
predicate of a filter or in what a plan ends up asking for is empty, and neither is any pair of
parentheses in the text. -/
theorem Pushdown.predicate_isWritable (filter : Option Filter) :
    (∀ pushdown : Pushdown, pushdown.Feeds filter → (pushdown.predicate filter).IsWritable) ∧
      ∀ (config final : Config) (lookups : Lookups),
        Feeds { excluded := final.excluded, lookups := some lookups } filter →
          ((Plan.make config filter).finalPredicate final lookups).IsWritable := by
  refine ⟨fun _ hfed => hfed.isWritable, fun config final lookups hfed => ?_⟩
  rw [Plan.finalPredicate_make]
  exact hfed.of_make.isWritable

/-- A comparison with one solution, and a condition that one solution satisfies. -/
theorem Pushdown.predicate_isWritable_of_one_name :
    let compared : AttributeDiff := { source := "Core", mode := .specific, targets := ["Base"] }
    let steps : List Step := [.literal "Core", .dynamic ⟨"Publisher", "Equals", "Contoso"⟩]
    let filter : Filter := .any [.layer (.differs compared), .sequence .flexible steps]
    let lookups := Lookups.empty.insertResolution ⟨.publisher, .equals, "Contoso"⟩ ["Base"]
    let pushdown : Pushdown := { excluded := .standard, lookups := some lookups }
    pushdown.Feeds (some filter) ∧ (pushdown.predicate (some filter)).IsWritable ∧
      ((Plan.make {} (some filter)).finalPredicate {} lookups).IsWritable := by
  intro compared steps filter lookups pushdown
  have hleaves : ∀ leaf : Filter, leaf.children = [] → leaf.StandsIn filter →
      leaf = .layer (.differs compared) ∨ leaf = .sequence .flexible steps := by
    rintro leaf hleaf (_ | ⟨hmem, hunder⟩)
    · cases hleaf
    · rcases List.mem_pair.1 hmem with rfl | rfl
      · exact (Filter.standsIn_iff.1 hunder).elim .inl nofun
      · exact (Filter.standsIn_iff.1 hunder).elim .inr nofun
  have hresolved : ∀ raw condition, .dynamic raw ∈ steps → raw.condition? = some condition →
      lookups.resolved? condition = some ["base"] := by
    intro raw condition hmem hcondition
    rcases List.mem_pair.1 hmem with hstep | hstep
    · cases hstep
    · obtain rfl := Step.dynamic.inj hstep
      obtain rfl := Option.some.inj (hcondition.symm.trans
        (by decide +kernel : _ = some ⟨.publisher, .equals, "Contoso"⟩))
      decide +kernel
  have hfed : pushdown.Feeds (some filter) := by
    rintro root hroot hstarves
    obtain rfl := Option.some.inj hroot
    cases hstarves with
    | compared stands _ no_target =>
        rcases hleaves _ rfl stands with hleaf | hleaf
        · cases hleaf
          cases no_target
        · cases hleaf
    | resolved stands hmem hcondition hlookups no_solution =>
        rcases hleaves _ rfl stands with hleaf | hleaf
        · cases hleaf
        · cases hleaf
          cases hlookups
          cases (hresolved _ _ hmem hcondition).symm.trans no_solution
  have hwritable := predicate_isWritable (some filter)
  exact ⟨hfed, hwritable.1 pushdown hfed, hwritable.2 {} {} lookups hfed⟩

/-- Neither a comparison with no solutions nor a condition that none satisfies is folded: their
lists are written without elements. -/
theorem Pushdown.predicate_holds_empty_lists :
    let compared : Filter := .layer (.differs { source := "Core", mode := .specific })
    let ordered : Filter := .sequence .flexible [.dynamic ⟨"Publisher", "Equals", "Contoso"⟩]
    let lookups := Lookups.empty.insertResolution ⟨.publisher, .equals, "Contoso"⟩ []
    let asked := predicate { excluded := .standard } (some compared)
    let narrowed := (Plan.make {} (some ordered)).finalPredicate {} lookups
    .targets [] ∈ ComponentPredicate.memberships asked ∧ ¬asked.IsWritable ∧
      .solutions [] ∈ ComponentPredicate.memberships narrowed ∧ ¬narrowed.IsWritable ∧
      render (ComponentPredicate.sql narrowed)
        = "EXISTS (SELECT 1 FROM layers l WHERE l.component_id = c.id AND "
          ++ "LOWER(l.solution_name) IN ())" := by
  intro compared ordered lookups asked narrowed
  have hasked : .targets [] ∈ ComponentPredicate.memberships asked := by decide +kernel
  have hnarrowed : .solutions [] ∈ ComponentPredicate.memberships narrowed := by decide +kernel
  exact ⟨hasked, fun h => h.1 _ hasked rfl, hnarrowed, fun h => h.1 _ hnarrowed rfl,
    by decide +kernel⟩

end Strata
