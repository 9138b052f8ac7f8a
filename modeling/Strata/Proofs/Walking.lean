import Mathlib.Data.List.Forall2
import Mathlib.Data.List.NodupEquivFin
import Strata.Proofs.Narrowing

/-!
# What a walk finds

A walk looks at each layer once and gives it to the step that is due, if that step accepts it. Said
without the walk: the steps accept, one each and in order, some of the layers. For a strict walk
these are the first ones (`walk_strict_iff`). For a flexible walk they may be any
(`walk_flexible_iff`), and here it has to be shown that to take a layer as soon as it is accepted
misses nothing: whatever choice of layers there is, if it passes over a layer that its first step
accepts, then the layers it takes for the later steps still lie behind that layer.

What follows no longer looks at walks. The first layers are some of the layers, and some of some
layers are some of more.
-/

namespace Strata

/-- Whether steps accept layers, one each and in order. -/
def AcceptEach (steps : List Step) (layers : List Layer) : Prop :=
  List.Forall₂ (fun step layer => step.accepts layer = true) steps layers

namespace SequenceMode

variable {steps : List Step} {layers : List Layer}

/-! ## Walks -/

theorem walk_nil (mode : SequenceMode) (layers : List Layer) : mode.walk [] layers = true := by
  rw [walk]

theorem not_walk_cons_nil (mode : SequenceMode) (step : Step) (steps : List Step) :
    ¬ mode.walk (step :: steps) [] = true := by
  rw [walk]
  exact Bool.false_ne_true

theorem walk_strict_iff :
    SequenceMode.strict.walk steps layers = true
      ↔ ∃ taken, taken <+: layers ∧ AcceptEach steps taken := by
  induction steps generalizing layers with
  | nil => exact iff_of_true (walk_nil _ _) ⟨[], List.nil_prefix, .nil⟩
  | cons step steps ih =>
      cases layers with
      | nil =>
          refine iff_of_false (not_walk_cons_nil _ _ _) ?_
          rintro ⟨taken, hprefix, heach⟩
          rw [List.prefix_nil.1 hprefix] at heach
          cases heach
      | cons layer layers =>
          rw [walk_cons_iff, ih]
          constructor
          · rintro (⟨haccepts, taken, hprefix, heach⟩ | ⟨-, hmode, -⟩)
            · exact ⟨layer :: taken, List.cons_prefix_cons.2 ⟨rfl, hprefix⟩, .cons haccepts heach⟩
            · cases hmode
          · rintro ⟨taken, hprefix, heach⟩
            cases heach with
            | cons haccepts heach =>
                obtain ⟨rfl, hrest⟩ := List.cons_prefix_cons.1 hprefix
                exact .inl ⟨haccepts, _, hrest, heach⟩

theorem walk_flexible_iff :
    SequenceMode.flexible.walk steps layers = true
      ↔ ∃ taken, taken.Sublist layers ∧ AcceptEach steps taken := by
  induction layers generalizing steps with
  | nil =>
      cases steps with
      | nil => exact iff_of_true (walk_nil _ _) ⟨[], List.Sublist.refl _, .nil⟩
      | cons step steps =>
          refine iff_of_false (not_walk_cons_nil _ _ _) ?_
          rintro ⟨taken, hsub, heach⟩
          rw [List.sublist_nil.1 hsub] at heach
          cases heach
  | cons layer layers ih =>
      cases steps with
      | nil => exact iff_of_true (walk_nil _ _) ⟨[], List.nil_sublist _, .nil⟩
      | cons step steps =>
          rw [walk_cons_iff, ih, ih]
          constructor
          · rintro (⟨haccepts, taken, hsub, heach⟩ | ⟨-, -, taken, hsub, heach⟩)
            · exact ⟨layer :: taken, hsub.cons_cons layer, .cons haccepts heach⟩
            · exact ⟨taken, hsub.cons layer, heach⟩
          · rintro ⟨taken, hsub, heach⟩
            cases heach with
            | @cons _ first _ rest hfirst hrest =>
                cases haccepts : step.accepts layer with
                | true =>
                    -- The layer is taken; what was chosen for the later steps lies behind it.
                    exact .inl ⟨rfl, rest, hsub.of_cons_cons, hrest⟩
                | false =>
                    refine .inr ⟨rfl, rfl, first :: rest, ?_, .cons hfirst hrest⟩
                    cases hsub with
                    | cons _ hsub => exact hsub
                    | cons_cons _ hsub =>
                        rw [haccepts] at hfirst
                        cases hfirst

/-! ## Places

Both sorts of walk by the places of the layers that are taken. -/

theorem walk_strict_iff_get :
    SequenceMode.strict.walk steps layers = true
      ↔ ∃ hlength : steps.length ≤ layers.length,
          ∀ i, (steps.get i).accepts (layers.get (i.castLE hlength)) = true := by
  rw [walk_strict_iff]
  constructor
  · rintro ⟨taken, hprefix, heach⟩
    obtain ⟨hlength, haccepts⟩ := List.forall₂_iff_get.1 heach
    refine ⟨hlength ▸ hprefix.length_le, fun i => ?_⟩
    have htaken : i < taken.length := hlength ▸ i.isLt
    have hstep := haccepts i i.isLt htaken
    simp only [List.get_eq_getElem, hprefix.getElem htaken] at hstep
    exact hstep
  · rintro ⟨hlength, haccepts⟩
    refine ⟨layers.take steps.length, List.take_prefix _ _, List.forall₂_iff_get.2 ⟨?_, ?_⟩⟩
    · rw [List.length_take, Nat.min_eq_left hlength]
    · intro i hi htaken
      simp only [List.get_eq_getElem, List.getElem_take]
      exact haccepts ⟨i, hi⟩

theorem walk_flexible_iff_get :
    SequenceMode.flexible.walk steps layers = true
      ↔ ∃ place : Fin steps.length → Fin layers.length, StrictMono place ∧
          ∀ i, (steps.get i).accepts (layers.get (place i)) = true := by
  rw [walk_flexible_iff]
  constructor
  · rintro ⟨taken, hsub, heach⟩
    obtain ⟨hlength, haccepts⟩ := List.forall₂_iff_get.1 heach
    obtain ⟨place, hplace⟩ := List.sublist_iff_exists_fin_orderEmbedding_get_eq.1 hsub
    refine ⟨fun i => place (i.cast hlength), fun i j hij => place.strictMono hij, fun i => ?_⟩
    rw [← hplace]
    exact haccepts i i.isLt (i.cast hlength).isLt
  · rintro ⟨place, hmono, haccepts⟩
    have hlength : steps.length = (List.ofFn fun i => layers.get (place i)).length :=
      List.length_ofFn.symm
    refine ⟨List.ofFn fun i => layers.get (place i), ?_, List.forall₂_iff_get.2 ⟨hlength, ?_⟩⟩
    · refine List.sublist_iff_exists_fin_orderEmbedding_get_eq.2
        ⟨OrderEmbedding.ofStrictMono (fun i => place (i.cast hlength.symm)) ?_, fun i => ?_⟩
      · exact fun i j hij => hmono hij
      · rw [List.get_ofFn]
        rfl
    · intro i hi _
      rw [List.get_ofFn]
      exact haccepts ⟨i, hi⟩

/-! ## Sequences -/

theorem accepts_flexible_of_strict (h : SequenceMode.strict.accepts steps layers = true) :
    SequenceMode.flexible.accepts steps layers = true := by
  obtain ⟨taken, hprefix, heach⟩ := walk_strict_iff.1 h
  exact walk_flexible_iff.2 ⟨taken, hprefix.sublist, heach⟩

theorem accepts_flexible_of_sublist {more : List Layer} (hmore : layers.Sublist more)
    (h : SequenceMode.flexible.accepts steps layers = true) :
    SequenceMode.flexible.accepts steps more = true := by
  obtain ⟨taken, hsub, heach⟩ := walk_flexible_iff.1 h
  exact walk_flexible_iff.2 ⟨taken, hsub.trans (Layer.sort_sublist hmore), heach⟩

/-- What a sequence asks of the stable sort of a component's layers: a strict one that the steps
accept its first layers, place by place, a flexible one that there are rising places at which they
accept a layer each. So the strict one asks for more, and further layers, wherever they come in, do
not make a flexible one fail. -/
theorem accepts_iff_of_isStableSort {sorted : List Layer}
    (hsorted : Layer.IsStableSort sorted layers) :
    (SequenceMode.strict.accepts steps layers = true
        ↔ ∃ hlength : steps.length ≤ sorted.length,
            ∀ i, (steps.get i).accepts (sorted.get (i.castLE hlength)) = true) ∧
      (SequenceMode.flexible.accepts steps layers = true
        ↔ ∃ place : Fin steps.length → Fin sorted.length, StrictMono place ∧
            ∀ i, (steps.get i).accepts (sorted.get (place i)) = true) ∧
      (SequenceMode.strict.accepts steps layers = true →
        SequenceMode.flexible.accepts steps layers = true) ∧
      ∀ more : List Layer, layers.Sublist more →
        SequenceMode.flexible.accepts steps layers = true →
        SequenceMode.flexible.accepts steps more = true := by
  rw [hsorted.eq_sort]
  exact ⟨walk_strict_iff_get, walk_flexible_iff_get, accepts_flexible_of_strict,
    fun _ hmore h => accepts_flexible_of_sublist hmore h⟩

/-- Layers that came out of order, two of one ordinal, and a step that no layer satisfies. -/
theorem accepts_iff_of_isStableSort_tied :
    let base : Layer := { solution := "Base", ordinal := 0 }
    let patch : Layer := { solution := "Patch", ordinal := 1, publisher := some "Contoso" }
    let addon : Layer := { solution := "Addon", ordinal := 1 }
    let added : Layer := { solution := "Other", ordinal := 0 }
    let steps : List Step := [.choice ["other", "BASE"],
      .dynamic { field := "publisher", operator := "startswith", value := "CON" }, .literal "addon"]
    let malformed : Step := .dynamic { field := "colour", operator := "eq", value := "" }
    Layer.IsStableSort [base, patch, addon] [patch, addon, base] ∧
    SequenceMode.strict.accepts steps [patch, addon, base] = true ∧
    SequenceMode.flexible.accepts steps [patch, addon, base] = true ∧
    SequenceMode.strict.accepts steps [patch, addon, base, added] = false ∧
    SequenceMode.flexible.accepts steps [patch, addon, base, added] = true ∧
    ¬ SequenceMode.flexible.accepts [.literal "Base", malformed] [patch, addon, base] = true := by
  intro base patch addon added steps malformed
  have hsort : Layer.sort [patch, addon, base] = [base, patch, addon] := by decide +kernel
  have hsorted : Layer.IsStableSort [base, patch, addon] [patch, addon, base] :=
    hsort ▸ Layer.isStableSort_sort [patch, addon, base]
  obtain ⟨hstrict, -, hflexible, hmore⟩ := @accepts_iff_of_isStableSort steps _ _ hsorted
  have haccepts : SequenceMode.strict.accepts steps [patch, addon, base] = true :=
    hstrict.2 ⟨by decide, by decide +kernel⟩
  refine ⟨hsorted, haccepts, hflexible haccepts, by decide +kernel,
    hmore _ (List.sublist_append_left _ [added]) (hflexible haccepts), fun h => ?_⟩
  obtain ⟨place, -, hplace⟩ := (accepts_iff_of_isStableSort hsorted).2.1.1 h
  have hnone : ∀ layer : Fin 3, malformed.accepts ([base, patch, addon].get layer) = false := by
    decide +kernel
  have hlast : malformed.accepts ([base, patch, addon].get (place 1)) = true := hplace 1
  exact Bool.false_ne_true ((hnone (place 1)).symm.trans hlast)

end SequenceMode

end Strata
