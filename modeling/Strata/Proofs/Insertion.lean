import Strata.Proofs.Ordering
import Strata.Store

/-!
# Layers that are added one after another

A layer that is added finds its place by halving, which makes sense only in a list that is in order:
there, what one layer says decides for all layers on one side of it. So that the layers are in order,
and that those of one ordinal stand as they came, has to be carried through a run of additions
together. The two are what it is to be a stable sort of the layers added so far
(`IsStableSort.insertByHalving` for one addition, `isStableSort_foldl_addLayer` for a run).

There is one stable sort, so a component that was built in this way is the same as one that was read
with its layers in the order of the additions and then normalized. Normalizing it again, as stores
do, changes nothing.
-/

namespace Strata

/-! ## Search by halving -/

section

variable {α : Type} {le : α → α → Bool}

/-- Where what does not pass has nothing behind it that does, halving finds the end of what passes. -/
theorem partitionPoint_eq_length_takeWhile {test : α → Bool} {list : List α}
    (h : list.Pairwise fun a b => test b = true → test a = true) :
    partitionPoint test list = (list.takeWhile test).length := by
  fun_induction partitionPoint test list with
  | case1 list hdrop =>
      have hlength := congrArg List.length hdrop
      rw [List.length_drop, List.length_nil] at hlength
      have hnil : list = [] := List.eq_nil_of_length_eq_zero (by omega)
      rw [hnil]
      rfl
  | case2 list middle upper hdrop hpass ih =>
      have hsplit : list = list.take (list.length / 2) ++ middle :: upper := by
        rw [← hdrop, List.take_append_drop]
      have hhalf : (list.take (list.length / 2)).length = list.length / 2 := by
        rw [List.length_take]
        omega
      rw [hsplit] at h
      obtain ⟨-, hupper, hlower⟩ := List.pairwise_append.1 h
      -- All of the lower half passes, and so does the middle.
      have hall : ∀ a ∈ list.take (list.length / 2), test a = true := fun a ha =>
        hlower a ha middle List.mem_cons_self hpass
      have htake : list.takeWhile test
          = list.take (list.length / 2) ++ middle :: upper.takeWhile test := by
        refine (congrArg (List.takeWhile test) hsplit).trans ?_
        rw [List.takeWhile_append_of_pos hall, List.takeWhile_cons_of_pos hpass]
      rw [ih (List.pairwise_cons.1 hupper).2, htake, List.length_append, List.length_cons, hhalf]
      omega
  | case3 list middle upper hdrop hfail ih =>
      have hsplit : list = list.take (list.length / 2) ++ middle :: upper := by
        rw [← hdrop, List.take_append_drop]
      rw [hsplit] at h
      obtain ⟨hlower, -, -⟩ := List.pairwise_append.1 h
      -- What passes ends in the lower half, or with it.
      have htake : list.takeWhile test = (list.take (list.length / 2)).takeWhile test := by
        refine (congrArg (List.takeWhile test) hsplit).trans ?_
        rw [List.takeWhile_append, List.takeWhile_cons_of_neg hfail, List.append_nil]
        split
        · next hfull => exact (List.takeWhile_prefix test).eq_of_length hfull |>.symm
        · rfl
      rw [ih hlower, htake]

theorem insertIdx_takeWhile (a : α) (list : List α) :
    list.insertIdx (list.takeWhile fun b => le b a).length a = stableInsert le a list := by
  induction list with
  | nil => rfl
  | cons b list ih =>
      rw [stableInsert]
      split
      · next hba =>
          rw [List.takeWhile_cons, if_pos hba, List.length_cons, List.insertIdx_succ_cons, ih]
      · next hba =>
          rw [List.takeWhile_cons, if_neg hba, List.length_nil, List.insertIdx_zero]

/-- In a list in order, halving finds the place that looking at one element after another does. -/
theorem insertByHalving_eq (htrans : ∀ a b c, le a b = true → le b c = true → le a c = true) (a : α)
    {list : List α} (h : list.Pairwise fun a b => le a b = true) :
    insertByHalving le a list = stableInsert le a list := by
  have hpartition : list.Pairwise fun b c => le c a = true → le b a = true :=
    h.imp fun hle hc => htrans _ _ _ hle hc
  rw [insertByHalving, partitionPoint_eq_length_takeWhile hpartition, insertIdx_takeWhile]

end

/-! ## Layers -/

/-- A layer added to the stable sort of some layers makes the stable sort of those and itself. -/
theorem Layer.IsStableSort.insertByHalving {sorted layers : List Layer}
    (h : IsStableSort sorted layers) (layer : Layer) :
    IsStableSort (insertByHalving le layer sorted) (layers ++ [layer]) := by
  have hsorted : sorted.Pairwise fun a b => le a b = true := h.ordered.imp decide_eq_true
  rw [insertByHalving_eq le_trans layer hsorted]
  exact
    { perm := (stableInsert_perm layer sorted).trans
        ((h.perm.cons layer).trans (List.perm_append_singleton layer layers).symm)
      ordered := (stableInsert_pairwise le_total le_trans layer hsorted).imp of_decide_eq_true
      stable := fun ordinal => by
        rw [filter_stableInsert le_trans _ hsorted, h.stable, List.filter_append]
        intro other _ hother hlayer
        rw [le, beq_iff_eq.1 hother, beq_iff_eq.1 hlayer]
        exact decide_eq_true (Int64.le_refl ordinal) }

namespace Component

theorem isStableSort_foldl_addLayer {component : Component} {added : List Layer}
    (h : Layer.IsStableSort component.layers added) (layers : List Layer) :
    Layer.IsStableSort (layers.foldl addLayer component).layers (added ++ layers) := by
  induction layers generalizing component added with
  | nil => rwa [List.append_nil]
  | cons layer layers ih =>
      rw [List.foldl_cons, List.append_cons]
      exact ih (h.insertByHalving layer)

theorem foldl_addLayer_eq (component : Component) (layers : List Layer) :
    layers.foldl addLayer component
      = { component with layers := (layers.foldl addLayer component).layers } := by
  induction layers generalizing component with
  | nil => rfl
  | cons layer layers ih => exact ih (component.addLayer layer)

theorem normalize_eq_self {component : Component} {layers : List Layer}
    (h : Layer.IsStableSort component.layers layers) : component.normalize = component := by
  have hsorted : component.layers.Pairwise fun a b => Layer.le a b = true :=
    h.ordered.imp decide_eq_true
  rw [normalize, Layer.sort, stableSort_eq_self hsorted]

/-- Adding the layers of a component one after another, from none on, gives after each addition the
stable sort of those added so far: all of them as they are, in the order of their ordinals, and those
of one ordinal in the order of the additions. In the end it gives what normalizing the component
does, and stores take it as it is. -/
theorem foldl_addLayer_eq_normalize (component : Component) :
    let bare : Component := { component with layers := [] }
    let built := component.layers.foldl addLayer bare
    (∀ count : Nat, Layer.IsStableSort ((component.layers.take count).foldl addLayer bare).layers
      (component.layers.take count)) ∧
    built = component.normalize ∧
    ∀ (store : Store) (before after : List Component),
      (store.push built).components = store.components ++ [built] ∧
      (Store.ofList (before ++ built :: after)).components
        = before.map normalize ++ built :: after.map normalize := by
  intro bare built
  have hnone : Layer.IsStableSort bare.layers [] := Layer.isStableSort_sort []
  have hbuilt : Layer.IsStableSort built.layers component.layers :=
    isStableSort_foldl_addLayer hnone component.layers
  have hnormal : built.normalize = built := normalize_eq_self hbuilt
  refine ⟨fun count => isStableSort_foldl_addLayer hnone _, ?_, fun store before after => ⟨?_, ?_⟩⟩
  · rw [normalize, ← hbuilt.eq_sort]
    exact foldl_addLayer_eq bare component.layers
  · rw [Store.push, hnormal]
  · rw [Store.ofList, List.map_append, List.map_cons, hnormal]

/-- Layers of one ordinal stay as they came, at the ends of the range of ordinals as well. -/
example :
    let layer (solution : String) (ordinal : Ordinal) : Layer := { solution, ordinal }
    let bare : Component := { logicalName := "account", componentType := "Form" }
    ([layer "C" Int64.maxValue, layer "A" Int64.minValue, layer "B" 0, layer "D" Int64.maxValue,
      layer "b" 0].foldl addLayer bare).layers.map (·.solution) = ["A", "B", "b", "C", "D"] := by
  decide +kernel

end Component

end Strata
