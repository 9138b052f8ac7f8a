import Strata.Component.Basic

/-!
# Stable sorting and ordinals

Sorting by insertion permutes a list, puts it in order and keeps what is tied as it came, and there
is one list of which all that can be said (`eq_of_filter_eq`). `List.max?` and `List.min?` on
ordinals are the bounds they look like, which is said through the order classes of the standard
library.
-/

namespace Strata

section

variable {α : Type} {le : α → α → Bool}

theorem stableInsert_perm (a : α) (list : List α) : (stableInsert le a list).Perm (a :: list) := by
  induction list with
  | nil => exact List.Perm.refl [a]
  | cons b list ih =>
      rw [stableInsert]
      split
      · exact (ih.cons b).trans (List.Perm.swap a b list)
      · exact List.Perm.refl _

theorem foldl_stableInsert_perm (list sorted : List α) :
    (list.foldl (fun sorted a => stableInsert le a sorted) sorted).Perm (list ++ sorted) := by
  induction list generalizing sorted with
  | nil => exact List.Perm.refl sorted
  | cons a list ih =>
      rw [List.foldl_cons]
      refine (ih _).trans (((stableInsert_perm a sorted).append_left list).trans ?_)
      exact List.perm_middle

theorem stableSort_perm (list : List α) : (stableSort le list).Perm list := by
  have h : (stableSort le list).Perm (list ++ []) := foldl_stableInsert_perm list []
  rw [List.append_nil] at h
  exact h

theorem mem_stableSort {a : α} {list : List α} : a ∈ stableSort le list ↔ a ∈ list :=
  (stableSort_perm list).mem_iff

theorem stableInsert_pairwise (htotal : ∀ a b, le a b = true ∨ le b a = true)
    (htrans : ∀ a b c, le a b = true → le b c = true → le a c = true) (a : α) {list : List α}
    (h : list.Pairwise fun a b => le a b = true) :
    (stableInsert le a list).Pairwise fun a b => le a b = true := by
  induction list with
  | nil => exact List.pairwise_singleton _ a
  | cons b list ih =>
      obtain ⟨hb, hlist⟩ := List.pairwise_cons.1 h
      rw [stableInsert]
      split
      · next hba =>
          refine List.pairwise_cons.2 ⟨fun c hc => ?_, ih hlist⟩
          rcases List.mem_cons.1 ((stableInsert_perm a list).mem_iff.1 hc) with rfl | hc
          · exact hba
          · exact hb c hc
      · next hba =>
          have hab : le a b = true := (htotal a b).resolve_right hba
          refine List.pairwise_cons.2 ⟨fun c hc => ?_, h⟩
          rcases List.mem_cons.1 hc with rfl | hc
          · exact hab
          · exact htrans a b c hab (hb c hc)

theorem stableSort_pairwise (htotal : ∀ a b, le a b = true ∨ le b a = true)
    (htrans : ∀ a b c, le a b = true → le b c = true → le a c = true) (list : List α) :
    (stableSort le list).Pairwise fun a b => le a b = true := by
  suffices h : ∀ sorted : List α, (sorted.Pairwise fun a b => le a b = true) →
      (list.foldl (fun sorted a => stableInsert le a sorted) sorted).Pairwise
        fun a b => le a b = true from h [] List.Pairwise.nil
  induction list with
  | nil => exact fun _ h => h
  | cons a list ih => exact fun sorted h => ih _ (stableInsert_pairwise htotal htrans a h)

theorem stableInsert_map {β : Type} {leMapped : β → β → Bool} {f : α → β}
    (h : ∀ a b, leMapped (f a) (f b) = le a b) (a : α) (list : List α) :
    stableInsert leMapped (f a) (list.map f) = (stableInsert le a list).map f := by
  induction list with
  | nil => rfl
  | cons b list ih =>
      rw [List.map_cons, stableInsert, stableInsert, h, ih]
      split <;> rfl

/-- A map that keeps the order of elements may be applied before sorting or after. -/
theorem stableSort_map {β : Type} {leMapped : β → β → Bool} {f : α → β}
    (h : ∀ a b, leMapped (f a) (f b) = le a b) (list : List α) :
    stableSort leMapped (list.map f) = (stableSort le list).map f := by
  suffices hfold : ∀ sorted : List α,
      (list.map f).foldl (fun sorted a => stableInsert leMapped a sorted) (sorted.map f)
        = (list.foldl (fun sorted a => stableInsert le a sorted) sorted).map f from hfold []
  induction list with
  | nil => exact fun _ => rfl
  | cons a list ih =>
      intro sorted
      rw [List.map_cons, List.foldl_cons, List.foldl_cons, stableInsert_map h, ih]

/-! ### Stability

Elements that are equal in the order stay as they came, and what is left of a list when elements are
taken out of it is sorted as it was within the whole. Both need that what is inserted into is in
order: the search for the place of an element stops at the first one that has to come after it. -/

theorem sublist_stableInsert (a : α) (list : List α) : list.Sublist (stableInsert le a list) := by
  induction list with
  | nil => exact List.nil_sublist _
  | cons b list ih =>
      rw [stableInsert]
      split
      · exact ih.cons_cons b
      · exact List.sublist_cons_self a (b :: list)

/-- An element that has to stand before all of a list is put in front. -/
theorem stableInsert_eq_cons {a : α} {list : List α} (h : ∀ b ∈ list, le b a = false) :
    stableInsert le a list = a :: list := by
  cases list with
  | nil => rfl
  | cons b list => rw [stableInsert, h b List.mem_cons_self, if_neg Bool.false_ne_true]

/-- In a sorted list nothing behind an element has to stand before what that element is behind. -/
theorem not_le_of_pairwise (htrans : ∀ a b c, le a b = true → le b c = true → le a c = true)
    {a b : α} {list : List α} (h : (b :: list).Pairwise fun a b => le a b = true)
    (hba : ¬ le b a = true) : ∀ c ∈ b :: list, le c a = false := by
  intro c hc
  rw [Bool.eq_false_iff]
  intro hca
  rcases List.mem_cons.1 hc with rfl | hc
  · exact hba hca
  · exact hba (htrans b c a ((List.pairwise_cons.1 h).1 c hc) hca)

theorem stableInsert_sublist (htrans : ∀ a b c, le a b = true → le b c = true → le a c = true)
    (a : α) {list more : List α} (hmore : more.Pairwise fun a b => le a b = true)
    (h : list.Sublist more) : (stableInsert le a list).Sublist (stableInsert le a more) := by
  induction h with
  | slnil => exact List.Sublist.refl _
  | @cons list more b h ih =>
      rw [stableInsert]
      split
      · exact (ih (List.pairwise_cons.1 hmore).2).cons b
      · next hba =>
          have hfront := not_le_of_pairwise htrans hmore hba
          rw [stableInsert_eq_cons fun c hc => hfront c (List.mem_cons_of_mem b (h.subset hc))]
          exact (h.cons b).cons_cons a
  | @cons_cons list more b h ih =>
      rw [stableInsert, stableInsert]
      split
      · exact (ih (List.pairwise_cons.1 hmore).2).cons_cons b
      · exact (h.cons_cons b).cons_cons a

theorem filter_stableInsert (htrans : ∀ a b c, le a b = true → le b c = true → le a c = true)
    {chosen : α → Bool} {a : α} {list : List α}
    (htied : ∀ b ∈ list, chosen b = true → chosen a = true → le b a = true)
    (hlist : list.Pairwise fun a b => le a b = true) :
    (stableInsert le a list).filter chosen = list.filter chosen ++ [a].filter chosen := by
  induction list with
  | nil => rfl
  | cons b list ih =>
      rw [stableInsert]
      split
      · have hrest := ih (fun c hc => htied c (List.mem_cons_of_mem b hc))
          (List.pairwise_cons.1 hlist).2
        rw [List.filter_cons, List.filter_cons, hrest]
        split <;> rfl
      · next hba =>
          have hfront := not_le_of_pairwise htrans hlist hba
          cases ha : chosen a with
          | false => simp [ha]
          | true =>
              -- Whatever is chosen is tied with `a`, and nothing in the list is.
              have hnone : (b :: list).filter chosen = [] := by
                rw [List.filter_eq_nil_iff]
                intro c hc hchosen
                have htrue := htied c hc hchosen ha
                rw [hfront c hc] at htrue
                cases htrue
              rw [List.filter_cons_of_pos ha, hnone, List.filter_cons_of_pos ha]
              rfl

/-- Sorting keeps elements that are tied with each other in the order in which they came. -/
theorem filter_stableSort (htotal : ∀ a b, le a b = true ∨ le b a = true)
    (htrans : ∀ a b c, le a b = true → le b c = true → le a c = true) {chosen : α → Bool}
    (htied : ∀ a b, chosen a = true → chosen b = true → le a b = true) (list : List α) :
    (stableSort le list).filter chosen = list.filter chosen := by
  suffices h : ∀ sorted : List α, (sorted.Pairwise fun a b => le a b = true) →
      (list.foldl (fun sorted a => stableInsert le a sorted) sorted).filter chosen
        = sorted.filter chosen ++ list.filter chosen from h [] List.Pairwise.nil
  induction list with
  | nil =>
      intro sorted _
      rw [List.filter_nil, List.append_nil]
      rfl
  | cons a list ih =>
      intro sorted h
      rw [List.foldl_cons, ih _ (stableInsert_pairwise htotal htrans a h),
        filter_stableInsert htrans (fun b _ hb ha => htied b a hb ha) h, List.append_assoc,
        ← List.filter_append]
      rfl

/-- Sorting part of a list gives part of the sorted list. -/
theorem stableSort_sublist (htotal : ∀ a b, le a b = true ∨ le b a = true)
    (htrans : ∀ a b c, le a b = true → le b c = true → le a c = true) {list more : List α}
    (h : list.Sublist more) : (stableSort le list).Sublist (stableSort le more) := by
  suffices hfold : ∀ sorted sortedMore : List α, sorted.Sublist sortedMore →
      (sortedMore.Pairwise fun a b => le a b = true) →
      (list.foldl (fun sorted a => stableInsert le a sorted) sorted).Sublist
        (more.foldl (fun sorted a => stableInsert le a sorted) sortedMore) from
    hfold [] [] (List.Sublist.refl _) List.Pairwise.nil
  induction h with
  | slnil => exact fun _ _ h _ => h
  | @cons list more a _ ih =>
      intro sorted sortedMore h hsorted
      exact ih sorted _ (h.trans (sublist_stableInsert a sortedMore))
        (stableInsert_pairwise htotal htrans a hsorted)
  | @cons_cons list more a _ ih =>
      intro sorted sortedMore h hsorted
      exact ih _ _ (stableInsert_sublist htrans a hsorted h)
        (stableInsert_pairwise htotal htrans a hsorted)

/-- An element that may stand behind all of a list is put behind it. -/
theorem stableInsert_eq_append {a : α} {list : List α} (h : ∀ b ∈ list, le b a = true) :
    stableInsert le a list = list ++ [a] := by
  induction list with
  | nil => rfl
  | cons b list ih =>
      rw [List.forall_mem_cons] at h
      rw [stableInsert, if_pos h.1, ih h.2, List.cons_append]

/-- A list in order is sorted already. -/
theorem stableSort_eq_self {list : List α} (h : list.Pairwise fun a b => le a b = true) :
    stableSort le list = list := by
  suffices hfold : ∀ sorted : List α, ((sorted ++ list).Pairwise fun a b => le a b = true) →
      list.foldl (fun sorted a => stableInsert le a sorted) sorted = sorted ++ list from
    hfold [] h
  clear h
  induction list with
  | nil => exact fun sorted _ => (List.append_nil sorted).symm
  | cons a list ih =>
      intro sorted h
      have hbefore : ∀ b ∈ sorted, le b a = true := fun b hb =>
        (List.pairwise_append.1 h).2.2 b hb a List.mem_cons_self
      rw [List.append_cons] at h ⊢
      rw [List.foldl_cons, stableInsert_eq_append hbefore, ih _ h]

/-- Lists in the order of a key are determined by what they are for each value of it. -/
theorem eq_of_filter_eq {κ : Type} [DecidableEq κ] [LE κ] {key : α → κ}
    (hrefl : ∀ k : κ, k ≤ k) (hantisymm : ∀ k l : κ, k ≤ l → l ≤ k → k = l) {a b : List α}
    (hperm : a.Perm b) (ha : a.Pairwise fun x y => key x ≤ key y)
    (hb : b.Pairwise fun x y => key x ≤ key y)
    (h : ∀ k, (a.filter fun x => key x == k) = b.filter fun x => key x == k) : a = b := by
  induction a generalizing b with
  | nil => exact hperm.nil_eq
  | cons x a ih =>
      cases b with
      | nil => exact hperm.eq_nil
      | cons y b =>
          rw [List.pairwise_cons] at ha hb
          -- Each of the two heads is least among the same elements.
          have hkey : key x = key y := by
            have hx : key y ≤ key x := by
              rcases List.mem_cons.1 (hperm.mem_iff.1 List.mem_cons_self) with rfl | hmem
              · exact hrefl _
              · exact hb.1 x hmem
            have hy : key x ≤ key y := by
              rcases List.mem_cons.1 (hperm.mem_iff.2 List.mem_cons_self) with rfl | hmem
              · exact hrefl _
              · exact ha.1 y hmem
            exact hantisymm _ _ hy hx
          have hhead := h (key x)
          simp only [List.filter_cons, hkey, beq_self_eq_true, if_true] at hhead
          obtain ⟨rfl, -⟩ := List.cons.inj hhead
          refine congrArg (x :: ·) (ih hperm.cons_inv ha.2 hb.2 fun k => ?_)
          have hrest := h k
          rw [List.filter_cons, List.filter_cons] at hrest
          split at hrest
          · exact (List.cons.inj hrest).2
          · exact hrest

end

/-! ## Layers -/

namespace Layer

theorem sort_perm (layers : List Layer) : (sort layers).Perm layers := stableSort_perm layers

theorem mem_sort {layer : Layer} {layers : List Layer} : layer ∈ sort layers ↔ layer ∈ layers :=
  mem_stableSort

theorem le_total (a b : Layer) : le a b = true ∨ le b a = true := by
  simpa [le] using Int64.le_total a.ordinal b.ordinal

theorem le_trans (a b c : Layer) : le a b = true → le b c = true → le a c = true := by
  simpa [le] using Int64.le_trans

theorem sort_pairwise (layers : List Layer) :
    (sort layers).Pairwise fun a b => a.ordinal ≤ b.ordinal :=
  (stableSort_pairwise le_total le_trans layers).imp fun hle => of_decide_eq_true hle

/-- Some of a component's layers are sorted as they are among all of them. -/
theorem sort_sublist {layers more : List Layer} (h : layers.Sublist more) :
    (sort layers).Sublist (sort more) := stableSort_sublist le_total le_trans h

/-- Layers whose ordinals differ are sorted strictly. -/
theorem sort_strict {layers : List Layer} (h : (layers.map (·.ordinal)).Nodup) :
    (sort layers).Pairwise fun a b => a.ordinal < b.ordinal := by
  have hnodup : ((sort layers).map (·.ordinal)).Nodup := ((sort_perm layers).map _).nodup_iff.2 h
  rw [List.Nodup, List.pairwise_map] at hnodup
  exact ((sort_pairwise layers).and hnodup).imp fun ⟨hle, hne⟩ => Int64.lt_of_le_of_ne hle hne

/-- Whether a list has the layers of another in the order of their ordinals, and those of one
ordinal in the order in which they came. -/
structure IsStableSort (sorted layers : List Layer) : Prop where
  perm : sorted.Perm layers
  ordered : sorted.Pairwise fun a b => a.ordinal ≤ b.ordinal
  stable : ∀ ordinal : Ordinal, (sorted.filter fun layer => layer.ordinal == ordinal)
    = layers.filter fun layer => layer.ordinal == ordinal

theorem isStableSort_sort (layers : List Layer) : IsStableSort (sort layers) layers where
  perm := sort_perm layers
  ordered := sort_pairwise layers
  stable ordinal := by
    refine filter_stableSort le_total le_trans (fun a b ha hb => ?_) layers
    rw [le, beq_iff_eq.1 ha, beq_iff_eq.1 hb]
    exact decide_eq_true (Int64.le_refl ordinal)

/-- There is one stable sort of layers. -/
theorem IsStableSort.eq_sort {sorted layers : List Layer} (h : IsStableSort sorted layers) :
    sorted = sort layers := by
  have hsort := isStableSort_sort layers
  refine eq_of_filter_eq Int64.le_refl (fun _ _ => Int64.le_antisymm)
    (h.perm.trans hsort.perm.symm) h.ordered hsort.ordered fun ordinal => ?_
  rw [h.stable, hsort.stable]

end Layer

/-! ## Bounds of ordinals -/

instance : Std.LawfulOrderMax Ordinal where
  max_eq_or a b := by
    show (if a ≤ b then b else a) = a ∨ (if a ≤ b then b else a) = b
    split <;> simp
  max_le_iff a b c := by
    show (if a ≤ b then b else a) ≤ c ↔ a ≤ c ∧ b ≤ c
    split <;> grind

instance : Std.LawfulOrderMin Ordinal where
  min_eq_or a b := by
    show (if a ≤ b then a else b) = a ∨ (if a ≤ b then a else b) = b
    split <;> simp
  le_min_iff a b c := by
    show a ≤ (if b ≤ c then b else c) ↔ a ≤ b ∧ a ≤ c
    split <;> grind

theorem forall_max?_lt {ordinals : List Ordinal} {bound : Ordinal} :
    (∀ greatest, ordinals.max? = some greatest → greatest < bound)
      ↔ ∀ ordinal ∈ ordinals, ordinal < bound := by
  constructor
  · intro h ordinal hmem
    cases hmax : ordinals.max? with
    | none =>
        rw [List.max?_eq_none_iff.1 hmax] at hmem
        cases hmem
    | some greatest =>
        have hle := (List.max?_eq_some_iff.1 hmax).2 ordinal hmem
        exact Int64.lt_of_le_of_lt hle (h greatest hmax)
  · exact fun h greatest hmax => h greatest (List.max?_mem hmax)

theorem forall_lt_min? {ordinals : List Ordinal} {bound : Ordinal} :
    (∀ least, ordinals.min? = some least → bound < least)
      ↔ ∀ ordinal ∈ ordinals, bound < ordinal := by
  constructor
  · intro h ordinal hmem
    cases hmin : ordinals.min? with
    | none =>
        rw [List.min?_eq_none_iff.1 hmin] at hmem
        cases hmem
    | some least =>
        have hle := (List.min?_eq_some_iff.1 hmin).2 ordinal hmem
        exact Int64.lt_of_lt_of_le (h least hmin) hle
  · exact fun h least hmin => h least (List.min?_mem hmin)

end Strata
