import Mathlib.Data.List.Induction
import Strata.Proofs.Tables

/-!
# The first of each key

What is asked twice is asked once, as it was put the first time. So of a list those elements are
kept that come first among the elements of their key (`IsFirst`), and they are kept either where
they come first (`firstPlace`) or in the order of their keys (`insertEach`).

All statements are about a list that grows at its end, as it does for who goes through it: an
element that was first stays first, and one that is added is first if its key is new.
-/

namespace Strata

section

variable {α κ : Type} [DecidableEq κ] {key : α → κ} {list : List α} {a b last : α}

/-- Whether an element comes first in a list among those of its key. -/
def IsFirst (key : α → κ) (list : List α) (a : α) : Prop :=
  list.find? (fun b => key b == key a) = some a

/-- The place where an element of the same key first comes in a list. -/
def firstPlace (key : α → κ) (list : List α) (a : α) : Nat :=
  list.findIdx fun b => key b == key a

/-- Whether a list has the elements of another that come first among those of their keys, in an
order. -/
structure FirstOfEach (key : α → κ) (before : α → α → Prop) (list kept : List α) : Prop where
  mem_iff : ∀ a, a ∈ kept ↔ IsFirst key list a
  ordered : kept.Pairwise before

theorem IsFirst.mem (h : IsFirst key list a) : a ∈ list := List.mem_of_find?_eq_some h

/-- An element of each key comes first. -/
theorem exists_isFirst (key : α → κ) (h : a ∈ list) : ∃ b, IsFirst key list b ∧ key b = key a := by
  have hsome : (list.find? fun b => key b == key a).isSome = true :=
    List.find?_isSome.2 ⟨a, h, beq_self_eq_true (key a)⟩
  obtain ⟨b, hb⟩ := Option.isSome_iff_exists.1 hsome
  have hkey : key b = key a := by simpa using List.find?_some hb
  refine ⟨b, ?_, hkey⟩
  rw [IsFirst, hkey]
  exact hb

theorem FirstOfEach.eq_nil_iff {before : α → α → Prop} {kept : List α}
    (h : FirstOfEach key before list kept) : kept = [] ↔ list = [] := by
  rw [List.eq_nil_iff_forall_not_mem, List.eq_nil_iff_forall_not_mem]
  constructor
  · intro hkept a hmem
    obtain ⟨b, hfirst, -⟩ := exists_isFirst key hmem
    exact hkept b ((h.mem_iff b).2 hfirst)
  · intro hlist a hmem
    exact hlist a ((h.mem_iff a).1 hmem).mem

theorem isFirst_append_singleton :
    IsFirst key (list ++ [last]) a
      ↔ IsFirst key list a ∨ a = last ∧ ∀ b ∈ list, key b ≠ key last := by
  have hnone : (list.find? fun b => key b == key last) = none
      ↔ ∀ b ∈ list, key b ≠ key last := by
    simp only [List.find?_eq_none, beq_iff_eq, ne_eq]
  rw [IsFirst, IsFirst, List.find?_append, Option.or_eq_some_iff]
  refine or_congr_right ?_
  by_cases hkey : key last = key a
  · rw [List.find?_singleton, if_pos (beq_iff_eq.2 hkey), ← hkey, hnone, and_comm]
    refine and_congr_left fun _ => ?_
    rw [Option.some.injEq, eq_comm]
  · rw [List.find?_singleton, if_neg (mt beq_iff_eq.1 hkey)]
    refine iff_of_false (fun h => nomatch h.2) fun h => hkey ?_
    rw [h.1]

/-! ## Places -/

theorem firstPlace_lt_length (h : a ∈ list) : firstPlace key list a < list.length :=
  List.findIdx_lt_length.2 ⟨a, h, beq_self_eq_true (key a)⟩

theorem firstPlace_append_of_mem (h : a ∈ list) (more : List α) :
    firstPlace key (list ++ more) a = firstPlace key list a := by
  rw [firstPlace, List.findIdx_append]
  exact if_pos (firstPlace_lt_length h)

theorem firstPlace_append_of_new (h : ∀ b ∈ list, key b ≠ key last) :
    firstPlace key (list ++ [last]) last = list.length := by
  have hnew : ¬ list.findIdx (fun b => key b == key last) < list.length := by
    simpa only [List.findIdx_lt_length, beq_iff_eq, not_exists, not_and] using h
  rw [firstPlace, List.findIdx_append, if_neg hnew, List.findIdx_singleton,
    if_pos (beq_self_eq_true (key last)), Nat.zero_add]

end

/-! ## In the order of keys

Whether a key is new can be told at the place where it belongs only if the list is sorted. -/

section

variable {β : Type} {key : String} {value : β} {list : List (String × β)} {entry : String × β}

theorem mem_insertFirst (hsorted : list.Pairwise fun a b => a.1 < b.1) :
    entry ∈ insertFirst key value list
      ↔ entry ∈ list ∨ entry = (key, value) ∧ ∀ other ∈ list, other.1 ≠ key := by
  induction list with
  | nil => simp [insertFirst]
  | cons first rest ih =>
      obtain ⟨hfirst, hrest⟩ := List.pairwise_cons.1 hsorted
      rw [insertFirst]
      split
      · next hlt =>
          have hnew : ∀ other ∈ first :: rest, other.1 ≠ key := by
            refine List.forall_mem_cons.2 ⟨(String.ne_of_lt hlt).symm, fun other hmem => ?_⟩
            exact (String.ne_of_lt (String.lt_trans hlt (hfirst other hmem))).symm
          rw [List.mem_cons, and_iff_left hnew, or_comm]
      · split
        · next hkey =>
            refine (or_iff_left fun h => ?_).symm
            exact h.2 first List.mem_cons_self hkey.symm
        · next hkey =>
            rw [List.mem_cons, List.mem_cons, ih hrest, or_assoc, List.forall_mem_cons,
              and_iff_right (Ne.symm hkey)]

theorem insertEach_append_singleton (entries : List (String × β)) (last : String × β) :
    insertEach (entries ++ [last]) [] = insertFirst last.1 last.2 (insertEach entries []) :=
  List.foldl_append

theorem insertEach_pairwise (entries : List (String × β)) :
    (insertEach entries []).Pairwise fun a b => a.1 < b.1 := by
  have hsorted := sortedNames_pairwise (entries.map (·.1))
  rw [← map_fst_insertEach, List.pairwise_map] at hsorted
  exact hsorted

theorem firstOfEach_insertEach (entries : List (String × β)) :
    FirstOfEach Prod.fst (fun a b => a.1 < b.1) entries (insertEach entries []) where
  mem_iff entry := by
    induction entries using List.reverseRecOn with
    | nil => exact iff_of_false List.not_mem_nil fun h => nomatch h
    | append_singleton entries last ih =>
        -- a key is new among the entries if it is new among those that are kept
        have hnew : (∀ other ∈ insertEach entries [], other.1 ≠ last.1)
            ↔ ∀ other ∈ entries, other.1 ≠ last.1 := by
          have hmem : last.1 ∈ (insertEach entries []).map (·.1) ↔ last.1 ∈ entries.map (·.1) := by
            rw [map_fst_insertEach, mem_sortedNames]
          simpa only [List.mem_map, not_exists, not_and] using not_congr hmem
        rw [insertEach_append_singleton, mem_insertFirst (insertEach_pairwise entries), ih,
          isFirst_append_singleton, hnew]
  ordered := insertEach_pairwise entries

end

end Strata
