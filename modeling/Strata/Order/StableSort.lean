/-!
# Stable sorting

Sorting by insertion, an element at a time, behind those that do not have to come after it. A list
that grows by `stableInsert` is at every moment the stable sort of what was inserted so far.

`stableInsert` looks at one element after another. In a list that is in order the place can be found
by halving (`partitionPoint`), and `insertByHalving` puts an element there.
-/

namespace Strata

/-- Puts an element into a sorted list, behind those it is not before. -/
def stableInsert (le : α → α → Bool) (a : α) : List α → List α
  | [] => [a]
  | b :: rest => if le b a then b :: stableInsert le a rest else a :: b :: rest

/-- Sorts a list; elements that are equal in the order keep their places relative to each other. -/
def stableSort (le : α → α → Bool) (list : List α) : List α :=
  list.foldl (fun sorted a => stableInsert le a sorted) []

/-- The number of elements that pass a test, if those that do all stand in front: what the one in the
middle says decides for one of the halves. -/
def partitionPoint (test : α → Bool) (list : List α) : Nat :=
  match h : list.drop (list.length / 2) with
  | [] => 0
  | middle :: upper =>
    if test middle then list.length / 2 + 1 + partitionPoint test upper
    else partitionPoint test (list.take (list.length / 2))
termination_by list.length
decreasing_by
  all_goals
    have hlength := congrArg List.length h
    rw [List.length_drop, List.length_cons] at hlength
  · omega
  · rw [List.length_take]
    omega

/-- Puts an element into a sorted list, behind those it is not before. -/
def insertByHalving (le : α → α → Bool) (a : α) (list : List α) : List α :=
  list.insertIdx (partitionPoint (fun b => le b a) list) a

end Strata
