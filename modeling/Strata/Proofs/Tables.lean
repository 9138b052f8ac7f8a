import Strata.Order.Table

/-!
# Tables and lists without repeats

A table finds what was last assigned to a key. A sorted list without repeats keeps the entry that
came first under a key, so every key that was inserted is there, though perhaps with the value of
another entry, and nothing is there that was not inserted. Neither needs the list to be sorted.

That the list is sorted makes it one list for each set of keys: in which order the keys came, and
how often, does not show in it (`sortedNames_congr`).
-/

namespace Strata

/-! ## Tables -/

namespace Table

variable {κ β : Type} [BEq κ] [LawfulBEq κ]

theorem find?_filter_ne {table : Table κ β} {key other : κ} (h : other ≠ key) :
    find? (table.filter fun entry => !(entry.1 == key)) other = table.find? other := by
  induction table with
  | nil => rfl
  | cons entry table ih =>
      rw [find?] at ih ⊢
      rw [find?, List.lookup_cons]
      by_cases hkey : entry.1 = key
      · have hother : (other == entry.1) = false := by
          rw [hkey]
          exact beq_eq_false_iff_ne.2 h
        rw [List.filter_cons_of_neg (by simp [hkey]), hother]
        exact ih
      · rw [List.filter_cons_of_pos (by simp [hkey]), List.lookup_cons, ih]
        rfl

theorem find?_assign_self (table : Table κ β) (key : κ) (value : β) :
    (table.assign key value).find? key = some value := by
  rw [find?, assign, List.lookup_cons_self]

theorem find?_assign_of_ne (table : Table κ β) {key other : κ} (value : β) (h : other ≠ key) :
    (table.assign key value).find? other = table.find? other := by
  rw [find?, assign, List.lookup_cons, beq_eq_false_iff_ne.2 h]
  exact find?_filter_ne h

theorem find?_assign [DecidableEq κ] (table : Table κ β) (key : κ) (value : β) (other : κ) :
    (table.assign key value).find? other
      = if other = key then some value else table.find? other := by
  split
  · next h => rw [h, find?_assign_self]
  · next h => exact find?_assign_of_ne table value h

end Table

/-! ## Lists without repeats -/

section

variable {β : Type} {key : String} {value : β} {list : List (String × β)} {entry : String × β}

theorem mem_of_mem_insertFirst (h : entry ∈ insertFirst key value list) :
    entry = (key, value) ∨ entry ∈ list := by
  induction list with
  | nil => exact .inl (List.mem_singleton.1 h)
  | cons first rest ih =>
      rw [insertFirst] at h
      split at h
      · exact List.mem_cons.1 h
      · split at h
        · exact .inr h
        · rcases List.mem_cons.1 h with rfl | h
          · exact .inr List.mem_cons_self
          · exact (ih h).imp id (List.mem_cons_of_mem first)

theorem mem_insertFirst_of_mem (key : String) (value : β) (h : entry ∈ list) :
    entry ∈ insertFirst key value list := by
  induction list with
  | nil => exact nomatch h
  | cons first rest ih =>
      rw [insertFirst]
      split
      · exact List.mem_cons_of_mem _ h
      · split
        · exact h
        · rcases List.mem_cons.1 h with rfl | h
          · exact List.mem_cons_self
          · exact List.mem_cons_of_mem first (ih h)

theorem exists_mem_insertFirst (key : String) (value : β) (list : List (String × β)) :
    ∃ found, (key, found) ∈ insertFirst key value list := by
  induction list with
  | nil => exact ⟨value, List.mem_singleton_self _⟩
  | cons first rest ih =>
      rw [insertFirst]
      split
      · exact ⟨value, List.mem_cons_self⟩
      · split
        · next h =>
            rw [h]
            exact ⟨first.2, List.mem_cons_self⟩
        · obtain ⟨found, hfound⟩ := ih
          exact ⟨found, List.mem_cons_of_mem first hfound⟩

theorem insertFirst_map {γ : Type} {f : β → γ} (key : String) (value : β)
    (list : List (String × β)) :
    insertFirst key (f value) (list.map fun entry => (entry.1, f entry.2))
      = (insertFirst key value list).map fun entry => (entry.1, f entry.2) := by
  induction list with
  | nil => rfl
  | cons entry list ih =>
      rw [List.map_cons, insertFirst, insertFirst, ih]
      split
      · rfl
      · split <;> rfl

/-- Entries put into a sorted list one after the other. -/
def insertEach (entries list : List (String × β)) : List (String × β) :=
  entries.foldl (fun list entry => insertFirst entry.1 entry.2 list) list

theorem insertEach_cons (entry : String × β) (entries list : List (String × β)) :
    insertEach (entry :: entries) list
      = insertEach entries (insertFirst entry.1 entry.2 list) := rfl

theorem insertEach_map {γ : Type} {f : β → γ} (entries list : List (String × β)) :
    insertEach (entries.map fun entry => (entry.1, f entry.2))
        (list.map fun entry => (entry.1, f entry.2))
      = (insertEach entries list).map fun entry => (entry.1, f entry.2) := by
  induction entries generalizing list with
  | nil => rfl
  | cons entry entries ih =>
      rw [List.map_cons, insertEach_cons, insertEach_cons, ← ih]
      exact congrArg (insertEach _) (insertFirst_map entry.1 entry.2 list)

theorem mem_of_mem_insertEach {entries : List (String × β)} (h : entry ∈ insertEach entries list) :
    entry ∈ entries ∨ entry ∈ list := by
  induction entries generalizing list with
  | nil => exact .inr h
  | cons first entries ih =>
      rcases ih h with h | h
      · exact .inl (List.mem_cons_of_mem first h)
      · rcases mem_of_mem_insertFirst h with rfl | h
        · exact .inl List.mem_cons_self
        · exact .inr h

theorem exists_mem_insertEach {entries : List (String × β)}
    (h : (key, value) ∈ entries ∨ (key, value) ∈ list) :
    ∃ found, (key, found) ∈ insertEach entries list := by
  induction entries generalizing list value with
  | nil => exact ⟨value, h.resolve_left List.not_mem_nil⟩
  | cons first entries ih =>
      rcases h with h | h
      · rcases List.mem_cons.1 h with rfl | h
        · obtain ⟨found, hfound⟩ := exists_mem_insertFirst key value list
          exact ih (.inr hfound)
        · exact ih (.inl h)
      · exact ih (.inr (mem_insertFirst_of_mem first.1 first.2 h))

end

/-! ## Sorted names -/

/-- The names in a list, sorted and without repeats. -/
def sortedNames (names : List String) : List String :=
  names.foldl (fun sorted name => insertName name sorted) []

theorem mem_insertName {name other : String} {list : List String} :
    other ∈ insertName name list ↔ other = name ∨ other ∈ list := by
  induction list with
  | nil => rw [insertName, List.mem_singleton, or_iff_left List.not_mem_nil]
  | cons first rest ih =>
      rw [insertName]
      split
      · exact List.mem_cons
      · split
        · next h =>
            rw [h]
            exact ⟨.inr, fun hmem => hmem.elim (fun heq => heq ▸ List.mem_cons_self) id⟩
        · rw [List.mem_cons, List.mem_cons, ih]
          exact or_left_comm

theorem insertName_pairwise {list : List String} (h : list.Pairwise (· < ·)) (name : String) :
    (insertName name list).Pairwise (· < ·) := by
  induction list with
  | nil => exact List.pairwise_singleton _ name
  | cons first rest ih =>
      obtain ⟨hfirst, hrest⟩ := List.pairwise_cons.1 h
      rw [insertName]
      split
      · next hlt =>
          refine List.pairwise_cons.2 ⟨fun other hmem => ?_, h⟩
          rcases List.mem_cons.1 hmem with rfl | hmem
          · exact hlt
          · exact String.lt_trans hlt (hfirst other hmem)
      · next hlt =>
          split
          · exact h
          · next hne =>
              refine List.pairwise_cons.2 ⟨fun other hmem => ?_, ih hrest⟩
              rcases mem_insertName.1 hmem with rfl | hmem
              · exact Std.lt_of_le_of_ne (String.not_lt.1 hlt) (Ne.symm hne)
              · exact hfirst other hmem

theorem foldl_insertName_pairwise {sorted : List String} (h : sorted.Pairwise (· < ·))
    (names : List String) :
    (names.foldl (fun sorted name => insertName name sorted) sorted).Pairwise (· < ·) := by
  induction names generalizing sorted with
  | nil => exact h
  | cons name names ih => exact ih (insertName_pairwise h name)

theorem mem_foldl_insertName {name : String} {names sorted : List String} :
    name ∈ names.foldl (fun sorted name => insertName name sorted) sorted
      ↔ name ∈ names ∨ name ∈ sorted := by
  induction names generalizing sorted with
  | nil => exact (or_iff_right List.not_mem_nil).symm
  | cons first names ih =>
      rw [List.foldl_cons, ih, mem_insertName, List.mem_cons, or_left_comm, or_assoc]

theorem sortedNames_pairwise (names : List String) : (sortedNames names).Pairwise (· < ·) :=
  foldl_insertName_pairwise List.Pairwise.nil names

theorem mem_sortedNames {name : String} {names : List String} :
    name ∈ sortedNames names ↔ name ∈ names :=
  mem_foldl_insertName.trans (or_iff_left List.not_mem_nil)

/-- Lists that are sorted and without repeats are the same if they have the same names in them. -/
theorem eq_of_pairwise_lt {a b : List String} (ha : a.Pairwise (· < ·)) (hb : b.Pairwise (· < ·))
    (h : ∀ name, name ∈ a ↔ name ∈ b) : a = b := by
  have hnodup : ∀ {names : List String}, names.Pairwise (· < ·) → names.Nodup := by
    intro names hnames
    refine hnames.imp fun hlt heq => ?_
    rw [heq] at hlt
    exact String.lt_irrefl _ hlt
  have hperm : a.Perm b := (List.perm_ext_iff_of_nodup (hnodup ha) (hnodup hb)).2 h
  refine hperm.eq_of_pairwise (fun x y _ _ hxy hyx => ?_) ha hb
  exact absurd hyx (String.lt_asymm hxy)

/-- Lists with the same names in them are the same list once they are sorted. -/
theorem sortedNames_congr {a b : List String} (h : ∀ name, name ∈ a ↔ name ∈ b) :
    sortedNames a = sortedNames b :=
  eq_of_pairwise_lt (sortedNames_pairwise a) (sortedNames_pairwise b) fun name => by
    rw [mem_sortedNames, mem_sortedNames, h]

theorem sortedNames_eq_self {names : List String} (h : names.Pairwise (· < ·)) :
    sortedNames names = names :=
  eq_of_pairwise_lt (sortedNames_pairwise names) h fun _ => mem_sortedNames

/-- The keys of a sorted list of entries are a sorted list of names. -/
theorem map_fst_insertFirst {β : Type} (key : String) (value : β) (list : List (String × β)) :
    (insertFirst key value list).map (·.1) = insertName key (list.map (·.1)) := by
  induction list with
  | nil => rfl
  | cons entry list ih =>
      rw [List.map_cons, insertFirst, insertName]
      split
      · rfl
      · split
        · rfl
        · rw [List.map_cons, ih]

theorem map_fst_insertEach {β : Type} (entries : List (String × β)) :
    (insertEach entries []).map (·.1) = sortedNames (entries.map (·.1)) := by
  suffices h : ∀ list : List (String × β), (insertEach entries list).map (·.1)
      = (entries.map (·.1)).foldl (fun sorted name => insertName name sorted) (list.map (·.1)) from
    h []
  induction entries with
  | nil => exact fun _ => rfl
  | cons entry entries ih =>
      intro list
      rw [insertEach_cons, ih, map_fst_insertFirst]
      rfl

end Strata
