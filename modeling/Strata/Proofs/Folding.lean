import Strata.Predicate.Like
import Strata.Text.Lowercase

/-!
# Lowercasing respects the syntax of patterns

A comparison with `LIKE` lowercases a whole pattern, one without it the bare operand. The two come
to the same only if lowercasing neither makes, loses nor moves a character that means something in
a pattern, and if such a character says nothing about the case of its neighbours. Lowercasing looks
at neighbours in one place, the capital sigma, and there it asks for cased characters past those
that are ignored. `%`, `_` and the backslash are neither cased nor ignored, so each of them is a
*boundary*: what is before it and what is after it are lowercased as if they stood alone.

What follows for escaping is `lowerFrom_literal`: to lowercase an escaped text is to escape the
lowercased one.
-/

namespace Strata.Text

/-- A character that lowercasing keeps, and past which it does not look. -/
structure Boundary (c : Char) : Prop where
  notIgnorable : isCaseIgnorable c = false
  notCased : isCased c = false
  notSigma : c ≠ 'Σ'
  lower : lowerChar c = [c]

theorem Boundary.casedAfter {c : Char} (h : Boundary c) (before : Bool) :
    casedAfter before c = false := by
  rw [Text.casedAfter, h.notIgnorable, h.notCased]
  rfl

theorem Boundary.goesOn {c : Char} (h : Boundary c) (rest : List Char) :
    goesOn (c :: rest) = false := by
  rw [Text.goesOn, h.notIgnorable, h.notCased]
  rfl

theorem Boundary.lowerFrom {c : Char} (h : Boundary c) (before : Bool) (rest : List Char) :
    lowerFrom before (c :: rest) = c :: lowerFrom false rest := by
  rw [Text.lowerFrom, if_neg h.notSigma, h.lower, h.casedAfter]
  rfl

theorem goesOn_append_boundary {c : Char} (h : Boundary c) (text rest : List Char) :
    goesOn (text ++ c :: rest) = goesOn text := by
  induction text with
  | nil => rw [List.nil_append, h.goesOn, goesOn]
  | cons t text ih => rw [List.cons_append, goesOn, goesOn, ih]

theorem lowerFrom_append_boundary {c : Char} (h : Boundary c) (before : Bool)
    (text rest : List Char) :
    lowerFrom before (text ++ c :: rest) = lowerFrom before text ++ c :: lowerFrom false rest := by
  induction text generalizing before with
  | nil => exact h.lowerFrom before rest
  | cons t text ih =>
      rw [List.cons_append, lowerFrom, lowerFrom, ih, goesOn_append_boundary h, List.append_assoc]

theorem toNat_ofNat {n : Nat} (h : n.isValidChar) : (Char.ofNat n).toNat = n := by
  rw [Char.ofNat, dif_pos h]
  rfl

/-! ## Equality of lowercase

The tables compare lowercase texts as texts, the comparisons as characters. -/

theorem lowercase_eq_iff {a b : String} : lowercase a = lowercase b ↔ folded a = folded b :=
  String.ofList_inj

theorem same_iff {a b : String} : same a b = true ↔ folded a = folded b := by
  rw [same, beq_iff_eq]

theorem same_iff_lowercase {a b : String} : same a b = true ↔ lowercase a = lowercase b := by
  rw [same_iff, lowercase_eq_iff]

theorem lowercase_beq (a b : String) : (lowercase a == lowercase b) = same a b := by
  rw [Bool.eq_iff_iff, beq_iff_eq, same_iff_lowercase]

theorem same_refl (a : String) : same a a = true := same_iff.2 rfl

theorem same_comm (a b : String) : same a b = same b a := by
  rw [Bool.eq_iff_iff, same_iff, same_iff, eq_comm]

theorem same_trans {a b c : String} (hab : same a b = true) (hbc : same b c = true) :
    same a c = true :=
  same_iff.2 ((same_iff.1 hab).trans (same_iff.1 hbc))

theorem same_congr {a b : String} (h : same a b = true) (c : String) : same a c = same b c := by
  rw [same, same, same_iff.1 h]

/-- A name is in a list in lowercase if it is one of the names that the list was made from. -/
theorem contains_map_lowercase (names : List String) (name : String) :
    (names.map lowercase).contains (lowercase name) = names.any (same name) := by
  induction names with
  | nil => rfl
  | cons other names ih =>
      rw [List.map_cons, List.contains_cons, List.any_cons, ih, lowercase_beq]

end Strata.Text

namespace Strata.Like

open Text

/-! ## Special characters

Nothing else lowercases to one of them: below U+0080 only letters change, into letters, and every
run of the table leads beyond `_`, the last of the three. -/

theorem isSpecial_iff {c : Char} : isSpecial c = true ↔ c = '%' ∨ c = '_' ∨ c = escape := by
  simp [isSpecial, or_assoc]

theorem boundary_of_isSpecial {c : Char} (h : isSpecial c = true) : Boundary c := by
  rcases isSpecial_iff.1 h with rfl | rfl | rfl
  · exact ⟨by decide +kernel, by decide +kernel, by decide, by decide⟩
  · exact ⟨by decide +kernel, by decide +kernel, by decide, by decide⟩
  · exact ⟨by decide +kernel, by decide +kernel, by decide, by decide⟩

theorem isSpecial_of_underscore_lt {c : Char} (h : '_'.toNat < c.toNat) : isSpecial c = false := by
  rw [← Bool.not_eq_true, isSpecial_iff]
  rintro (rfl | rfl | rfl) <;> exact absurd h (by decide)

theorem isSpecial_toLower {c : Char} (h : isSpecial c = false) : isSpecial c.toLower = false := by
  by_cases hup : c.val ≥ 'A'.val ∧ c.val ≤ 'Z'.val
  · apply isSpecial_of_underscore_lt
    have hval : c.toLower.val = c.val + 32 := congrArg Char.val (dif_pos hup)
    have hlow : 65 ≤ c.val.toNat := UInt32.le_iff_toNat_le.1 hup.1
    have hhigh : c.val.toNat ≤ 90 := UInt32.le_iff_toNat_le.1 hup.2
    show 95 < c.toLower.val.toNat
    rw [hval, UInt32.toNat_add]
    show 95 < (c.val.toNat + 32) % 2 ^ 32
    omega
  · have hsame : c.toLower = c := dif_neg hup
    rw [hsame]
    exact h

/-- No run of the table reaches down to the special characters. -/
theorem caseRuns_beyond : ∀ run ∈ caseRuns, (95 : Int) < run.first + run.shift := by
  decide +kernel

theorem isSpecial_ofNat {n : Nat} (h : 95 < n) : isSpecial (Char.ofNat n) = false := by
  by_cases hv : n.isValidChar
  · apply isSpecial_of_underscore_lt
    rw [toNat_ofNat hv]
    exact h
  · rw [Char.ofNat, dif_neg hv]
    decide

theorem isSpecial_of_mem_lowerChar {c d : Char} (h : isSpecial c = false)
    (hd : d ∈ lowerChar c) : isSpecial d = false := by
  rw [lowerChar] at hd
  split at hd
  · rw [List.mem_singleton.1 hd]
    exact isSpecial_toLower h
  · split at hd
    · rcases List.mem_cons.1 hd with rfl | hd
      · decide
      · rw [List.mem_singleton.1 hd]
        decide
    · split at hd
      · next run hrun =>
          rw [List.mem_singleton.1 hd]
          apply isSpecial_ofNat
          have hbeyond := caseRuns_beyond run (List.mem_of_find?_eq_some hrun)
          have hcov := List.find?_some hrun
          simp only [CaseRun.covers, Bool.and_eq_true, decide_eq_true_eq] at hcov
          have hfirst : run.first ≤ c.toNat := hcov.1.1
          omega
      · rw [List.mem_singleton.1 hd]
        exact h

/-! ## Escaping -/

theorem literal_append (a b : List Char) : literal (a ++ b) = literal a ++ literal b := by
  induction a with
  | nil => rfl
  | cons c a ih =>
      rw [List.cons_append, literal, literal, ih]
      split <;> rfl

theorem literal_eq_self {text : List Char} (h : ∀ c ∈ text, isSpecial c = false) :
    literal text = text := by
  induction text with
  | nil => rfl
  | cons c text ih =>
      rw [literal, h c List.mem_cons_self, ih fun d hd => h d (List.mem_cons_of_mem c hd)]
      rfl

theorem literal_cons_of_isSpecial {c : Char} (h : isSpecial c = true) (rest : List Char) :
    literal (c :: rest) = escape :: c :: literal rest := by
  rw [literal, if_pos h]

theorem literal_cons_of_not_isSpecial {c : Char} (h : isSpecial c = false) (rest : List Char) :
    literal (c :: rest) = c :: literal rest := by
  rw [literal, h]
  rfl

theorem isSpecial_escape : isSpecial escape = true := by decide

theorem goesOn_literal (text : List Char) : goesOn (literal text) = goesOn text := by
  induction text with
  | nil => rfl
  | cons c text ih =>
      cases hc : isSpecial c with
      | true =>
          rw [literal_cons_of_isSpecial hc, (boundary_of_isSpecial hc).goesOn,
            (boundary_of_isSpecial isSpecial_escape).goesOn]
      | false => rw [literal_cons_of_not_isSpecial hc, goesOn, goesOn, ih]

/-- To lowercase an escaped text is to escape the lowercased one. -/
theorem lowerFrom_literal (before : Bool) (text : List Char) :
    lowerFrom before (literal text) = literal (lowerFrom before text) := by
  induction text generalizing before with
  | nil => rfl
  | cons c text ih =>
      cases hc : isSpecial c with
      | true =>
          have hb := boundary_of_isSpecial hc
          rw [literal_cons_of_isSpecial hc, (boundary_of_isSpecial isSpecial_escape).lowerFrom,
            hb.lowerFrom, hb.lowerFrom, literal_cons_of_isSpecial hc, ih]
      | false =>
          rw [literal_cons_of_not_isSpecial hc, lowerFrom, lowerFrom, goesOn_literal, ih,
            literal_append]
          congr 1
          split
          · split <;> rfl
          · exact (literal_eq_self fun d hd => isSpecial_of_mem_lowerChar hc hd).symm

theorem boundary_percent : Boundary '%' := boundary_of_isSpecial (by decide)

theorem folded_escapeText (text : String) : folded (escapeText text) = literal (folded text) := by
  rw [folded, folded, escapeText, String.toList_ofList, lowerFrom_literal]

theorem folded_percent_append (text : String) :
    folded ("%" ++ text) = '%' :: folded text := by
  rw [folded, folded, String.toList_append]
  exact boundary_percent.lowerFrom false text.toList

theorem folded_append_percent (text : String) :
    folded (text ++ "%") = folded text ++ ['%'] := by
  rw [folded, folded, String.toList_append]
  exact lowerFrom_append_boundary boundary_percent false text.toList []

end Strata.Like
