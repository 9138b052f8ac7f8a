import Strata.Proofs.LikeMatching

/-!
# When a text is found where it occurs

Input and operand of a comparison are lowercased apart. A text that occurs in the input exactly as
it is written is found if it has there the lowercase that it has alone. Lowercasing takes one thing
from the neighbours of a character, and only for a capital sigma: whether a cased character comes
before it and none after it, with some characters passed over. So the lowercase of a text between
two others has the length of its lowercase alone, and it differs from it exactly if some capital
sigma takes another form there (`lowerAmid_eq_iff`). That happens at the edges: a sigma that ends
the word alone has more of the word behind it there, or one that stands alone ends a word there.

What begins or ends the input is compared in one place, so there it is found exactly if no sigma of
it changes. What lies in the middle may still be found at another place.
-/

namespace Strata.Text

/-! ## Capital sigmas between texts -/

/-- Whether a cased character precedes, once a text has been read after one where `before` told
it. -/
def casedPast (before : Bool) (text : List Char) : Bool := text.foldl casedAfter before

theorem casedPast_nil (before : Bool) : casedPast before [] = before := rfl

theorem casedPast_cons (before : Bool) (c : Char) (text : List Char) :
    casedPast before (c :: text) = casedPast (casedAfter before c) text := rfl

theorem casedPast_append (before : Bool) (text rest : List Char) :
    casedPast before (text ++ rest) = casedPast (casedPast before text) rest :=
  List.foldl_append

theorem goesOn_append {text rest : List Char} (h : goesOn rest = false) :
    goesOn (text ++ rest) = goesOn text := by
  induction text with
  | nil => exact h
  | cons c text ih => rw [List.cons_append, goesOn, goesOn, ih]

/-- Whether a capital sigma between two texts takes its final form. -/
def endsWord (before after : List Char) : Bool := casedPast false before && !goesOn after

/-- Whether the capital sigmas of a text take between two others the forms that they have alone. -/
def KeepsSigmas (before text after : List Char) : Prop :=
  ∀ head tail, text = head ++ 'Σ' :: tail →
    endsWord (before ++ head) (tail ++ after) = endsWord head tail

theorem keepsSigmas_of_notMem {before text after : List Char} (h : 'Σ' ∉ text) :
    KeepsSigmas before text after := by
  intro head tail htext
  rw [htext] at h
  exact absurd (List.mem_append_right head List.mem_cons_self) h

theorem keepsSigmas_of_apart {before text after : List Char}
    (hbefore : casedPast false before = false) (hafter : goesOn after = false) :
    KeepsSigmas before text after := by
  intro head tail _
  rw [endsWord, endsWord, casedPast_append, hbefore, goesOn_append hafter]

/-! ## Texts between texts -/

/-- The lowercase of a text that `after` follows, where `before` tells whether a cased character
precedes it. -/
def lowerAmid (before : Bool) (after : List Char) : List Char → List Char
  | [] => []
  | c :: rest =>
    (if c = 'Σ' then [if before && !goesOn (rest ++ after) then 'ς' else 'σ'] else lowerChar c)
      ++ lowerAmid (casedAfter before c) after rest

section

variable {before other : Bool} {after text : List Char}

theorem lowerFrom_append (before : Bool) (text after : List Char) :
    lowerFrom before (text ++ after)
      = lowerAmid before after text ++ lowerFrom (casedPast before text) after := by
  induction text generalizing before with
  | nil => rfl
  | cons c text ih =>
      rw [List.cons_append, lowerFrom, lowerAmid, ih, casedPast_cons, List.append_assoc]

theorem lowerFrom_eq_lowerAmid (before : Bool) (text : List Char) :
    lowerFrom before text = lowerAmid before [] text := by
  have h := lowerFrom_append before text []
  rw [lowerFrom, List.append_nil, List.append_nil] at h
  exact h

theorem lowerAmid_cons_sigma (rest : List Char) :
    lowerAmid before after ('Σ' :: rest)
      = (if before && !goesOn (rest ++ after) then 'ς' else 'σ')
        :: lowerAmid (casedAfter before 'Σ') after rest := by
  rw [lowerAmid, if_pos rfl, List.singleton_append]

theorem lowerAmid_cons_of_ne {c : Char} (h : c ≠ 'Σ') (rest : List Char) :
    lowerAmid before after (c :: rest)
      = lowerChar c ++ lowerAmid (casedAfter before c) after rest := by
  rw [lowerAmid, if_neg h]

theorem length_lowerAmid :
    (lowerAmid before after text).length = (lowerAmid other [] text).length := by
  induction text generalizing before other with
  | nil => rfl
  | cons c text ih =>
      by_cases hc : c = 'Σ'
      · rw [hc, lowerAmid_cons_sigma, lowerAmid_cons_sigma, List.length_cons, List.length_cons, ih]
      · rw [lowerAmid_cons_of_ne hc, lowerAmid_cons_of_ne hc, List.length_append,
          List.length_append, ih]

theorem finalSigma_inj {a b : Bool} :
    (if a then 'ς' else 'σ') = (if b then 'ς' else 'σ') ↔ a = b := by
  cases a <;> cases b <;> decide

/-- The places of a character in a list are the head, if it is that character, and those in the
tail. -/
theorem forall_split_cons_iff {place : List Char → List Char → Prop} {c d : Char}
    {rest : List Char} :
    (∀ head tail, c :: rest = head ++ d :: tail → place head tail)
      ↔ (c = d → place [] rest) ∧
        ∀ head tail, rest = head ++ d :: tail → place (c :: head) tail := by
  constructor
  · intro h
    refine ⟨fun hc => h [] rest (by rw [hc]; rfl), fun head tail hrest => ?_⟩
    exact h (c :: head) tail (by rw [hrest]; rfl)
  · rintro ⟨hfirst, hrest⟩ head tail h
    cases head with
    | nil =>
        obtain ⟨hc, rfl⟩ := List.cons.inj h
        exact hfirst hc
    | cons _ head =>
        obtain ⟨rfl, htail⟩ := List.cons.inj h
        exact hrest head tail htail

/-- A text has between two others the lowercase that it has alone exactly if each of its capital
sigmas takes the same form. -/
theorem lowerAmid_eq_iff :
    lowerAmid before after text = lowerAmid other [] text
      ↔ ∀ head tail, text = head ++ 'Σ' :: tail →
        (casedPast before head && !goesOn (tail ++ after))
          = (casedPast other head && !goesOn tail) := by
  induction text generalizing before other with
  | nil => simp [lowerAmid]
  | cons c text ih =>
      rw [forall_split_cons_iff]
      by_cases hc : c = 'Σ'
      · rw [hc, lowerAmid_cons_sigma, lowerAmid_cons_sigma, List.cons.injEq, finalSigma_inj, ih]
        simp only [casedPast_nil, casedPast_cons, List.append_nil, forall_const]
      · rw [lowerAmid_cons_of_ne hc, lowerAmid_cons_of_ne hc, List.append_cancel_left_eq, ih]
        simp only [casedPast_cons, hc, false_implies, true_and]

end

/-! ## The ends of a text -/

theorem lowerFrom_append_append (a x b : List Char) :
    lowerFrom false (a ++ x ++ b)
      = lowerAmid false (x ++ b) a ++ lowerAmid (casedPast false a) b x
        ++ lowerFrom (casedPast (casedPast false a) x) b := by
  rw [List.append_assoc, lowerFrom_append, lowerFrom_append, List.append_assoc]

theorem lowerAmid_eq_iff_keepsSigmas {a x b : List Char} :
    lowerAmid (casedPast false a) b x = lowerFrom false x ↔ KeepsSigmas a x b := by
  rw [lowerFrom_eq_lowerAmid, lowerAmid_eq_iff, KeepsSigmas]
  simp only [endsWord, casedPast_append]

theorem prefix_lowerFrom_append_iff {x b : List Char} :
    lowerFrom false x <+: lowerFrom false (x ++ b) ↔ KeepsSigmas [] x b := by
  rw [← lowerAmid_eq_iff_keepsSigmas, lowerFrom_append]
  -- both are of one length, so the one begins the whole only if it is the other
  have hlength : (lowerAmid false b x).length = (lowerFrom false x).length := by
    rw [lowerFrom_eq_lowerAmid]
    exact length_lowerAmid
  constructor
  · rintro ⟨rest, h⟩
    exact List.append_inj_left h.symm hlength
  · intro h
    rw [← h]
    exact List.prefix_append _ _

theorem suffix_lowerFrom_append_iff {a x : List Char} :
    lowerFrom false x <:+ lowerFrom false (a ++ x) ↔ KeepsSigmas a x [] := by
  rw [← lowerAmid_eq_iff_keepsSigmas, ← lowerFrom_eq_lowerAmid, lowerFrom_append]
  have hlength : (lowerFrom (casedPast false a) x).length = (lowerFrom false x).length := by
    rw [lowerFrom_eq_lowerAmid, lowerFrom_eq_lowerAmid]
    exact length_lowerAmid
  constructor
  · rintro ⟨front, h⟩
    exact List.append_inj_right' h.symm hlength
  · intro h
    rw [← h]
    exact List.suffix_append _ _

theorem infix_lowerFrom_append {a x b : List Char} (h : KeepsSigmas a x b) :
    lowerFrom false x <:+: lowerFrom false (a ++ x ++ b) := by
  rw [lowerFrom_append_append, lowerAmid_eq_iff_keepsSigmas.2 h]
  exact List.infix_append _ _ _

end Strata.Text

namespace Strata.Operator

open Text

/-- A text that begins or ends the input is found there exactly if the capital sigmas of it take
the forms that they have alone, and one in the middle is found if they do. That is so for every text
without a capital sigma, and for every text that no cased character adjoins. -/
theorem apply_occurrence (a x b : String) :
    (Operator.beginsWith.apply (x ++ b) x = true ↔ KeepsSigmas [] x.toList b.toList) ∧
    (Operator.endsWith.apply (a ++ x) x = true ↔ KeepsSigmas a.toList x.toList []) ∧
    (KeepsSigmas a.toList x.toList b.toList →
      Operator.contains.apply (a ++ x ++ b) x = true) ∧
    ('Σ' ∉ x.toList ∨ casedPast false a.toList = false ∧ goesOn b.toList = false →
      KeepsSigmas a.toList x.toList b.toList) := by
  simp only [apply_iff, Relates, folded, String.toList_append]
  refine ⟨prefix_lowerFrom_append_iff, suffix_lowerFrom_append_iff, infix_lowerFrom_append, ?_⟩
  rintro (hsigma | ⟨hbefore, hafter⟩)
  · exact keepsSigmas_of_notMem hsigma
  · exact keepsSigmas_of_apart hbefore hafter

/-- A word that ends in a sigma is found among others. -/
theorem apply_occurrence_among_words :
    (casedPast false "ΠΡΟΣ ".toList = false ∧ goesOn ", 5".toList = false) ∧
    KeepsSigmas "ΠΡΟΣ ".toList "ΟΔΟΣ".toList ", 5".toList ∧
    Operator.contains.apply ("ΠΡΟΣ " ++ "ΟΔΟΣ" ++ ", 5") "ΟΔΟΣ" = true := by
  have hapart : casedPast false "ΠΡΟΣ ".toList = false ∧ goesOn ", 5".toList = false := by
    decide +kernel
  obtain ⟨-, -, hfound, hkeeps⟩ := apply_occurrence "ΠΡΟΣ " "ΟΔΟΣ" ", 5"
  exact ⟨hapart, hkeeps (.inr hapart), hfound (hkeeps (.inr hapart))⟩

/-- The sigma at the end of an operand is final, and not so where the word goes on in the input; a
sigma that stands alone is not final, and is so at the end of a word. -/
theorem apply_misses_occurrence :
    Operator.beginsWith.apply ("ΑΣ" ++ "Α") "ΑΣ" = false ∧
    Operator.endsWith.apply ("Α" ++ "Σ") "Σ" = false ∧
    Operator.contains.apply ("Α" ++ "ΑΣ" ++ "Α") "ΑΣ" = false := by
  decide +kernel

end Strata.Operator
