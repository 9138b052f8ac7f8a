import Strata.Proofs.Levels

/-!
# The form that the connectives leave

`Formula.all`, `any` and `negate` fold, flatten and unwrap what they are given, one level deep. That
is enough because what they are given has been through them before: of formulas in normal form they
make formulas in normal form. In one, a connective has two parts or more, no part is a constant or
the same connective again, and no negation stands before a constant or another negation.

Formulas in normal form obey laws as trees that others obey only in meaning: a double negation, a
connective of a single part, and one within the same connective leave no trace (`negate_negate`,
`join_singleton`, `join_append_join`).

The two connectives are treated as one with a parameter (`Connective`). What matters of a normal
formula in a connective is which of three it is: a constant, the same connective, or something that
stays as it is (`IsNormal.trichotomy`).
-/

namespace Strata.Formula

variable {α : Type}

/-! ## Connectives -/

/-- The two ways in which formulas are joined. -/
inductive Connective where
  | all
  | any

namespace Connective

/-- The constant that decides a connective by itself. -/
def absorbing : Connective → Bool
  | all => false
  | any => true

/-- A connective of parts as they are. -/
def wrap : Connective → List (Formula α) → Formula α
  | all => .and
  | any => .or

/-- What a part adds to a connective. -/
def spread : Connective → Formula α → List (Formula α)
  | all => conjuncts
  | any => disjuncts

/-- The connective of formulas, folded and flattened. -/
def join : Connective → List (Formula α) → Formula α
  | all => Formula.all
  | any => Formula.any

/-- The connective of what its parts have added. -/
def gather (connective : Connective) : List (Formula α) → Formula α
  | [] => .const !connective.absorbing
  | [part] => part
  | kept => connective.wrap kept

/-- Whether a connective keeps a part as it is. -/
def keeps : Connective → Formula α → Bool
  | _, .const _ => false
  | all, .and _ => false
  | any, .or _ => false
  | _, _ => true

variable {connective : Connective} {part : Formula α} {parts : List (Formula α)}

theorem join_eq (connective : Connective) (parts : List (Formula α)) :
    connective.join parts
      = if parts.any (isConst connective.absorbing) then .const connective.absorbing
        else connective.gather (parts.flatMap connective.spread) := by
  cases connective with
  | all =>
      show Formula.all parts = _
      rw [Formula.all]
      rfl
  | any =>
      show Formula.any parts = _
      rw [Formula.any]
      rfl

theorem isConst_of_keeps {b : Bool} (h : connective.keeps part = true) : isConst b part = false := by
  cases part with
  | const _ => cases h
  | and _ | or _ | not _ | atom _ => rfl

theorem spread_of_keeps (h : connective.keeps part = true) : connective.spread part = [part] := by
  cases connective <;> cases part <;> first | rfl | cases h

theorem spread_const {b : Bool} (h : isConst connective.absorbing (.const b : Formula α) = false) :
    connective.spread (.const b : Formula α) = [] := by
  cases connective <;> cases b <;> first | rfl | cases h

theorem spread_wrap (parts : List (Formula α)) :
    connective.spread (connective.wrap parts) = parts := by
  cases connective <;> rfl

theorem isConst_wrap {b : Bool} : isConst b (connective.wrap parts) = false := by
  cases connective <;> rfl

theorem gather_of_two_le (h : 2 ≤ parts.length) :
    connective.gather parts = connective.wrap parts := by
  match parts, h with
  | _ :: _ :: _, _ => rfl

/-! ### What is gathered can be taken apart again -/

theorem spread_gather (h : ∀ part ∈ parts, connective.keeps part = true) :
    connective.spread (connective.gather parts) = parts := by
  match parts with
  | [] => cases connective <;> rfl
  | [part] => exact spread_of_keeps (h part (List.mem_singleton_self part))
  | _ :: _ :: _ => exact spread_wrap _

theorem isConst_gather (h : ∀ part ∈ parts, connective.keeps part = true) :
    isConst connective.absorbing (connective.gather parts) = false := by
  match parts with
  | [] => cases connective <;> rfl
  | [part] => exact isConst_of_keeps (h part (List.mem_singleton_self part))
  | _ :: _ :: _ => exact isConst_wrap

end Connective

/-! ## Normal form -/

/-- Whether a formula is not a constant. -/
def isOpen : Formula α → Bool
  | .const _ => false
  | _ => true

/-- Whether a formula can be negated only by writing so. -/
def isNegatable : Formula α → Bool
  | .const _ => false
  | .not _ => false
  | _ => true

/-- Normal form: nothing is left to fold, to flatten or to unwrap, and the tests are as wanted. -/
inductive IsNormal (tests : α → Prop) : Formula α → Prop
  | const (value : Bool) : IsNormal tests (.const value)
  | and {parts : List (Formula α)} (two_le : 2 ≤ parts.length)
      (kept : ∀ part ∈ parts, Connective.all.keeps part = true)
      (normal : ∀ part ∈ parts, IsNormal tests part) : IsNormal tests (.and parts)
  | or {parts : List (Formula α)} (two_le : 2 ≤ parts.length)
      (kept : ∀ part ∈ parts, Connective.any.keeps part = true)
      (normal : ∀ part ∈ parts, IsNormal tests part) : IsNormal tests (.or parts)
  | not {inner : Formula α} (negatable : inner.isNegatable = true)
      (normal : IsNormal tests inner) : IsNormal tests (.not inner)
  | atom {test : α} (normal : tests test) : IsNormal tests (.atom test)

section

variable {tests : α → Prop} {formula : Formula α} {parts : List (Formula α)}
  {connective : Connective}

theorem IsNormal.wrap (two_le : 2 ≤ parts.length)
    (kept : ∀ part ∈ parts, connective.keeps part = true)
    (normal : ∀ part ∈ parts, part.IsNormal tests) : (connective.wrap parts).IsNormal tests := by
  cases connective with
  | all => exact .and two_le kept normal
  | any => exact .or two_le kept normal

theorem IsNormal.and_parts (h : (Formula.and parts).IsNormal tests) :
    2 ≤ parts.length ∧ ∀ part ∈ parts, part.IsNormal tests := by
  cases h with
  | and two_le _ normal => exact ⟨two_le, normal⟩

theorem IsNormal.or_parts (h : (Formula.or parts).IsNormal tests) :
    2 ≤ parts.length ∧ ∀ part ∈ parts, part.IsNormal tests := by
  cases h with
  | or two_le _ normal => exact ⟨two_le, normal⟩

theorem IsNormal.not_inner (h : (Formula.not formula).IsNormal tests) :
    formula.IsNormal tests := by
  cases h with
  | not _ normal => exact normal

theorem IsNormal.atom_test {test : α} (h : (Formula.atom test).IsNormal tests) : tests test := by
  cases h with
  | atom normal => exact normal

/-- What follows of each test may be asked of the tests instead. -/
theorem IsNormal.mp {wanted : α → Prop} (h : formula.IsNormal tests)
    (himp : formula.EachTest fun test => tests test → wanted test) : formula.IsNormal wanted := by
  induction h with
  | const value => exact .const value
  | and two_le kept _ ih =>
      exact .and two_le kept fun part hmem => ih part hmem (forall_mem_testsEach.1 himp part hmem)
  | or two_le kept _ ih =>
      exact .or two_le kept fun part hmem => ih part hmem (forall_mem_testsEach.1 himp part hmem)
  | not negatable _ ih => exact .not negatable (ih himp)
  | atom normal => exact .atom (himp _ (List.mem_singleton_self _) normal)

/-- To a connective a normal formula is a constant, the same connective or a part to be kept. -/
theorem IsNormal.trichotomy (h : formula.IsNormal tests) (connective : Connective) :
    (∃ b, formula = .const b) ∨
      (∃ parts : List (Formula α), formula = connective.wrap parts ∧ 2 ≤ parts.length ∧
        (∀ part ∈ parts, connective.keeps part = true) ∧ ∀ part ∈ parts, part.IsNormal tests) ∨
      connective.keeps formula = true := by
  cases h with
  | const b => exact .inl ⟨b, rfl⟩
  | and two_le kept normal =>
      cases connective with
      | all => exact .inr (.inl ⟨_, rfl, two_le, kept, normal⟩)
      | any => exact .inr (.inr rfl)
  | or two_le kept normal =>
      cases connective with
      | all => exact .inr (.inr rfl)
      | any => exact .inr (.inl ⟨_, rfl, two_le, kept, normal⟩)
  | not _ _ | atom _ => cases connective <;> exact .inr (.inr rfl)

/-- What a normal part adds to a connective that it does not decide is kept, and normal again. -/
theorem IsNormal.of_mem_spread (h : formula.IsNormal tests)
    (hundecided : isConst connective.absorbing formula = false) {part : Formula α}
    (hmem : part ∈ connective.spread formula) :
    connective.keeps part = true ∧ part.IsNormal tests := by
  rcases h.trichotomy connective with ⟨b, rfl⟩ | ⟨parts, rfl, -, hkept, hnormal⟩ | hkeeps
  · rw [Connective.spread_const hundecided] at hmem
    cases hmem
  · rw [Connective.spread_wrap] at hmem
    exact ⟨hkept part hmem, hnormal part hmem⟩
  · rw [Connective.spread_of_keeps hkeeps, List.mem_singleton] at hmem
    rw [hmem]
    exact ⟨hkeeps, h⟩

theorem isNormal_gather (hkept : ∀ part ∈ parts, connective.keeps part = true)
    (hnormal : ∀ part ∈ parts, part.IsNormal tests) :
    (connective.gather parts).IsNormal tests := by
  match parts with
  | [] => exact .const _
  | [part] => exact hnormal part (List.mem_singleton_self part)
  | _ :: _ :: _ => exact .wrap (Nat.le_add_left 2 _) hkept hnormal

/-- What normal parts that decide nothing add to a connective. -/
theorem of_mem_flatMap_spread (h : ∀ part ∈ parts, part.IsNormal tests)
    (hundecided : ¬ parts.any (isConst connective.absorbing) = true) {part : Formula α}
    (hmem : part ∈ parts.flatMap connective.spread) :
    connective.keeps part = true ∧ part.IsNormal tests := by
  obtain ⟨whole, hwhole, hpart⟩ := List.mem_flatMap.1 hmem
  have hopen := List.any_eq_false.1 (Bool.eq_false_iff.2 hundecided) whole hwhole
  exact (h whole hwhole).of_mem_spread (Bool.eq_false_iff.2 hopen) hpart

theorem isNormal_join (connective : Connective) (h : ∀ part ∈ parts, part.IsNormal tests) :
    (connective.join parts).IsNormal tests := by
  rw [Connective.join_eq]
  split
  · exact .const _
  · next hundecided =>
      exact isNormal_gather (fun part hmem => (of_mem_flatMap_spread h hundecided hmem).1)
        fun part hmem => (of_mem_flatMap_spread h hundecided hmem).2

theorem isNormal_all (h : ∀ part ∈ parts, part.IsNormal tests) : (all parts).IsNormal tests :=
  isNormal_join .all h

theorem isNormal_any (h : ∀ part ∈ parts, part.IsNormal tests) : (any parts).IsNormal tests :=
  isNormal_join .any h

theorem isNormal_negate (h : formula.IsNormal tests) : formula.negate.IsNormal tests := by
  cases h with
  | const b => exact .const _
  | not _ normal => exact normal
  | and two_le kept normal => exact .not rfl (.and two_le kept normal)
  | or two_le kept normal => exact .not rfl (.or two_le kept normal)
  | atom normal => exact .not rfl (.atom normal)

/-! ### Laws that hold of normal formulas only -/

theorem negate_negate (h : formula.IsNormal tests) : formula.negate.negate = formula := by
  cases h with
  | const b => exact congrArg const (Bool.not_not b)
  | not negatable _ =>
      rename_i inner
      cases inner with
      | const _ | not _ => cases negatable
      | and _ | or _ | atom _ => rfl
  | and _ _ _ | or _ _ _ | atom _ => rfl

theorem join_singleton (h : formula.IsNormal tests) : connective.join [formula] = formula := by
  rw [Connective.join_eq, List.any_cons, List.any_nil, Bool.or_false, List.flatMap_singleton]
  rcases h.trichotomy connective with ⟨b, rfl⟩ | ⟨parts, rfl, htwo, -, -⟩ | hkeeps
  · cases connective <;> cases b <;> rfl
  · rw [Connective.isConst_wrap, if_neg Bool.false_ne_true, Connective.spread_wrap,
      Connective.gather_of_two_le htwo]
  · rw [Connective.isConst_of_keeps hkeeps, if_neg Bool.false_ne_true,
      Connective.spread_of_keeps hkeeps]
    rfl

theorem isConst_join (h : ∀ part ∈ parts, part.IsNormal tests) :
    isConst connective.absorbing (connective.join parts)
      = parts.any (isConst connective.absorbing) := by
  rw [Connective.join_eq]
  split
  · next hdecided =>
      rw [hdecided]
      exact beq_self_eq_true _
  · next hundecided =>
      rw [Bool.eq_false_iff.2 hundecided]
      exact Connective.isConst_gather fun part hmem => (of_mem_flatMap_spread h hundecided hmem).1

theorem spread_join (h : ∀ part ∈ parts, part.IsNormal tests)
    (hundecided : ¬ parts.any (isConst connective.absorbing) = true) :
    connective.spread (connective.join parts) = parts.flatMap connective.spread := by
  rw [Connective.join_eq, if_neg hundecided]
  exact Connective.spread_gather fun part hmem => (of_mem_flatMap_spread h hundecided hmem).1

/-- A connective within the same connective may be written out. -/
theorem join_append_join (before : List (Formula α)) (h : ∀ part ∈ parts, part.IsNormal tests)
    (after : List (Formula α)) :
    connective.join (before ++ connective.join parts :: after)
      = connective.join (before ++ parts ++ after) := by
  have hany : (before ++ connective.join parts :: after).any (isConst connective.absorbing)
      = (before ++ parts ++ after).any (isConst connective.absorbing) := by
    rw [List.any_append, List.any_cons, isConst_join h, List.any_append, List.any_append,
      Bool.or_assoc]
  rw [Connective.join_eq, Connective.join_eq connective (before ++ parts ++ after), hany]
  split
  · rfl
  · next hundecided =>
      -- Nothing in the inner one decides it, so it adds what its parts would.
      have hparts : ¬ parts.any (isConst connective.absorbing) = true := fun hdecided =>
        hundecided (by
          rw [List.any_append, List.any_append, hdecided, Bool.or_true, Bool.true_or])
      rw [List.flatMap_append, List.flatMap_cons, spread_join h hparts, List.flatMap_append,
        List.flatMap_append, List.append_assoc]

end

end Strata.Formula
