import Strata.Predicate.Basic

/-!
# Going through predicates

The connectives are the same on every level, and whatever goes through a predicate treats them alike
there: its text, its lists of names, its meaning. So what they do is said of formulas, once. A
recursion through a formula is given by what it makes of the connectives (`Formula.Recursion`), and
what two recursions keep through the connectives they keep through a formula, if it is so of the
tests (`Recursion.Carries.relates`).

What is left are the tests. A test of a component may hold a predicate about layers, and a test of a
layer one about components: `tests_induction` is the induction on both. A property of tests may be
assumed of the tests in the predicate that a test holds.
-/

namespace Strata

namespace Formula

variable {α : Type} {formula : Formula α} {parts : List (Formula α)}

/-- Induction on formulas, with the parts of a connective taken one by one. -/
@[elab_as_elim]
theorem induction {motive : Formula α → Prop}
    (const : ∀ value, motive (.const value))
    (and : ∀ parts, (∀ part ∈ parts, motive part) → motive (.and parts))
    (or : ∀ parts, (∀ part ∈ parts, motive part) → motive (.or parts))
    (not : ∀ inner, motive inner → motive (.not inner))
    (atom : ∀ test, motive (.atom test))
    (formula : Formula α) : motive formula := by
  match formula with
  | .const value => exact const value
  | .and parts => exact and parts fun part _ => induction const and or not atom part
  | .or parts => exact or parts fun part _ => induction const and or not atom part
  | .not inner => exact not inner (induction const and or not atom inner)
  | .atom test => exact atom test

/-! ## Tests in a formula -/

mutual

/-- The tests in a formula, from left to right. -/
def tests : Formula α → List α
  | .const _ => []
  | .and parts => testsEach parts
  | .or parts => testsEach parts
  | .not inner => inner.tests
  | .atom test => [test]

/-- The tests in some formulas. -/
def testsEach : List (Formula α) → List α
  | [] => []
  | part :: rest => part.tests ++ testsEach rest

end

theorem testsEach_eq (parts : List (Formula α)) : testsEach parts = parts.flatMap tests := by
  induction parts with
  | nil => rfl
  | cons part parts ih => rw [testsEach, ih, List.flatMap_cons]

/-- Whether every test in a formula is as wanted. -/
def EachTest (P : α → Prop) (formula : Formula α) : Prop := ∀ test ∈ formula.tests, P test

section

variable {P Q : α → Prop}

theorem EachTest.imp (h : ∀ test, P test → Q test) (hformula : formula.EachTest P) :
    formula.EachTest Q := fun test hmem => h test (hformula test hmem)

theorem eachTest_const (value : Bool) : EachTest P (.const value) := List.forall_mem_nil _

theorem eachTest_atom {test : α} (h : P test) : EachTest P (.atom test) :=
  List.forall_mem_singleton.2 h

theorem forall_mem_testsEach :
    (∀ test ∈ testsEach parts, P test) ↔ ∀ part ∈ parts, part.EachTest P := by
  rw [testsEach_eq]
  exact List.forall_mem_flatMap

end

theorem sizeOf_lt_of_mem_tests [SizeOf α] {test : α} (h : test ∈ formula.tests) :
    sizeOf test < sizeOf formula := by
  induction formula using Formula.induction with
  | const value => cases h
  | and parts ih | or parts ih =>
      rw [tests, testsEach_eq] at h
      obtain ⟨part, hpart, hmem⟩ := List.mem_flatMap.1 h
      have htest := ih part hpart hmem
      have hlist := List.sizeOf_lt_of_mem hpart
      simp only [and.sizeOf_spec, or.sizeOf_spec]
      omega
  | not inner ih =>
      have htest := ih h
      rw [not.sizeOf_spec]
      omega
  | atom _ =>
      obtain rfl := List.mem_singleton.1 h
      rw [atom.sizeOf_spec]
      omega

/-! ## Recursions -/

/-- What a recursion makes of the connectives: a `β` of each formula, and a `γ` of the parts of a
connective. -/
structure Recursion (β γ : Type) where
  const : Bool → β
  and : γ → β
  or : γ → β
  not : β → β
  nil : γ
  cons : β → γ → γ

namespace Recursion

section

variable {β γ β' γ' : Type}

/-- Whether functions on formulas and on lists of formulas are the recursion. What they make of
tests is left to them. -/
structure Defines (recursion : Recursion β γ) (make : Formula α → β)
    (makeEach : List (Formula α) → γ) : Prop where
  const : ∀ value, make (.const value) = recursion.const value
  and : ∀ parts, make (.and parts) = recursion.and (makeEach parts)
  or : ∀ parts, make (.or parts) = recursion.or (makeEach parts)
  not : ∀ inner, make (.not inner) = recursion.not (make inner)
  nil : makeEach [] = recursion.nil
  cons : ∀ part rest, makeEach (part :: rest) = recursion.cons (make part) (makeEach rest)

/-- Whether two recursions, of what they have made of the parts in relation to each other, make
something in relation again. -/
structure Carries (R : β → β' → Prop) (S : γ → γ' → Prop) (first : Recursion β γ)
    (second : Recursion β' γ') : Prop where
  const : ∀ value, R (first.const value) (second.const value)
  and : ∀ {x y}, S x y → R (first.and x) (second.and y)
  or : ∀ {x y}, S x y → R (first.or x) (second.or y)
  not : ∀ {x y}, R x y → R (first.not x) (second.not y)
  nil : S first.nil second.nil
  cons : ∀ {x y xs ys}, R x y → S xs ys → S (first.cons x xs) (second.cons y ys)

variable {R : β → β' → Prop} {S : γ → γ' → Prop} {first recursion : Recursion β γ}
  {second : Recursion β' γ'} {make other : Formula α → β} {makeEach otherEach : List (Formula α) → γ}
  {make' : Formula α → β'} {makeEach' : List (Formula α) → γ'}

theorem Carries.relates_each (h : Carries R S first second) (hfirst : first.Defines make makeEach)
    (hsecond : second.Defines make' makeEach')
    (hparts : ∀ part ∈ parts, R (make part) (make' part)) :
    S (makeEach parts) (makeEach' parts) := by
  induction parts with
  | nil =>
      rw [hfirst.nil, hsecond.nil]
      exact h.nil
  | cons part parts ih =>
      obtain ⟨hpart, hparts⟩ := List.forall_mem_cons.1 hparts
      rw [hfirst.cons, hsecond.cons]
      exact h.cons hpart (ih hparts)

/-- What is made of a formula is in relation if what is made of its tests is. -/
theorem Carries.relates (h : Carries R S first second) (hfirst : first.Defines make makeEach)
    (hsecond : second.Defines make' makeEach')
    (htests : formula.EachTest fun test => R (make (.atom test)) (make' (.atom test))) :
    R (make formula) (make' formula) := by
  induction formula using Formula.induction with
  | const value =>
      rw [hfirst.const, hsecond.const]
      exact h.const value
  | and parts ih =>
      rw [hfirst.and, hsecond.and]
      exact h.and (h.relates_each hfirst hsecond fun part hmem =>
        ih part hmem (forall_mem_testsEach.1 htests part hmem))
  | or parts ih =>
      rw [hfirst.or, hsecond.or]
      exact h.or (h.relates_each hfirst hsecond fun part hmem =>
        ih part hmem (forall_mem_testsEach.1 htests part hmem))
  | not inner ih =>
      rw [hfirst.not, hsecond.not]
      exact h.not (ih htests)
  | atom test => exact htests test (List.mem_singleton_self test)

/-- A recursion is determined by what it makes of tests. -/
theorem Defines.congr (hmake : recursion.Defines make makeEach)
    (hother : recursion.Defines other otherEach)
    (htests : formula.EachTest fun test => make (.atom test) = other (.atom test)) :
    make formula = other formula := by
  have hcarries : Carries Eq Eq recursion recursion :=
    { const := fun _ => rfl
      and := congrArg recursion.and
      or := congrArg recursion.or
      not := congrArg recursion.not
      nil := rfl
      cons := fun hx hxs => by rw [hx, hxs] }
  exact hcarries.relates hmake hother htests

end

section

variable {β : Type} {make : Formula α → β} {makeEach : List (Formula α) → List β}

theorem Defines.each_eq_map {recursion : Recursion β (List β)}
    (h : recursion.Defines make makeEach) (hnil : recursion.nil = [])
    (hcons : recursion.cons = List.cons) (parts : List (Formula α)) :
    makeEach parts = parts.map make := by
  induction parts with
  | nil => rw [h.nil, hnil, List.map_nil]
  | cons part parts ih => rw [h.cons, hcons, ih, List.map_cons]

/-- The recursion that collects from left to right. -/
def collect (β : Type) : Recursion (List β) (List β) where
  const _ := []
  and found := found
  or found := found
  not found := found
  nil := []
  cons := List.append

theorem collect_defines_tests : (collect α).Defines tests testsEach :=
  ⟨fun _ => rfl, fun _ => rfl, fun _ => rfl, fun _ => rfl, rfl, fun _ _ => rfl⟩

/-- What is collected from a formula is what is collected from its tests. -/
theorem Defines.eq_flatMap_tests {find : Formula α → List β} {findEach : List (Formula α) → List β}
    (h : (collect β).Defines find findEach) (formula : Formula α) :
    find formula = formula.tests.flatMap fun test => find (.atom test) := by
  let found (tests : List α) : List β := tests.flatMap fun test => find (.atom test)
  have hcarries : Carries (fun x y => x = found y) (fun xs ys => xs = found ys) (collect β)
      (collect α) :=
    { const := fun _ => rfl
      and := id
      or := id
      not := id
      nil := rfl
      cons := fun hx hxs => by
        rw [hx, hxs]
        exact List.flatMap_append.symm }
  exact hcarries.relates h collect_defines_tests fun test _ =>
    (List.flatMap_singleton (fun test => find (.atom test)) test).symm

end

end Recursion

end Formula

/-! ## The levels -/

section

variable {C : ComponentTest → Prop} {L : LayerTest → Prop}

mutual

theorem componentTest_induction
    (component : ∀ test, (∀ inner, test = .anyLayer inner → inner.EachTest L) → C test)
    (layer : ∀ test, (∀ inner, test = .owner inner → inner.EachTest C) → L test)
    (test : ComponentTest) : C test :=
  component test fun inner htest other hmem =>
    have hsize : sizeOf other < sizeOf test := by
      have hinner := Formula.sizeOf_lt_of_mem_tests hmem
      rw [htest, ComponentTest.anyLayer.sizeOf_spec]
      omega
    layerTest_induction component layer other
termination_by sizeOf test

theorem layerTest_induction
    (component : ∀ test, (∀ inner, test = .anyLayer inner → inner.EachTest L) → C test)
    (layer : ∀ test, (∀ inner, test = .owner inner → inner.EachTest C) → L test)
    (test : LayerTest) : L test :=
  layer test fun inner htest other hmem =>
    have hsize : sizeOf other < sizeOf test := by
      have hinner := Formula.sizeOf_lt_of_mem_tests hmem
      rw [htest, LayerTest.owner.sizeOf_spec]
      omega
    componentTest_induction component layer other
termination_by sizeOf test

end

/-- Induction on the tests of components and of layers. -/
theorem tests_induction
    (component : ∀ test, (∀ inner, test = .anyLayer inner → inner.EachTest L) → C test)
    (layer : ∀ test, (∀ inner, test = .owner inner → inner.EachTest C) → L test) :
    (∀ test, C test) ∧ ∀ test, L test :=
  ⟨componentTest_induction component layer, layerTest_induction component layer⟩

end

end Strata
