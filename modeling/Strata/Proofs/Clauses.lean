import Strata.Proofs.Memberships
import Strata.Proofs.Quoting
import Strata.Proofs.Scanning

/-!
# Clauses

How the text of a predicate is put together. A clause is a word or a literal, or words and clauses
one after another, or a clause between a text that opens a parenthesis and one that closes it
(`Clause`). Whatever is put together in this way can be read as it was meant, and its parentheses
balance (`Clause.spaced`, `Clause.depthAfter_outside`).

An empty connective and an empty list are clauses of nothing at all, and leave a pair of parentheses
with nothing inside. Where there are none, there is no such pair (`Clause.isSolid`). So the clauses
that may be nothing are those of a parameter: with it they are the texts of all predicates, without
it those of the predicates in normal form in which no list is empty.
-/

namespace Strata.Sql

/-! ## Parentheses -/

/-- How many parentheses are open after a character, unless it closes one that is not. -/
def nesting (depth : Nat) (c : Char) : Option Nat :=
  if c = '(' then some (depth + 1)
  else if c = ')' then if depth = 0 then none else some (depth - 1)
  else some depth

/-- How many parentheses are open after a text, unless it closes one that is not. -/
def depthAfter (depth : Nat) (chars : List Char) : Option Nat := chars.foldlM nesting depth

theorem depthAfter_append {depth inner : Nat} {first : List Char}
    (h : depthAfter depth first = some inner) (second : List Char) :
    depthAfter depth (first ++ second) = depthAfter inner second := by
  rw [depthAfter, List.foldlM_append, ← depthAfter, h]
  rfl

theorem nesting_add {depth inner : Nat} {c : Char} (h : nesting depth c = some inner)
    (outer : Nat) : nesting (depth + outer) c = some (inner + outer) := by
  grind [nesting]

/-- Parentheses that are open before a text stay so. -/
theorem depthAfter_add {depth inner : Nat} {chars : List Char}
    (h : depthAfter depth chars = some inner) (outer : Nat) :
    depthAfter (depth + outer) chars = some (inner + outer) := by
  induction chars generalizing depth with
  | nil =>
      obtain rfl := Option.some.inj h
      rfl
  | cons c chars ih =>
      rw [depthAfter, List.foldlM_cons] at h ⊢
      obtain ⟨middle, hc, hchars⟩ := Option.bind_eq_some_iff.1 h
      rw [nesting_add hc]
      exact ih hchars

/-- Whether the parentheses of a text balance, whatever is open before it. -/
def IsBalanced (chars : List Char) : Prop := ∀ depth, depthAfter depth chars = some depth

theorem isBalanced_nil : IsBalanced [] := fun _ => rfl

theorem IsBalanced.append {first second : List Char} (hfirst : IsBalanced first)
    (hsecond : IsBalanced second) : IsBalanced (first ++ second) := fun depth => by
  rw [depthAfter_append (hfirst depth), hsecond depth]

theorem isBalanced_of_depthAfter {chars : List Char} (h : depthAfter 0 chars = some 0) :
    IsBalanced chars := fun depth => by
  have hadd := depthAfter_add h depth
  rwa [Nat.zero_add] at hadd

theorem isBalanced_of_forall {chars : List Char} (h : ∀ c ∈ chars, c ≠ '(' ∧ c ≠ ')') :
    IsBalanced chars := by
  intro depth
  induction chars with
  | nil => rfl
  | cons c chars ih =>
      obtain ⟨hc, hchars⟩ := List.forall_mem_cons.1 h
      have hnesting : nesting depth c = some depth := by rw [nesting, if_neg hc.1, if_neg hc.2]
      rw [depthAfter, List.foldlM_cons, hnesting]
      exact ih hchars

/-- A text in parentheses balances if what is inside does. -/
theorem IsBalanced.enclosed {opening inner closing : List Char}
    (hopening : depthAfter 0 opening = some 1) (hclosing : depthAfter 1 closing = some 0)
    (hinner : IsBalanced inner) : IsBalanced (opening ++ inner ++ closing) := by
  refine isBalanced_of_depthAfter ?_
  rw [List.append_assoc, depthAfter_append hopening, depthAfter_append (hinner 1), hclosing]

/-! ## Pairs with nothing inside -/

/-- Whether two symbols may follow each other: the one does not open a parenthesis that the other
closes. -/
abbrev Symbol.Follows (first second : Symbol) : Prop :=
  first ≠ .plain '(' ∨ second ≠ .plain ')'

/-- Whether there is something in every pair of parentheses of a text, and also if the text itself
is put into parentheses. -/
structure IsSolid (symbols : List Symbol) : Prop where
  ne_nil : symbols ≠ []
  chain : symbols.IsChain Symbol.Follows
  head : symbols.head? ≠ some (.plain ')')
  last : symbols.getLast? ≠ some (.plain '(')

theorem IsSolid.append {first second : List Symbol} (hfirst : IsSolid first)
    (hsecond : IsSolid second) : IsSolid (first ++ second) where
  ne_nil := List.append_ne_nil_of_left_ne_nil hfirst.ne_nil _
  chain := List.isChain_append.2 ⟨hfirst.chain, hsecond.chain,
    fun _ _ y hy => .inr fun h => hsecond.head (h ▸ hy)⟩
  head := by
    rw [List.head?_append_of_ne_nil _ hfirst.ne_nil]
    exact hfirst.head
  last := by
    rw [List.getLast?_append_of_ne_nil _ hsecond.ne_nil]
    exact hsecond.last

/-- There is no pair of parentheses with nothing inside. -/
theorem IsSolid.no_empty_pair {symbols : List Symbol} (h : IsSolid symbols) :
    ¬ [.plain '(', .plain ')'] <:+: symbols := by
  rintro ⟨before, after, rfl⟩
  have hpair := (List.isChain_append.1 (List.isChain_append.1 h.chain).1).2.1
  exact (List.isChain_pair.1 hpair).elim (· rfl) (· rfl)

/-! ## Fixed texts -/

/-- Whether a text holds neither quotes nor parentheses. -/
def isWord (text : String) : Bool :=
  isClean text && text.toList.all fun c => c ≠ '(' ∧ c ≠ ')'

/-- Whether a text opens one parenthesis that it does not close. -/
def isOpening (text : String) : Bool :=
  isClean text && depthAfter 0 text.toList = some 1
    && decide (List.IsChain Symbol.Follows (.plain '(' :: (Fragment.fixed text).symbols))

/-- Whether a text closes one parenthesis that it does not open. -/
def isClosing (text : String) : Bool :=
  isClean text && depthAfter 1 text.toList = some 0
    && decide (List.IsChain Symbol.Follows ((Fragment.fixed text).symbols ++ [.plain ')']))

section

variable {text opening closing : String}

theorem isWord_iff : isWord text = true ↔
    isClean text = true ∧ ∀ c ∈ text.toList, c ≠ '(' ∧ c ≠ ')' := by
  simp [isWord]

theorem isOpening_iff : isOpening text = true ↔
    isClean text = true ∧ depthAfter 0 text.toList = some 1 ∧
      List.IsChain Symbol.Follows (.plain '(' :: (Fragment.fixed text).symbols) := by
  simp [isOpening, and_assoc]

theorem isClosing_iff : isClosing text = true ↔
    isClean text = true ∧ depthAfter 1 text.toList = some 0 ∧
      List.IsChain Symbol.Follows ((Fragment.fixed text).symbols ++ [.plain ')']) := by
  simp [isClosing, and_assoc]

/-! What a fixed text is can be told from its characters. -/

theorem isWord_ofList {chars : List Char}
    (h : (chars ≠ [] ∧ quote ∉ chars) ∧ (chars.all fun c => c ≠ '(' ∧ c ≠ ')') = true) :
    isWord (String.ofList chars) = true := by
  rw [isWord, String.toList_ofList, Bool.and_eq_true, isClean_iff, String.toList_ofList]
  exact h

theorem isOpening_ofList {chars : List Char}
    (h : (chars ≠ [] ∧ quote ∉ chars) ∧ depthAfter 0 chars = some 1 ∧
      List.IsChain Symbol.Follows (.plain '(' :: chars.map .plain)) :
    isOpening (String.ofList chars) = true := by
  rw [isOpening_iff, isClean_iff, Fragment.symbols, String.toList_ofList]
  exact h

theorem isClosing_ofList {chars : List Char}
    (h : (chars ≠ [] ∧ quote ∉ chars) ∧ depthAfter 1 chars = some 0 ∧
      List.IsChain Symbol.Follows (chars.map .plain ++ [.plain ')'])) :
    isClosing (String.ofList chars) = true := by
  rw [isClosing_iff, isClean_iff, Fragment.symbols, String.toList_ofList]
  exact h

theorem symbols_ne_nil_of_isClean (h : isClean text = true) :
    (Fragment.fixed text).symbols ≠ [] := by
  exact fun hnil => (isClean_iff.1 h).1 (List.map_eq_nil_iff.1 hnil)

theorem ne_plain_of_isWord (h : isWord text = true) {symbol : Symbol}
    (hmem : symbol ∈ (Fragment.fixed text).symbols) :
    symbol ≠ .plain '(' ∧ symbol ≠ .plain ')' := by
  obtain ⟨c, hc, rfl⟩ := List.mem_map.1 hmem
  obtain ⟨hopening, hclosing⟩ := (isWord_iff.1 h).2 c hc
  exact ⟨fun hc => hopening (Symbol.plain.inj hc), fun hc => hclosing (Symbol.plain.inj hc)⟩

theorem isSolid_of_isWord (h : isWord text = true) : IsSolid (Fragment.fixed text).symbols where
  ne_nil := symbols_ne_nil_of_isClean (isWord_iff.1 h).1
  chain := (List.pairwise_of_forall_mem_list
    fun _ hfirst _ _ => .inl (ne_plain_of_isWord h hfirst).1).isChain
  head := fun hhead => (ne_plain_of_isWord h (List.mem_of_mem_head? hhead)).2 rfl
  last := fun hlast => (ne_plain_of_isWord h (List.mem_of_mem_getLast? hlast)).1 rfl

theorem isSolid_literal (value : String) : IsSolid (Fragment.literal value).symbols where
  ne_nil := List.cons_ne_nil _ _
  chain := List.isChain_singleton _
  head := nofun
  last := nofun

theorem IsSolid.enclosed {inner : List Symbol} (hopening : isOpening opening = true)
    (hclosing : isClosing closing = true) (hinner : IsSolid inner) :
    IsSolid ((Fragment.fixed opening).symbols ++ inner ++ (Fragment.fixed closing).symbols) := by
  obtain ⟨hopenClean, -, hopenChain⟩ := isOpening_iff.1 hopening
  obtain ⟨hcloseClean, -, hcloseChain⟩ := isClosing_iff.1 hclosing
  have hopen := symbols_ne_nil_of_isClean hopenClean
  have hclose := symbols_ne_nil_of_isClean hcloseClean
  obtain ⟨hhead, hopenChain⟩ := List.isChain_cons.1 hopenChain
  obtain ⟨hcloseChain, -, hlast⟩ := List.isChain_append.1 hcloseChain
  constructor
  · simp [hopen]
  · refine List.isChain_append.2 ⟨List.isChain_append.2 ⟨hopenChain, hinner.chain, ?_⟩,
      hcloseChain, ?_⟩
    · exact fun _ _ y hy => .inr fun h => hinner.head (h ▸ hy)
    · rw [List.getLast?_append_of_ne_nil _ hinner.ne_nil]
      exact fun x hx _ _ => .inl fun h => hinner.last (h ▸ hx)
  · rw [List.append_assoc, List.head?_append_of_ne_nil _ hopen]
    exact fun h => (hhead _ h).elim (· rfl) (· rfl)
  · rw [List.getLast?_append_of_ne_nil _ hclose]
    exact fun h => (hlast _ h _ rfl).elim (· rfl) (· rfl)

/-- A parenthesis that a text opens is still open after a word. -/
theorem isOpening_append (hopening : isOpening opening = true) (h : isWord text = true) :
    isOpening (opening ++ text) = true := by
  obtain ⟨hclean, hdepth, hchain⟩ := isOpening_iff.1 hopening
  obtain ⟨hword, hother⟩ := isWord_iff.1 h
  have hsolid := isSolid_of_isWord h
  rw [isClean_iff] at hclean hword
  rw [Fragment.symbols] at hchain hsolid
  rw [isOpening_iff, isClean_iff, Fragment.symbols, String.toList_append, List.map_append]
  refine ⟨⟨List.append_ne_nil_of_left_ne_nil hclean.1 _, ?_⟩, ?_, ?_⟩
  · rw [List.mem_append]
    exact (·.elim hclean.2 hword.2)
  · rw [depthAfter_append hdepth, isBalanced_of_forall hother 1]
  · exact List.isChain_append.2 ⟨hchain, hsolid.chain,
      fun _ _ y hy => .inr fun heq => hsolid.head (heq ▸ hy)⟩

theorem isClosing_parenthesis : isClosing ")" = true := isClosing_ofList (by decide)

end

/-! ### Ordinals -/

theorem of_mem_spellInt {i : Int} {c : Char} (h : c ∈ spellInt i) : c = '-' ∨ c.isDigit = true := by
  rcases List.mem_append.1 h with hsign | hdigits
  · split at hsign
    · exact .inl (List.mem_singleton.1 hsign)
    · cases hsign
  · exact .inr (Lexeme.isDigit_of_mem_spellNat hdigits)

theorem isWord_spellInt (i : Int) : isWord (String.ofList (spellInt i)) = true := by
  have hne : spellInt i ≠ [] := by
    obtain ⟨c, rest, hdigits⟩ := Lexeme.exists_spellNat_cons i.natAbs
    rw [spellInt, hdigits]
    exact List.append_ne_nil_of_right_ne_nil _ (List.cons_ne_nil _ _)
  have hother : ∀ c ∈ spellInt i, c ≠ quote ∧ c ≠ '(' ∧ c ≠ ')' := by
    intro c hc
    rcases of_mem_spellInt hc with rfl | hdigit
    · decide
    · refine ⟨?_, ?_, ?_⟩ <;> (rintro rfl; revert hdigit; decide)
  have hquote : quote ∉ spellInt i := fun hmem => (hother quote hmem).1 rfl
  exact isWord_ofList ⟨⟨hne, hquote⟩, List.all_eq_true.2 fun c hc => decide_eq_true (hother c hc).2⟩

/-! ## Clauses -/

/-- What conditions are put together from. Only where that is allowed, a clause may be nothing. -/
inductive Clause (hollow : Prop) : List Fragment → Prop
  | nothing (h : hollow) : Clause hollow []
  | literal (value : String) : Clause hollow [.literal value]
  | word {text : String} (h : isWord text = true) : Clause hollow [.fixed text]
  | cons {text : String} {rest : List Fragment} (h : isWord text = true)
      (clause : Clause hollow rest) : Clause hollow (.fixed text :: rest)
  | append {first rest : List Fragment} {text : String} (clause : Clause hollow first)
      (next : Clause hollow (.fixed text :: rest)) : Clause hollow (first ++ .fixed text :: rest)
  | enclosed {opening closing : String} {inner : List Fragment}
      (hopening : isOpening opening = true) (hclosing : isClosing closing = true)
      (clause : Clause hollow inner) :
      Clause hollow (.fixed opening :: inner ++ [.fixed closing])

section

variable {hollow : Prop} {fragments first rest : List Fragment} {text : String}

theorem Spaced.cons_fixed (h : isClean text = true) (hrest : Spaced rest) :
    Spaced (.fixed text :: rest) where
  clean := fun other hmem => by
    rcases List.mem_cons.1 hmem with hother | hmem
    · rw [Fragment.fixed.inj hother]
      exact h
    · exact hrest.clean other hmem
  apart := List.isChain_cons.2 ⟨fun _ _ => .inl rfl, hrest.apart⟩

theorem Spaced.append_fixed (h : Spaced first) (hrest : Spaced (.fixed text :: rest)) :
    Spaced (first ++ .fixed text :: rest) where
  clean := fun other hmem => (List.mem_append.1 hmem).elim (h.clean other) (hrest.clean other)
  apart := List.isChain_append.2 ⟨h.apart, hrest.apart, fun _ _ _ hy => .inr (by cases hy; rfl)⟩

/-- Clauses can be told apart in their text. -/
theorem Clause.spaced (h : Clause hollow fragments) : Spaced fragments := by
  have hnil : Spaced [] := ⟨nofun, List.isChain_nil⟩
  induction h with
  | nothing _ => exact hnil
  | literal value => exact ⟨nofun, List.isChain_singleton _⟩
  | word h => exact hnil.cons_fixed (isWord_iff.1 h).1
  | cons h _ ih => exact ih.cons_fixed (isWord_iff.1 h).1
  | append _ _ ih ihnext => exact ih.append_fixed ihnext
  | enclosed hopening hclosing _ ih =>
      exact (ih.cons_fixed (isOpening_iff.1 hopening).1).append_fixed
        (hnil.cons_fixed (isClosing_iff.1 hclosing).1)

/-- The parentheses of clauses balance. -/
theorem Clause.isBalanced (h : Clause hollow fragments) :
    IsBalanced (outside (symbols fragments)) := by
  induction h with
  | nothing _ | literal _ => exact isBalanced_nil
  | word h =>
      rw [symbols_cons, outside_append, Fragment.symbols, outside_plain]
      exact (isBalanced_of_forall (isWord_iff.1 h).2).append isBalanced_nil
  | cons h _ ih =>
      rw [symbols_cons, outside_append, Fragment.symbols, outside_plain]
      exact (isBalanced_of_forall (isWord_iff.1 h).2).append ih
  | append _ _ ih ihnext =>
      rw [symbols_append, outside_append]
      exact ih.append ihnext
  | enclosed hopening hclosing _ ih =>
      simp only [symbols_append, symbols_cons, symbols_nil, outside_append, Fragment.symbols,
        outside_plain, List.append_nil]
      exact .enclosed (isOpening_iff.1 hopening).2.1 (isClosing_iff.1 hclosing).2.1 ih

/-- Where no clause is nothing, there is something in every pair of parentheses. -/
theorem Clause.isSolid (h : Clause hollow fragments) (hsome : ¬hollow) :
    IsSolid (symbols fragments) := by
  induction h with
  | nothing h => exact absurd h hsome
  | literal value =>
      rw [symbols_cons, symbols_nil, List.append_nil]
      exact isSolid_literal value
  | word h =>
      rw [symbols_cons, symbols_nil, List.append_nil]
      exact isSolid_of_isWord h
  | cons h _ ih =>
      rw [symbols_cons]
      exact (isSolid_of_isWord h).append ih
  | append _ _ ih ihnext =>
      rw [symbols_append]
      exact ih.append ihnext
  | enclosed hopening hclosing _ ih =>
      rw [symbols_append, symbols_cons, symbols_cons, symbols_nil, List.append_nil]
      exact ih.enclosed hopening hclosing

/-! ### Lists and connectives -/

variable {parts : List (List Fragment)} {separator connective rows : String}

theorem Clause.separated (hseparator : isWord separator = true) (hsome : ¬hollow → parts ≠ [])
    (h : ∀ part ∈ parts, Clause hollow part) : Clause hollow (separated separator parts) := by
  induction parts with
  | nil => exact .nothing (Classical.not_not.1 fun hne => hsome hne rfl)
  | cons part parts ih =>
      obtain ⟨hpart, hparts⟩ := List.forall_mem_cons.1 h
      cases parts with
      | nil => exact hpart
      | cons next parts =>
          exact hpart.append (.cons hseparator (ih (fun _ => List.cons_ne_nil _ _) hparts))

theorem Clause.parenthesized (h : Clause hollow fragments) :
    Clause hollow (.fixed "(" :: fragments ++ [.fixed ")"]) :=
  .enclosed (isOpening_ofList (by decide)) isClosing_parenthesis h

theorem Clause.connected (hconnective : isWord connective = true) (hsome : ¬hollow → parts ≠ [])
    (h : ∀ part ∈ parts, Clause hollow part) : Clause hollow (connected connective parts) :=
  (Clause.separated hconnective hsome h).parenthesized

theorem Clause.denied (h : Clause hollow fragments) :
    Clause hollow (.fixed "NOT (" :: fragments ++ [.fixed ")"]) :=
  .enclosed (isOpening_ofList (by decide)) isClosing_parenthesis h

theorem Clause.lower (h : Clause hollow fragments) : Clause hollow (lower fragments) :=
  .enclosed (isOpening_ofList (by decide)) isClosing_parenthesis h

theorem clause_constant (value : Bool) : Clause hollow (constant value) := by
  cases value <;> exact .word (isWord_ofList (by decide))

theorem clause_flag (value : Bool) : Clause hollow [flag value] := by
  cases value <;> exact .word (isWord_ofList (by decide))

theorem clause_ordinal (value : Ordinal) : Clause hollow [ordinal value] :=
  .word (isWord_spellInt value.toInt)

theorem clause_coalesced {column : String} (h : isWord column = true) :
    Clause hollow (coalesced column) := by
  have hopening : isOpening ("COALESCE(" ++ column ++ ", ") = true :=
    isOpening_append (isOpening_append (isOpening_ofList (by decide)) h)
      (isWord_ofList (by decide))
  exact .enclosed hopening isClosing_parenthesis (.literal "")

theorem Clause.existing (hrows : isWord rows = true) (h : Clause hollow fragments) :
    Clause hollow (existing rows fragments) := by
  have hopening : isOpening ("EXISTS (SELECT 1 FROM " ++ rows ++ " AND ") = true :=
    isOpening_append (isOpening_append (isOpening_ofList (by decide)) hrows)
      (isWord_ofList (by decide))
  exact .enclosed hopening isClosing_parenthesis h

theorem Clause.oneOf {values : List String} (h : Clause hollow fragments)
    (hsome : ¬hollow → values ≠ []) : Clause hollow (oneOf fragments values) := by
  rw [Sql.oneOf, List.append_assoc]
  refine h.lower.append (.enclosed (isOpening_ofList (by decide)) isClosing_parenthesis ?_)
  refine .separated (isWord_ofList (by decide))
    (fun hne hnil => hsome hne (List.map_eq_nil_iff.1 hnil)) ?_
  exact List.forall_mem_map.2 fun value _ => .literal value

end

end Strata.Sql

namespace Strata

open Sql

variable {hollow : Prop}

theorem ComponentField.clause_column (field : ComponentField) : Clause hollow field.column := by
  cases field with
  | logicalName | componentType => exact .word (isWord_ofList (by decide))
  | displayName | tableName => exact clause_coalesced (isWord_ofList (by decide))

theorem LayerField.clause_column (field : LayerField) : Clause hollow field.column := by
  cases field with
  | name => exact .word (isWord_ofList (by decide))
  | publisher | version => exact clause_coalesced (isWord_ofList (by decide))

theorem TextTest.clause {column : List Fragment} (test : TextTest) (h : Clause hollow column) :
    Clause hollow (test.sql column) := by
  cases test with
  | equals value | notEquals value =>
      exact h.lower.append (.cons (isWord_ofList (by decide)) (Clause.literal value).lower)
  | like pattern =>
      refine .append (h.lower.append ?_) (.cons (isWord_ofList (by decide)) (.literal _))
      exact .cons (isWord_ofList (by decide)) (Clause.literal pattern).lower

theorem isWord_attributeRows : isWord attributeRows = true := by
  rw [attributeRows]
  exact isWord_ofList (by decide)

theorem isOpening_targets :
    isOpening ("EXISTS (SELECT 1 FROM layers t JOIN layer_attributes b ON b.layer_id = t.id "
      ++ "WHERE t.component_id = l.component_id AND ") = true :=
  isOpening_append (isOpening_ofList (by decide +kernel)) (isWord_ofList (by decide))

theorem isClosing_targets :
    isClosing " AND LOWER(b.name) = LOWER(a.name) AND b.content_hash = a.content_hash)" = true :=
  isClosing_ofList (by decide +kernel)

theorem DiffTargets.clause_counterpart (targets : DiffTargets)
    (hsome : ¬hollow → ∀ m ∈ targets.memberships, m.list ≠ []) :
    Clause hollow targets.counterpart := by
  refine .enclosed isOpening_targets isClosing_targets ?_
  cases targets with
  | lowerOrdinal => exact .word (isWord_ofList (by decide))
  | solutions names =>
      refine .cons (isWord_ofList (by decide))
        (.oneOf (.word (isWord_ofList (by decide))) fun hne => ?_)
      exact hsome hne (.targets names) List.mem_cons_self

/-! ## Predicates are clauses -/

/-! ### Predicates in which nothing is empty -/

/-- Whether a list of names is not empty. -/
def Membership.HasName (m : Membership) : Prop := m.list ≠ []

/-- Whether a test is in normal form, and no list in it is empty. -/
def ComponentTest.IsFull (test : ComponentTest) : Prop :=
  test.IsNormal ∧ test.Lists Membership.HasName

def LayerTest.IsFull (test : LayerTest) : Prop :=
  test.IsNormal ∧ test.Lists Membership.HasName

/-- Whether a predicate is in normal form, and no list in it is empty. -/
abbrev AttributePredicate.IsFull (predicate : AttributePredicate) : Prop :=
  Formula.IsNormal (AttributeTest.Lists Membership.HasName) predicate

abbrev ComponentPredicate.IsFull (predicate : ComponentPredicate) : Prop :=
  Formula.IsNormal ComponentTest.IsFull predicate

abbrev LayerPredicate.IsFull (predicate : LayerPredicate) : Prop :=
  Formula.IsNormal LayerTest.IsFull predicate

theorem AttributePredicate.IsNormal.isFull {predicate : AttributePredicate}
    (h : predicate.IsNormal) (hlists : ∀ m ∈ predicate.memberships, m.HasName) :
    predicate.IsFull :=
  h.mp fun test hmem _ => AttributePredicate.forall_mem_memberships.1 hlists test hmem

theorem ComponentPredicate.IsNormal.isFull {predicate : ComponentPredicate}
    (h : predicate.IsNormal)
    (hlists : ∀ m ∈ ComponentPredicate.memberships predicate, m.HasName) : predicate.IsFull :=
  h.mp fun test hmem htest =>
    ⟨htest, ComponentPredicate.forall_mem_memberships.1 hlists test hmem⟩

theorem LayerPredicate.IsNormal.isFull {predicate : LayerPredicate} (h : predicate.IsNormal)
    (hlists : ∀ m ∈ LayerPredicate.memberships predicate, m.HasName) : predicate.IsFull :=
  h.mp fun test hmem htest => ⟨htest, LayerPredicate.forall_mem_memberships.1 hlists test hmem⟩

theorem ComponentTest.IsFull.anyLayer {inner : LayerPredicate}
    (h : (ComponentTest.anyLayer inner).IsFull) : inner.IsFull := by
  obtain ⟨hnormal, hlists⟩ := h
  rw [ComponentTest.Lists, ComponentTest.memberships] at hlists
  cases hnormal with
  | anyLayer _ normal => exact LayerPredicate.IsNormal.isFull normal hlists

theorem LayerTest.IsFull.owner {inner : ComponentPredicate} (h : (LayerTest.owner inner).IsFull) :
    inner.IsFull := by
  obtain ⟨hnormal, hlists⟩ := h
  rw [LayerTest.Lists, LayerTest.memberships] at hlists
  cases hnormal with
  | owner _ normal => exact ComponentPredicate.IsNormal.isFull normal hlists

theorem LayerTest.IsFull.anyAttribute {inner : AttributePredicate}
    (h : (LayerTest.anyAttribute inner).IsFull) : inner.IsFull := by
  obtain ⟨hnormal, hlists⟩ := h
  rw [LayerTest.Lists, LayerTest.memberships] at hlists
  cases hnormal with
  | anyAttribute _ normal => exact AttributePredicate.IsNormal.isFull normal hlists

theorem LayerTest.IsFull.differs {candidates : AttributePredicate} {logic : MatchLogic}
    {targets : DiffTargets} (h : (LayerTest.differs candidates logic targets).IsFull) :
    candidates.IsFull ∧ ∀ m ∈ targets.memberships, m.HasName := by
  obtain ⟨hnormal, hlists⟩ := h
  rw [LayerTest.Lists, LayerTest.memberships, List.forall_mem_append] at hlists
  cases hnormal with
  | differs _ _ normal => exact ⟨AttributePredicate.IsNormal.isFull normal hlists.1, hlists.2⟩

theorem LayerTest.IsFull.solutionIn {names : List String}
    (h : (LayerTest.solutionIn names).IsFull) : names ≠ [] := by
  have hlists := h.2
  rw [LayerTest.Lists, LayerTest.memberships] at hlists
  exact hlists (.solutions names) List.mem_cons_self

/-! ### Connectives -/

/-- The recursion that writes. -/
def Sql.recursion : Formula.Recursion (List Fragment) (List (List Fragment)) where
  const := constant
  and := connected " AND "
  or := connected " OR "
  not inner := .fixed "NOT (" :: inner ++ [.fixed ")"]
  nil := []
  cons := List.cons

theorem AttributePredicate.recursion_defines_sql :
    Sql.recursion.Defines AttributePredicate.sql AttributePredicate.sqlEach :=
  ⟨fun _ => rfl, fun _ => rfl, fun _ => rfl, fun _ => rfl, rfl, fun _ _ => rfl⟩

theorem ComponentPredicate.recursion_defines_sql :
    Sql.recursion.Defines ComponentPredicate.sql ComponentPredicate.sqlEach :=
  ⟨fun _ => rfl, fun _ => rfl, fun _ => rfl, fun _ => rfl, rfl, fun _ _ => rfl⟩

theorem LayerPredicate.recursion_defines_sql :
    Sql.recursion.Defines LayerPredicate.sql LayerPredicate.sqlEach :=
  ⟨fun _ => rfl, fun _ => rfl, fun _ => rfl, fun _ => rfl, rfl, fun _ _ => rfl⟩

section

variable {α : Type} {P : α → Prop} {formula : Formula α} {parts : List (Formula α)}
  {sql : Formula α → List Fragment} {sqlEach : List (Formula α) → List (List Fragment)}

theorem Sql.Clause.of_parts {connective : String} (hsql : Sql.recursion.Defines sql sqlEach)
    (hconnective : isWord connective = true) (two_le : ¬hollow → 2 ≤ parts.length)
    (h : ∀ part ∈ parts, Clause hollow (sql part)) :
    Clause hollow (Sql.connected connective (sqlEach parts)) := by
  rw [hsql.each_eq_map rfl rfl]
  refine .connected hconnective (fun hne => ?_) (List.forall_mem_map.2 h)
  exact mt List.map_eq_nil_iff.1
    (List.ne_nil_of_length_pos (Nat.lt_of_lt_of_le Nat.two_pos (two_le hne)))

/-- A formula is written as a clause if its tests are. If no clause may be nothing, every connective
has to have parts. -/
theorem Sql.Clause.of_tests (hsql : Sql.recursion.Defines sql sqlEach)
    (hnormal : ¬hollow → formula.IsNormal P)
    (htests : formula.EachTest fun test => (¬hollow → P test) → Clause hollow (sql (.atom test))) :
    Clause hollow (sql formula) := by
  have hand : isWord " AND " = true := isWord_ofList (by decide)
  have hor : isWord " OR " = true := isWord_ofList (by decide)
  induction formula using Formula.induction with
  | const value =>
      rw [hsql.const]
      exact clause_constant value
  | and parts ih =>
      rw [hsql.and]
      exact .of_parts hsql hand (fun hne => (hnormal hne).and_parts.1) fun part hmem =>
        ih part hmem (fun hne => (hnormal hne).and_parts.2 part hmem)
          (Formula.forall_mem_testsEach.1 htests part hmem)
  | or parts ih =>
      rw [hsql.or]
      exact .of_parts hsql hor (fun hne => (hnormal hne).or_parts.1) fun part hmem =>
        ih part hmem (fun hne => (hnormal hne).or_parts.2 part hmem)
          (Formula.forall_mem_testsEach.1 htests part hmem)
  | not inner ih =>
      rw [hsql.not]
      exact (ih (fun hne => (hnormal hne).not_inner) htests).denied
  | atom test =>
      exact htests test (List.mem_singleton_self test) fun hne => (hnormal hne).atom_test

end

/-! ### Tests -/

theorem AttributeTest.clause (test : AttributeTest)
    (h : ¬hollow → test.Lists Membership.HasName) : Clause hollow test.sql := by
  cases test with
  | name test | value test => exact test.clause (.word (isWord_ofList (by decide)))
  | typeIs type => exact .cons (isWord_ofList (by decide)) (.literal _)
  | changed value => exact .cons (isWord_ofList (by decide)) (clause_flag value)
  | nameIn names =>
      exact .oneOf (.word (isWord_ofList (by decide)))
        fun hne => h hne (.names names) List.mem_cons_self

theorem AttributePredicate.clause (predicate : AttributePredicate)
    (h : ¬hollow → predicate.IsFull) : Clause hollow (AttributePredicate.sql predicate) :=
  .of_tests recursion_defines_sql h fun test _ => test.clause

theorem MatchLogic.clause {candidates : List Fragment} (logic : MatchLogic) (targets : DiffTargets)
    (hcandidates : Clause hollow candidates)
    (htargets : ¬hollow → ∀ m ∈ targets.memberships, m.HasName) :
    Clause hollow (logic.sql candidates targets) := by
  have hcounterpart := targets.clause_counterpart htargets
  cases logic with
  | any =>
      exact .existing isWord_attributeRows
        (hcandidates.append (.cons (isWord_ofList (by decide)) hcounterpart))
  | all =>
      refine (hcandidates.existing isWord_attributeRows).append
        (.cons (isWord_ofList (by decide)) ?_)
      exact .existing isWord_attributeRows
        (hcandidates.append (.cons (isWord_ofList (by decide)) hcounterpart))

theorem tests_clause :
    (∀ test : ComponentTest, (¬hollow → test.IsFull) → Clause hollow test.sql) ∧
    ∀ test : LayerTest, (¬hollow → test.IsFull) → Clause hollow test.sql := by
  refine tests_induction (fun test ih h => ?_) (fun test ih h => ?_)
  · cases test with
    | field column test =>
        rw [ComponentTest.sql]
        exact test.clause column.clause_column
    | anyLayer inner =>
        rw [ComponentTest.sql]
        exact .existing (isWord_ofList (by decide))
          (.of_tests LayerPredicate.recursion_defines_sql (fun hne => (h hne).anyLayer)
            (ih inner rfl))
  · cases test with
    | solution column test =>
        rw [LayerTest.sql]
        exact test.clause column.clause_column
    | solutionIn names =>
        rw [LayerTest.sql]
        exact .oneOf (.word (isWord_ofList (by decide))) fun hne => (h hne).solutionIn
    | managed value =>
        rw [LayerTest.sql]
        exact .cons (isWord_ofList (by decide)) (clause_flag value)
    | ordinalAbove bound | ordinalBelow bound =>
        rw [LayerTest.sql]
        exact .cons (isWord_ofList (by decide)) (clause_ordinal bound)
    | anyAttribute inner =>
        rw [LayerTest.sql]
        exact .existing isWord_attributeRows
          (AttributePredicate.clause inner fun hne => (h hne).anyAttribute)
    | differs candidates logic targets =>
        rw [LayerTest.sql]
        exact logic.clause targets
          (AttributePredicate.clause candidates fun hne => (h hne).differs.1)
          fun hne => (h hne).differs.2
    | owner inner =>
        rw [LayerTest.sql]
        exact .of_tests ComponentPredicate.recursion_defines_sql (fun hne => (h hne).owner)
          (ih inner rfl)

theorem ComponentPredicate.clause (predicate : ComponentPredicate)
    (h : ¬hollow → predicate.IsFull) : Clause hollow (ComponentPredicate.sql predicate) :=
  .of_tests recursion_defines_sql h fun test _ => tests_clause.1 test

end Strata
