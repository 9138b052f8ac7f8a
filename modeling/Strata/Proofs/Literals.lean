import Strata.Proofs.Clauses

/-!
# Literals in the text of a predicate

Users put texts of their own into filters, and these texts get into SQL. They get no further than
literals: someone who reads the text of a predicate by nothing but the rule for quotes finds
literals whose values are what is quoted in the predicate (`ComponentPredicate.quotations`), in
between a text in which parentheses balance. This text does not depend on the quoted texts: it is
the same for all predicates that only differ in them (`ComponentPredicate.blank`).

Not all literals are texts of users. Columns that may be null are read as empty texts, and patterns
come with the character that escapes others. Nor is a text always quoted once: the candidates of a
comparison are written twice if all of them have to differ.
-/

namespace Strata

open Sql

/-! ## What is quoted -/

/-- What a literal in the text of a predicate stands for. -/
inductive Quotation where
  /-- A text of the predicate, or the tag of a type. -/
  | own (text : String)
  /-- What a column counts as that may be null. -/
  | empty
  /-- The character that escapes others in a pattern. -/
  | escape
  deriving DecidableEq, Repr

/-- The value of the literal. -/
def Quotation.text : Quotation → String
  | .own text => text
  | .empty => ""
  | .escape => String.singleton Like.escape

/-- What is quoted in a test of a column. -/
def TextTest.quotations (column : List Quotation) : TextTest → List Quotation
  | .equals value => column ++ [.own value]
  | .notEquals value => column ++ [.own value]
  | .like pattern => column ++ [.own pattern, .escape]

/-- What is quoted in the column of a component's field. -/
def ComponentField.quotations : ComponentField → List Quotation
  | .logicalName => []
  | .displayName => [.empty]
  | .componentType => []
  | .tableName => [.empty]

def LayerField.quotations : LayerField → List Quotation
  | .name => []
  | .publisher => [.empty]
  | .version => [.empty]

def AttributeTest.quotations : AttributeTest → List Quotation
  | .name test => test.quotations []
  | .value test => test.quotations []
  | .typeIs type => [.own (Wire.Tag.canonical type)]
  | .changed _ => []
  | .nameIn names => names.map .own

mutual

def AttributePredicate.quotations : Formula AttributeTest → List Quotation
  | .const _ => []
  | .and parts => AttributePredicate.quotationsEach parts
  | .or parts => AttributePredicate.quotationsEach parts
  | .not inner => AttributePredicate.quotations inner
  | .atom test => test.quotations

def AttributePredicate.quotationsEach : List (Formula AttributeTest) → List Quotation
  | [] => []
  | part :: rest =>
    AttributePredicate.quotations part ++ AttributePredicate.quotationsEach rest

end

/-- What is quoted in the targets of a comparison. -/
def DiffTargets.quotations : DiffTargets → List Quotation
  | .lowerOrdinal => []
  | .solutions names => names.map .own

/-- What is quoted in a comparison. If all candidates have to differ, they are written twice. -/
def MatchLogic.quotations (logic : MatchLogic) (candidates : List Quotation)
    (targets : DiffTargets) : List Quotation :=
  match logic with
  | .any => candidates ++ targets.quotations
  | .all => candidates ++ candidates ++ targets.quotations

mutual

def ComponentTest.quotations : ComponentTest → List Quotation
  | .field column test => test.quotations column.quotations
  | .anyLayer inner => LayerPredicate.quotations inner

def ComponentPredicate.quotations : Formula ComponentTest → List Quotation
  | .const _ => []
  | .and parts => ComponentPredicate.quotationsEach parts
  | .or parts => ComponentPredicate.quotationsEach parts
  | .not inner => ComponentPredicate.quotations inner
  | .atom test => test.quotations

def ComponentPredicate.quotationsEach : List (Formula ComponentTest) → List Quotation
  | [] => []
  | part :: rest =>
    ComponentPredicate.quotations part ++ ComponentPredicate.quotationsEach rest

def LayerTest.quotations : LayerTest → List Quotation
  | .solution column test => test.quotations column.quotations
  | .solutionIn names => names.map .own
  | .managed _ => []
  | .ordinalAbove _ => []
  | .ordinalBelow _ => []
  | .anyAttribute inner => AttributePredicate.quotations inner
  | .differs candidates logic targets =>
    logic.quotations (AttributePredicate.quotations candidates) targets
  | .owner inner => ComponentPredicate.quotations inner

def LayerPredicate.quotations : Formula LayerTest → List Quotation
  | .const _ => []
  | .and parts => LayerPredicate.quotationsEach parts
  | .or parts => LayerPredicate.quotationsEach parts
  | .not inner => LayerPredicate.quotations inner
  | .atom test => test.quotations

def LayerPredicate.quotationsEach : List (Formula LayerTest) → List Quotation
  | [] => []
  | part :: rest => LayerPredicate.quotations part ++ LayerPredicate.quotationsEach rest

end

namespace Sql

/-! ## Literals of fragments -/

/-- The values of the literals among fragments. -/
def quoted (fragments : List Fragment) : List String := values (symbols fragments)

@[simp] theorem quoted_nil : quoted [] = [] := rfl

@[simp] theorem quoted_fixed (text : String) (rest : List Fragment) :
    quoted (.fixed text :: rest) = quoted rest := by
  rw [quoted, symbols_cons, values_append, Fragment.symbols, values_plain]
  rfl

@[simp] theorem quoted_literal (value : String) (rest : List Fragment) :
    quoted (.literal value :: rest) = value :: quoted rest := rfl

@[simp] theorem quoted_append (first second : List Fragment) :
    quoted (first ++ second) = quoted first ++ quoted second := by
  rw [quoted, symbols_append, values_append]
  rfl

@[simp] theorem quoted_separated (separator : String) (parts : List (List Fragment)) :
    quoted (separated separator parts) = parts.flatMap quoted := by
  induction parts with
  | nil => rfl
  | cons part parts ih =>
      cases parts with
      | nil => simp [separated]
      | cons next parts =>
          rw [separated, quoted_append, quoted_fixed, ih, List.flatMap_cons (x := part)]
          exact List.cons_ne_nil _ _

@[simp] theorem quoted_connected (connective : String) (parts : List (List Fragment)) :
    quoted (connected connective parts) = parts.flatMap quoted := by
  simp [connected]

@[simp] theorem quoted_literals (values : List String) : quoted (literals values) = values := by
  rw [literals, quoted_separated, List.flatMap_map]
  exact List.flatMap_singleton' values

@[simp] theorem quoted_lower (fragments : List Fragment) :
    quoted (lower fragments) = quoted fragments := by
  simp [lower]

@[simp] theorem quoted_existing (rows : String) (condition : List Fragment) :
    quoted (existing rows condition) = quoted condition := by
  simp [existing]

@[simp] theorem quoted_oneOf (column : List Fragment) (values : List String) :
    quoted (oneOf column values) = quoted column ++ values := by
  simp [oneOf]

@[simp] theorem quoted_constant (value : Bool) : quoted (constant value) = [] := by
  simp [constant]

end Sql

/-! ## The literals of a predicate -/

@[simp] theorem ComponentField.quoted_column (field : ComponentField) :
    quoted field.column = field.quotations.map Quotation.text := by
  cases field <;> simp [column, quotations, coalesced, Quotation.text]

@[simp] theorem LayerField.quoted_column (field : LayerField) :
    quoted field.column = field.quotations.map Quotation.text := by
  cases field <;> simp [column, quotations, coalesced, Quotation.text]

theorem TextTest.quoted_sql {column : List Fragment} {quotations : List Quotation}
    (h : quoted column = quotations.map Quotation.text) (test : TextTest) :
    quoted (test.sql column) = (test.quotations quotations).map Quotation.text := by
  cases test <;> simp [sql, TextTest.quotations, h, Quotation.text]

theorem map_text_own (names : List String) :
    (names.map Quotation.own).map Quotation.text = names := by
  rw [List.map_map]
  exact List.map_id names

theorem AttributeTest.quoted_sql (test : AttributeTest) :
    quoted test.sql = test.quotations.map Quotation.text := by
  cases test with
  | name test | value test => exact test.quoted_sql (quoted_fixed _ _)
  | typeIs type => simp [sql, quotations, Quotation.text]
  | changed value => simp [sql, quotations, flag]
  | nameIn names => rw [sql, quoted_oneOf, quotations, map_text_own, quoted_fixed]; rfl

open Formula.Recursion (collect Carries)

/-- The literals in the text of a connective are those of its parts. -/
theorem carries_quoted :
    Carries (fun fragments quotations => quoted fragments = quotations.map Quotation.text)
      (fun parts quotations => parts.flatMap quoted = quotations.map Quotation.text)
      Sql.recursion (collect Quotation) where
  const := quoted_constant
  and h := (quoted_connected _ _).trans h
  or h := (quoted_connected _ _).trans h
  not h := by
    rw [Sql.recursion, quoted_append, quoted_fixed, quoted_fixed, quoted_nil, List.append_nil]
    exact h
  nil := rfl
  cons h hrest := by
    rw [Sql.recursion, List.flatMap_cons, h, hrest]
    exact List.map_append.symm

theorem AttributePredicate.collect_defines_quotations :
    (collect Quotation).Defines AttributePredicate.quotations AttributePredicate.quotationsEach :=
  ⟨fun _ => rfl, fun _ => rfl, fun _ => rfl, fun _ => rfl, rfl, fun _ _ => rfl⟩

theorem ComponentPredicate.collect_defines_quotations :
    (collect Quotation).Defines ComponentPredicate.quotations ComponentPredicate.quotationsEach :=
  ⟨fun _ => rfl, fun _ => rfl, fun _ => rfl, fun _ => rfl, rfl, fun _ _ => rfl⟩

theorem LayerPredicate.collect_defines_quotations :
    (collect Quotation).Defines LayerPredicate.quotations LayerPredicate.quotationsEach :=
  ⟨fun _ => rfl, fun _ => rfl, fun _ => rfl, fun _ => rfl, rfl, fun _ _ => rfl⟩

theorem AttributePredicate.quoted_sql (predicate : AttributePredicate) :
    quoted (AttributePredicate.sql predicate)
      = (AttributePredicate.quotations predicate).map Quotation.text :=
  carries_quoted.relates recursion_defines_sql collect_defines_quotations
    fun test _ => test.quoted_sql

theorem DiffTargets.quoted_counterpart (targets : DiffTargets) :
    quoted targets.counterpart = targets.quotations.map Quotation.text := by
  cases targets with
  | lowerOrdinal => simp [counterpart, sql, quotations]
  | solutions names => rw [quotations, map_text_own]; simp [counterpart, sql]

theorem MatchLogic.quoted_sql {fragments : List Fragment} {candidates : List Quotation}
    (h : quoted fragments = candidates.map Quotation.text) (logic : MatchLogic)
    (targets : DiffTargets) :
    quoted (logic.sql fragments targets)
      = (logic.quotations candidates targets).map Quotation.text := by
  have hcounterpart := targets.quoted_counterpart
  cases logic <;> simp [sql, quotations, h, hcounterpart]

theorem tests_quoted_sql :
    (∀ test : ComponentTest, quoted test.sql = test.quotations.map Quotation.text) ∧
    ∀ test : LayerTest, quoted test.sql = test.quotations.map Quotation.text := by
  refine tests_induction (fun test ih => ?_) (fun test ih => ?_)
  · cases test with
    | field column test =>
        rw [ComponentTest.sql, ComponentTest.quotations]
        exact test.quoted_sql column.quoted_column
    | anyLayer inner =>
        rw [ComponentTest.sql, ComponentTest.quotations, quoted_existing]
        exact carries_quoted.relates LayerPredicate.recursion_defines_sql
          LayerPredicate.collect_defines_quotations (ih inner rfl)
  · cases test with
    | solution column test =>
        rw [LayerTest.sql, LayerTest.quotations]
        exact test.quoted_sql column.quoted_column
    | solutionIn names =>
        rw [LayerTest.sql, LayerTest.quotations, quoted_oneOf, map_text_own, quoted_fixed]
        rfl
    | managed _ | ordinalAbove _ | ordinalBelow _ =>
        rw [LayerTest.sql, LayerTest.quotations, quoted_fixed]
        exact quoted_fixed _ _
    | anyAttribute inner =>
        rw [LayerTest.sql, LayerTest.quotations, quoted_existing]
        exact AttributePredicate.quoted_sql inner
    | differs candidates logic targets =>
        rw [LayerTest.sql, LayerTest.quotations]
        exact logic.quoted_sql (AttributePredicate.quoted_sql candidates) targets
    | owner inner =>
        rw [LayerTest.sql, LayerTest.quotations]
        exact carries_quoted.relates ComponentPredicate.recursion_defines_sql
          ComponentPredicate.collect_defines_quotations (ih inner rfl)

theorem ComponentPredicate.quoted_sql (predicate : ComponentPredicate) :
    quoted (ComponentPredicate.sql predicate)
      = (ComponentPredicate.quotations predicate).map Quotation.text :=
  carries_quoted.relates recursion_defines_sql collect_defines_quotations
    fun test _ => tests_quoted_sql.1 test

/-! ## Predicates but for their texts -/

/-- A test of a column with nothing in its text. -/
def TextTest.blank : TextTest → TextTest
  | .equals _ => .equals ""
  | .notEquals _ => .notEquals ""
  | .like _ => .like ""

/-- As many names with nothing in them. -/
def blankNames (names : List String) : List String := names.map fun _ => ""

/-- A test of an attribute with nothing in its texts, and with one and the same type. -/
def AttributeTest.blank : AttributeTest → AttributeTest
  | .name test => .name test.blank
  | .value test => .value test.blank
  | .typeIs _ => .typeIs .string
  | .changed expected => .changed expected
  | .nameIn names => .nameIn (blankNames names)

mutual

def AttributePredicate.blank : Formula AttributeTest → Formula AttributeTest
  | .const value => .const value
  | .and parts => .and (AttributePredicate.blankEach parts)
  | .or parts => .or (AttributePredicate.blankEach parts)
  | .not inner => .not (AttributePredicate.blank inner)
  | .atom test => .atom test.blank

def AttributePredicate.blankEach : List (Formula AttributeTest) → List (Formula AttributeTest)
  | [] => []
  | part :: rest => AttributePredicate.blank part :: AttributePredicate.blankEach rest

end

def DiffTargets.blank : DiffTargets → DiffTargets
  | .lowerOrdinal => .lowerOrdinal
  | .solutions names => .solutions (blankNames names)

mutual

def ComponentTest.blank : ComponentTest → ComponentTest
  | .field column test => .field column test.blank
  | .anyLayer inner => .anyLayer (LayerPredicate.blank inner)

def ComponentPredicate.blank : Formula ComponentTest → Formula ComponentTest
  | .const value => .const value
  | .and parts => .and (ComponentPredicate.blankEach parts)
  | .or parts => .or (ComponentPredicate.blankEach parts)
  | .not inner => .not (ComponentPredicate.blank inner)
  | .atom test => .atom test.blank

def ComponentPredicate.blankEach : List (Formula ComponentTest) → List (Formula ComponentTest)
  | [] => []
  | part :: rest => ComponentPredicate.blank part :: ComponentPredicate.blankEach rest

def LayerTest.blank : LayerTest → LayerTest
  | .solution column test => .solution column test.blank
  | .solutionIn names => .solutionIn (blankNames names)
  | .managed value => .managed value
  | .ordinalAbove bound => .ordinalAbove bound
  | .ordinalBelow bound => .ordinalBelow bound
  | .anyAttribute inner => .anyAttribute (AttributePredicate.blank inner)
  | .differs candidates logic targets =>
    .differs (AttributePredicate.blank candidates) logic targets.blank
  | .owner inner => .owner (ComponentPredicate.blank inner)

def LayerPredicate.blank : Formula LayerTest → Formula LayerTest
  | .const value => .const value
  | .and parts => .and (LayerPredicate.blankEach parts)
  | .or parts => .or (LayerPredicate.blankEach parts)
  | .not inner => .not (LayerPredicate.blank inner)
  | .atom test => .atom test.blank

def LayerPredicate.blankEach : List (Formula LayerTest) → List (Formula LayerTest)
  | [] => []
  | part :: rest => LayerPredicate.blank part :: LayerPredicate.blankEach rest

end

namespace Sql

/-- A fragment regardless of the value of a literal. -/
def Fragment.blank : Fragment → Fragment
  | .fixed text => .fixed text
  | .literal _ => .literal ""

/-- Fragments regardless of the values of literals. -/
def blanked (fragments : List Fragment) : List Fragment := fragments.map Fragment.blank

theorem symbols_blanked (fragments : List Fragment) :
    symbols (blanked fragments) = (symbols fragments).map Symbol.blank := by
  induction fragments with
  | nil => rfl
  | cons fragment fragments ih =>
      rw [symbols_cons, List.map_append, ← ih]
      cases fragment with
      | fixed text => rw [Fragment.symbols, map_blank_plain]; rfl
      | literal value => rfl

@[simp] theorem blanked_nil : blanked [] = [] := rfl

@[simp] theorem blanked_fixed (text : String) (rest : List Fragment) :
    blanked (.fixed text :: rest) = .fixed text :: blanked rest := rfl

@[simp] theorem blanked_literal (value : String) (rest : List Fragment) :
    blanked (.literal value :: rest) = .literal "" :: blanked rest := rfl

@[simp] theorem blanked_append (first second : List Fragment) :
    blanked (first ++ second) = blanked first ++ blanked second := List.map_append

theorem blanked_separated (separator : String) (parts : List (List Fragment)) :
    blanked (separated separator parts) = separated separator (parts.map blanked) := by
  induction parts with
  | nil => rfl
  | cons part parts ih =>
      cases parts with
      | nil => rfl
      | cons next parts =>
          rw [separated, blanked_append, blanked_fixed, ih]
          · rfl
          · exact List.cons_ne_nil _ _

theorem blanked_connected (connective : String) (parts : List (List Fragment)) :
    blanked (connected connective parts) = connected connective (parts.map blanked) := by
  simp [connected, blanked_separated]

theorem blanked_denied (fragments : List Fragment) :
    blanked (.fixed "NOT (" :: fragments ++ [.fixed ")"])
      = .fixed "NOT (" :: blanked fragments ++ [.fixed ")"] := by
  simp

theorem blanked_literals (values : List String) :
    blanked (literals (blankNames values)) = blanked (literals values) := by
  simp only [literals, blanked_separated, blankNames, List.map_map]
  rfl

theorem blanked_existing (rows : String) (condition : List Fragment) :
    blanked (existing rows condition) = existing rows (blanked condition) := by
  simp [existing]

theorem blanked_oneOf (column : List Fragment) (values : List String) :
    blanked (oneOf column (blankNames values)) = blanked (oneOf column values) := by
  simp [oneOf, blanked_literals]

end Sql

/-! ## Where texts do not show -/

theorem TextTest.blanked_sql (column : List Fragment) (test : TextTest) :
    blanked (test.blank.sql column) = blanked (test.sql column) := by
  cases test <;> simp [blank, sql, lower]

theorem AttributeTest.blanked_sql (test : AttributeTest) :
    blanked test.blank.sql = blanked test.sql := by
  cases test with
  | name test | value test => exact test.blanked_sql _
  | typeIs type | changed value => rfl
  | nameIn names => exact blanked_oneOf _ names

/-- The text of a connective shows literals only where the texts of its parts do. -/
theorem carries_blanked :
    Carries (fun first second => blanked first = blanked second)
      (fun first second => first.map blanked = second.map blanked)
      Sql.recursion Sql.recursion where
  const _ := rfl
  and h := by
    rw [Sql.recursion, blanked_connected, blanked_connected, h]
  or h := by
    rw [Sql.recursion, blanked_connected, blanked_connected, h]
  not h := by
    rw [Sql.recursion, blanked_denied, blanked_denied, h]
  nil := rfl
  cons h hrest := by
    rw [Sql.recursion, List.map_cons, List.map_cons, h, hrest]

theorem AttributePredicate.recursion_defines_sql_blank :
    Sql.recursion.Defines
      (fun predicate => AttributePredicate.sql (AttributePredicate.blank predicate))
      (fun parts => AttributePredicate.sqlEach (AttributePredicate.blankEach parts)) :=
  ⟨fun _ => rfl, fun _ => rfl, fun _ => rfl, fun _ => rfl, rfl, fun _ _ => rfl⟩

theorem ComponentPredicate.recursion_defines_sql_blank :
    Sql.recursion.Defines
      (fun predicate => ComponentPredicate.sql (ComponentPredicate.blank predicate))
      (fun parts => ComponentPredicate.sqlEach (ComponentPredicate.blankEach parts)) :=
  ⟨fun _ => rfl, fun _ => rfl, fun _ => rfl, fun _ => rfl, rfl, fun _ _ => rfl⟩

theorem LayerPredicate.recursion_defines_sql_blank :
    Sql.recursion.Defines
      (fun predicate => LayerPredicate.sql (LayerPredicate.blank predicate))
      (fun parts => LayerPredicate.sqlEach (LayerPredicate.blankEach parts)) :=
  ⟨fun _ => rfl, fun _ => rfl, fun _ => rfl, fun _ => rfl, rfl, fun _ _ => rfl⟩

theorem AttributePredicate.blanked_sql (predicate : AttributePredicate) :
    blanked (AttributePredicate.sql (AttributePredicate.blank predicate))
      = blanked (AttributePredicate.sql predicate) :=
  carries_blanked.relates recursion_defines_sql_blank recursion_defines_sql
    fun test _ => test.blanked_sql

theorem DiffTargets.blanked_counterpart (targets : DiffTargets) :
    blanked targets.blank.counterpart = blanked targets.counterpart := by
  cases targets with
  | lowerOrdinal => rfl
  | solutions names => simp [blank, counterpart, sql, blanked_oneOf]

theorem MatchLogic.blanked_sql {first second : List Fragment} (h : blanked first = blanked second)
    (logic : MatchLogic) (targets : DiffTargets) :
    blanked (logic.sql first targets.blank) = blanked (logic.sql second targets) := by
  have hcounterpart := targets.blanked_counterpart
  cases logic <;> simp [sql, blanked_existing, h, hcounterpart]

theorem tests_blanked_sql :
    (∀ test : ComponentTest, blanked test.blank.sql = blanked test.sql) ∧
    ∀ test : LayerTest, blanked test.blank.sql = blanked test.sql := by
  refine tests_induction (fun test ih => ?_) (fun test ih => ?_)
  · cases test with
    | field column test =>
        rw [ComponentTest.blank, ComponentTest.sql, ComponentTest.sql]
        exact test.blanked_sql column.column
    | anyLayer inner =>
        have hinner := carries_blanked.relates LayerPredicate.recursion_defines_sql_blank
          LayerPredicate.recursion_defines_sql (ih inner rfl)
        rw [ComponentTest.blank, ComponentTest.sql, ComponentTest.sql, blanked_existing,
          blanked_existing, hinner]
  · cases test with
    | solution column test =>
        rw [LayerTest.blank, LayerTest.sql, LayerTest.sql]
        exact test.blanked_sql column.column
    | solutionIn names =>
        rw [LayerTest.blank, LayerTest.sql, LayerTest.sql]
        exact blanked_oneOf _ names
    | managed _ | ordinalAbove _ | ordinalBelow _ => rw [LayerTest.blank]
    | anyAttribute inner =>
        rw [LayerTest.blank, LayerTest.sql, LayerTest.sql, blanked_existing, blanked_existing,
          AttributePredicate.blanked_sql inner]
    | differs candidates logic targets =>
        rw [LayerTest.blank, LayerTest.sql, LayerTest.sql]
        exact logic.blanked_sql (AttributePredicate.blanked_sql candidates) targets
    | owner inner =>
        rw [LayerTest.blank, LayerTest.sql, LayerTest.sql]
        exact carries_blanked.relates ComponentPredicate.recursion_defines_sql_blank
          ComponentPredicate.recursion_defines_sql (ih inner rfl)

theorem ComponentPredicate.blanked_sql (predicate : ComponentPredicate) :
    blanked (ComponentPredicate.sql (ComponentPredicate.blank predicate))
      = blanked (ComponentPredicate.sql predicate) :=
  carries_blanked.relates recursion_defines_sql_blank recursion_defines_sql
    fun test _ => tests_blanked_sql.1 test

/-! ## Reading the text of a predicate -/

theorem ComponentPredicate.readText_sql (predicate : ComponentPredicate) :
    readText (render (ComponentPredicate.sql predicate))
      = some (symbols (ComponentPredicate.sql predicate)) :=
  readText_render (ComponentPredicate.clause predicate (absurd trivial ·)).spaced

/-- The text of a predicate, with whatever texts in it, is read as it was meant: it ends outside
literals, its parentheses balance, and its literals are what the predicate quotes, in this order.
Another predicate that is the same but for its texts has the same text outside literals. -/
theorem ComponentPredicate.exists_readText_sql (predicate : ComponentPredicate) :
    ∃ symbols, readText (render (ComponentPredicate.sql predicate)) = some symbols ∧
      depthAfter 0 (outside symbols) = some 0 ∧
      values symbols = (ComponentPredicate.quotations predicate).map Quotation.text ∧
      ∀ other : ComponentPredicate,
        ComponentPredicate.blank other = ComponentPredicate.blank predicate →
          ∃ others, readText (render (ComponentPredicate.sql other)) = some others ∧
            others.map Symbol.blank = symbols.map Symbol.blank := by
  have hclause : Clause True (ComponentPredicate.sql predicate) :=
    ComponentPredicate.clause predicate (absurd trivial ·)
  refine ⟨_, predicate.readText_sql, hclause.isBalanced 0,
    ComponentPredicate.quoted_sql predicate, fun other hother => ⟨_, other.readText_sql, ?_⟩⟩
  rw [← symbols_blanked, ← symbols_blanked, ← ComponentPredicate.blanked_sql other, hother,
    ComponentPredicate.blanked_sql]

/-- A text with quotes and parentheses stays inside its literal. -/
theorem ComponentPredicate.exists_readText_sql_of_quotes :
    let hostile : ComponentPredicate :=
      .atom (.field .displayName (.like "O\x27Brien\x27)) OR (\x27"))
    let harmless : ComponentPredicate := .atom (.field .displayName (.like "Brien"))
    ComponentPredicate.blank harmless = ComponentPredicate.blank hostile ∧
      ∃ symbols, readText (render (ComponentPredicate.sql hostile)) = some symbols ∧
        depthAfter 0 (outside symbols) = some 0 ∧
        values symbols = ["", "O\x27Brien\x27)) OR (\x27", "\\"] ∧
        ∃ others, readText (render (ComponentPredicate.sql harmless)) = some others ∧
          others.map Symbol.blank = symbols.map Symbol.blank := by
  intro hostile harmless
  have hblank : ComponentPredicate.blank harmless = ComponentPredicate.blank hostile := rfl
  obtain ⟨symbols, hread, hdepth, hvalues, hothers⟩ := exists_readText_sql hostile
  refine ⟨hblank, symbols, hread, hdepth, ?_, hothers harmless hblank⟩
  rw [hvalues]
  decide +kernel

end Strata
