import Strata.Proofs.Codes
import Strata.Proofs.ConditionTexts
import Strata.Proofs.Literals
import Strata.Proofs.Records

/-!
# Texts tell predicates apart

The text of a condition can be read in one way only (`Condition.text_cancel`). Its beginning tells
what kind of condition it is, as the openings are a code. Then its parts are read one after another,
each up to what comes after it, which can be told as well: what follows a part of a connective tells
how the connective goes on, and what follows a condition in parentheses is a parenthesis.

In one place this is not enough. That all candidates have no counterparts is written as that there
are some, and then that none has a counterpart, without parentheses around the two. The first half
could be a condition by itself. But nothing in a connective begins in the way in which the second
half goes on, so the two are not taken for parts of one (`Ends`).

Predicates that are one condition mean the same. So those that stores are asked for mean the same if
they have one text, whatever filters and lookups they were made of
(`ComponentPredicate.holds_eq_of_render_eq`).
-/

namespace Strata

open Formula (Connective)
open Sql

/-! ## Vocabularies -/

/-- All openings. -/
def Opening.all : List Opening :=
  [.constant true, .constant false, .parenthesis, .negation]
    ++ ([.component .logicalName, .component .displayName, .component .componentType,
      .component .tableName, .layer .name, .layer .publisher, .layer .version, .attributeName,
      .attributeValue] : List Column).map .column
    ++ [.type, .changed, .managed, .above, .below, .layers, .attributes]

theorem Opening.mem_all (opening : Opening) : opening ∈ all := by
  cases opening with
  | constant value => cases value <;> decide
  | column column =>
      cases column with
      | component field | layer field => cases field <;> decide
      | attributeName | attributeValue => decide
  | _ => decide

/-- What the other half of a comparison of all candidates begins with. -/
def otherHalf : List Symbol := word "NOT " ++ Opening.symbols .attributes

/-- What the targets of a comparison are looked for in. -/
def targetRows : List Symbol :=
  word ("EXISTS (SELECT 1 FROM layers t JOIN layer_attributes b ON b.layer_id = t.id "
    ++ "WHERE t.component_id = l.component_id AND ")

-- The kernel takes its time to decode long texts, so they are spelled out before it decides.

theorem attributes_apart :
    ¬Opening.symbols .attributes <+: targetRows ∧ ¬targetRows <+: Opening.symbols .attributes := by
  rw [Opening.symbols, attributeRows, targetRows, word_append, word_append, word_append]
  repeat rw [word_ofList]
  decide +kernel

theorem Opening.pairwise_symbols :
    (otherHalf :: all.map symbols).Pairwise fun first second =>
      ¬first <+: second ∧ ¬second <+: first := by
  simp only [otherHalf, all, List.map_cons, List.map_nil, List.cons_append, List.nil_append,
    symbols, attributeRows, word_append, symbols_fixed, symbols_literal, symbols_nil,
    Sql.constant, lower, Column.sql, ComponentField.column, LayerField.column, coalesced, if_true,
    Bool.false_eq_true, if_false]
  repeat rw [word_ofList]
  decide +kernel

theorem Opening.isCode : IsCode Opening.symbols :=
  isCode_of_pairwise all mem_all (List.pairwise_cons.1 pairwise_symbols).2

/-- No condition begins as the other half of a comparison goes on. -/
theorem Opening.otherHalf_apart (opening : Opening) :
    ¬otherHalf <+: opening.symbols ∧ ¬opening.symbols <+: otherHalf :=
  (List.pairwise_cons.1 pairwise_symbols).1 _ (List.mem_map_of_mem opening.mem_all)

/-- What may follow a part of a connective: another one or the end. -/
def following (connective : Option Connective) : List Symbol :=
  connective.elim (word ")") fun connective => word (separator connective)

theorem isCode_following : IsCode following := by
  refine isCode_of_pairwise [none, some .all, some .any] ?_ ?_
  · rintro (_ | _ | _) <;> simp
  · decide +kernel

/-- How a column may be compared. -/
inductive Relation where
  | equal
  | different
  | like
  | among

/-- What is to be read of a relation. -/
def Relation.symbols : Relation → List Symbol
  | .equal => word " = "
  | .different => word " <> "
  | .like => word " LIKE "
  | .among => word " IN ("

theorem Relation.isCode : IsCode Relation.symbols := by
  refine isCode_of_pairwise [.equal, .different, .like, .among] ?_ ?_
  · rintro (_ | _ | _ | _) <;> simp
  · decide +kernel

/-! ## What comes after a condition -/

/-- Whether a text may come after a condition: it neither goes on with a numeral nor as the other
half of a comparison. -/
structure Ends (x : List Symbol) : Prop where
  numeral : EndsNumeral x
  half : ¬word " AND " ++ otherHalf <+: x

theorem ends_nil : Ends [] where
  numeral := rfl
  half := by decide +kernel

theorem ends_close (x : List Symbol) : Ends (word ")" ++ x) where
  numeral := rfl
  half := by
    rintro ⟨rest, h⟩
    rw [List.append_assoc] at h
    exact word_append_ne (by decide) h

namespace Condition

/-- What a condition begins with. -/
def opening : Condition → Opening
  | .const value => .constant value
  | .joined _ _ _ _ => .parenthesis
  | .not _ => .negation
  | .compare column _ => .column column
  | .member column _ => .column column
  | .hasType _ => .type
  | .changed _ => .changed
  | .managed _ => .managed
  | .ordinalAbove _ => .above
  | .ordinalBelow _ => .below
  | .someLayer _ => .layers
  | .someAttribute _ => .attributes
  | .differs _ _ _ => .attributes

theorem exists_text_eq (condition : Condition) :
    ∃ rest, condition.text = condition.opening.symbols ++ rest := by
  cases condition with
  | const value => exact ⟨[], by rw [text, opening, List.append_nil]⟩
  | _ => exact ⟨_, by rw [text, opening]⟩

end Condition

theorem ends_part (connective : Connective) (part : Condition) (x : List Symbol) :
    Ends (word (separator connective) ++ (part.text ++ x)) where
  numeral := by cases connective <;> rfl
  half := by
    cases connective with
    | all =>
        obtain ⟨rest, hrest⟩ := part.exists_text_eq
        rw [separator, List.prefix_append_right_inj, hrest, List.append_assoc]
        exact not_prefix_append part.opening.otherHalf_apart
    | any =>
        rintro ⟨rest, h⟩
        rw [List.append_assoc] at h
        exact word_append_ne (by decide) h

theorem ends_textEach (connective : Connective) (parts : List Condition) (x : List Symbol) :
    Ends (Condition.textEach connective parts ++ x) := by
  cases parts with
  | nil =>
      rw [Condition.textEach]
      exact ends_close x
  | cons part parts =>
      rw [Condition.textEach, List.append_assoc, List.append_assoc]
      exact ends_part connective part _

/-! ## Tests and comparisons -/

/-- How a test compares a column. -/
def TextTest.relation : TextTest → Relation
  | .equals _ => .equal
  | .notEquals _ => .different
  | .like _ => .like

theorem TextTest.exists_rest_eq (test : TextTest) :
    ∃ tail, test.rest = test.relation.symbols ++ tail := by
  cases test <;> exact ⟨_, by rw [rest, relation, Relation.symbols]⟩

section

variable {x y candidates : List Symbol}

theorem lower_literal_cancel {value other : String}
    (h : symbols (lower [.literal value]) ++ x = symbols (lower [.literal other]) ++ y) :
    value = other ∧ x = y := by
  simp only [lower, symbols_append, symbols_fixed, symbols_nil, List.append_nil,
    List.append_assoc, List.append_cancel_left_eq] at h
  obtain ⟨hvalue, hrest⟩ := literal_cancel h
  exact ⟨hvalue, List.append_cancel_left hrest⟩

theorem TextTest.rest_cancel {test other : TextTest} (h : test.rest ++ x = other.rest ++ y) :
    test = other ∧ x = y := by
  obtain ⟨tail, htail⟩ := test.exists_rest_eq
  obtain ⟨tail', htail'⟩ := other.exists_rest_eq
  have hrelation : test.relation = other.relation := by
    rw [htail, htail', List.append_assoc, List.append_assoc] at h
    exact (Relation.isCode.cancel h).1
  cases test with
  | equals value | notEquals value =>
      cases other <;> cases hrelation
      rw [rest, rest, List.append_assoc, List.append_assoc] at h
      obtain ⟨rfl, hrest⟩ := lower_literal_cancel (List.append_cancel_left h)
      exact ⟨rfl, hrest⟩
  | like pattern =>
      cases other <;> cases hrelation
      rw [rest, rest, List.append_assoc, List.append_assoc, List.append_assoc,
        List.append_assoc] at h
      obtain ⟨rfl, hrest⟩ := lower_literal_cancel (List.append_cancel_left h)
      exact ⟨rfl, List.append_cancel_left hrest⟩

theorem TextTest.rest_ne_among (test : TextTest) : test.rest ++ x ≠ word " IN (" ++ y := by
  obtain ⟨tail, htail⟩ := test.exists_rest_eq
  intro h
  rw [htail, List.append_assoc] at h
  have hrelation := (Relation.isCode.cancel (l := .among) h).1
  cases test <;> cases hrelation

/-- What is to be read of the targets of a comparison. -/
def DiffTargets.text : DiffTargets → List Symbol
  | .lowerOrdinal => word "t.ordinal < l.ordinal"
  | .solutions names =>
    word "t.ordinal <> l.ordinal AND " ++ (symbols (lower [.fixed "t.solution_name"])
      ++ (word " IN (" ++ listedNames names))

theorem DiffTargets.symbols_sql (targets : DiffTargets) : symbols targets.sql = targets.text := by
  cases targets with
  | lowerOrdinal => rfl
  | solutions names =>
      rw [text, sql, ← symbols_literals, oneOf, symbols_fixed, symbols_append, symbols_append,
        symbols_fixed, symbols_fixed, symbols_nil, List.append_nil, List.append_assoc,
        List.append_assoc]

theorem DiffTargets.symbols_counterpart (targets : DiffTargets) :
    symbols targets.counterpart = targetRows ++ (targets.text
      ++ word " AND LOWER(b.name) = LOWER(a.name) AND b.content_hash = a.content_hash)") := by
  rw [counterpart, symbols_append, symbols_fixed, symbols_fixed, symbols_nil, List.append_nil,
    List.append_assoc, symbols_sql, targetRows]

theorem DiffTargets.text_cancel {targets others : DiffTargets}
    (h : targets.text ++ x = others.text ++ y) : targets = others ∧ x = y := by
  cases targets with
  | lowerOrdinal =>
      cases others with
      | lowerOrdinal => exact ⟨rfl, List.append_cancel_left h⟩
      | solutions others =>
          rw [text, text, List.append_assoc] at h
          exact absurd h (word_append_ne (by decide))
  | solutions names =>
      cases others with
      | lowerOrdinal =>
          rw [text, text, List.append_assoc] at h
          exact absurd h (word_append_ne (by decide))
      | solutions others =>
          simp only [text, List.append_assoc, List.append_cancel_left_eq] at h
          obtain ⟨rfl, hrest⟩ := listedNames_cancel h
          exact ⟨rfl, hrest⟩

theorem DiffTargets.counterpart_cancel {targets others : DiffTargets}
    (h : symbols targets.counterpart ++ x = symbols others.counterpart ++ y) :
    targets = others ∧ x = y := by
  simp only [symbols_counterpart, List.append_assoc, List.append_cancel_left_eq] at h
  obtain ⟨rfl, hrest⟩ := text_cancel h
  exact ⟨rfl, List.append_cancel_left hrest⟩

theorem word_and_not : word " AND NOT " = word " AND " ++ word "NOT " := by decide +kernel

/-- Behind candidates in parentheses it can be told that they have come to an end. -/
theorem MatchLogic.ends_rest (logic : MatchLogic) (targets : DiffTargets) :
    Ends (logic.rest candidates targets ++ x) := by
  cases logic with
  | any =>
      rw [rest, targets.symbols_counterpart, word_and_not]
      refine ⟨rfl, ?_⟩
      simp only [otherHalf, List.append_assoc, List.prefix_append_right_inj]
      exact not_prefix_append attributes_apart
  | all =>
      rw [rest, List.append_assoc]
      exact ends_close _

theorem MatchLogic.rest_cancel {logic other : MatchLogic} {targets others : DiffTargets}
    (h : logic.rest candidates targets ++ x = other.rest candidates others ++ y) :
    logic = other ∧ targets = others ∧ x = y := by
  cases logic <;> cases other <;> rw [rest, rest] at h <;>
    simp only [List.append_assoc, List.append_cancel_left_eq] at h
  case any.any | all.all =>
    obtain ⟨htargets, hrest⟩ := DiffTargets.counterpart_cancel h
    exact ⟨rfl, htargets, List.append_cancel_left hrest⟩
  case any.all | all.any => exact absurd h (word_append_ne (by decide))

/-- Candidates that only have to be there are not taken for the first half of a comparison. -/
theorem MatchLogic.rest_ne_close {logic : MatchLogic} {targets : DiffTargets} (hx : Ends x) :
    word ")" ++ x ≠ logic.rest candidates targets ++ y := by
  intro h
  cases logic <;> rw [rest] at h <;>
    simp only [List.append_assoc, List.append_cancel_left_eq] at h
  case any => exact word_append_ne (by decide) h
  case all =>
    rw [word_and_not, List.append_assoc, ← List.append_assoc (word "NOT "), ← otherHalf,
      ← List.append_assoc] at h
    exact hx.half ⟨_, h.symm⟩

end

theorem Wire.Tag.canonical_injective {α : Type} [Wire.Tag α] [Wire.LawfulTag α] {a b : α}
    (h : Wire.Tag.canonical a = Wire.Tag.canonical b) : a = b := by
  have hparse := Wire.LawfulTag.parse?_canonical a
  rw [h, Wire.LawfulTag.parse?_canonical] at hparse
  exact (Option.some.inj hparse).symm

/-! ## Unique readability -/

namespace Condition

section

variable {condition other : Condition} {x y : List Symbol}

/-- Its beginning tells what kind of condition a text is. -/
theorem opening_eq_of_text (h : condition.text ++ x = other.text ++ y) :
    condition.opening = other.opening := by
  obtain ⟨rest, hrest⟩ := condition.exists_text_eq
  obtain ⟨rest', hrest'⟩ := other.exists_text_eq
  rw [hrest, hrest', List.append_assoc, List.append_assoc] at h
  exact (Opening.isCode.cancel h).1

theorem compare_cancel {column : Column} {test : TextTest}
    (h : (compare column test).text ++ x = other.text ++ y) :
    compare column test = other ∧ x = y := by
  have hopening := opening_eq_of_text h
  cases other <;> cases hopening
  case compare test' =>
    simp only [text, List.append_assoc, List.append_cancel_left_eq] at h
    obtain ⟨rfl, hrest⟩ := TextTest.rest_cancel h
    exact ⟨rfl, hrest⟩
  case member names' =>
    simp only [text, List.append_assoc, List.append_cancel_left_eq] at h
    exact absurd h test.rest_ne_among

theorem member_cancel {column : Column} {names : List String}
    (h : (member column names).text ++ x = other.text ++ y) :
    member column names = other ∧ x = y := by
  have hopening := opening_eq_of_text h
  cases other <;> cases hopening
  case compare test' => exact absurd (compare_cancel h.symm).1 nofun
  case member names' =>
    simp only [text, symbols_literals, List.append_assoc, List.append_cancel_left_eq] at h
    obtain ⟨rfl, hrest⟩ := listedNames_cancel h
    exact ⟨rfl, hrest⟩

end

mutual

theorem text_cancel (condition other : Condition) {x y : List Symbol} (hx : Ends x) (hy : Ends y)
    (h : condition.text ++ x = other.text ++ y) : condition = other ∧ x = y := by
  have hopening := opening_eq_of_text h
  match condition with
  | .const value =>
      cases other with
      | const value' =>
          cases hopening
          exact ⟨rfl, List.append_cancel_left h⟩
      | _ => cases hopening
  | .joined connective first second rest =>
      cases other with
      | joined connective' first' second' rest' =>
          simp only [text, List.append_assoc, List.append_cancel_left_eq] at h
          obtain ⟨hfirst, h⟩ := text_cancel first first' (ends_part ..) (ends_part ..) h
          obtain ⟨hconnective, h⟩ := isCode_following.cancel (k := some connective)
            (l := some connective') h
          obtain ⟨hsecond, h⟩ :=
            text_cancel second second' (ends_textEach ..) (ends_textEach ..) h
          cases hconnective
          obtain ⟨hrest, h⟩ := textEach_cancel connective rest rest' h
          exact ⟨by rw [hfirst, hsecond, hrest], h⟩
      | _ => cases hopening
  | .not inner =>
      cases other with
      | not inner' =>
          simp only [text, List.append_assoc, List.append_cancel_left_eq] at h
          obtain ⟨hinner, h⟩ := text_cancel inner inner' (ends_close _) (ends_close _) h
          exact ⟨by rw [hinner], List.append_cancel_left h⟩
      | _ => cases hopening
  | .compare column test => exact compare_cancel h
  | .member column names => exact member_cancel h
  | .hasType type =>
      cases other with
      | hasType type' =>
          simp only [text, List.append_assoc, List.append_cancel_left_eq] at h
          obtain ⟨htype, hrest⟩ := literal_cancel h
          exact ⟨by rw [Wire.Tag.canonical_injective htype], hrest⟩
      | _ => cases hopening
  | .changed value | .managed value =>
      cases other <;> cases hopening
      simp only [text, List.append_assoc, List.append_cancel_left_eq] at h
      obtain ⟨rfl, hrest⟩ := isCode_flag.cancel h
      exact ⟨rfl, hrest⟩
  | .ordinalAbove bound | .ordinalBelow bound =>
      cases other <;> cases hopening
      simp only [text, List.append_assoc, List.append_cancel_left_eq] at h
      obtain ⟨rfl, hrest⟩ := ordinal_cancel hx.numeral hy.numeral h
      exact ⟨rfl, hrest⟩
  | .someLayer inner =>
      cases other with
      | someLayer inner' =>
          simp only [text, List.append_assoc, List.append_cancel_left_eq] at h
          obtain ⟨hinner, h⟩ := text_cancel inner inner' (ends_close _) (ends_close _) h
          exact ⟨by rw [hinner], List.append_cancel_left h⟩
      | _ => cases hopening
  | .someAttribute inner =>
      cases other with
      | someAttribute inner' =>
          simp only [text, List.append_assoc, List.append_cancel_left_eq] at h
          obtain ⟨hinner, h⟩ := text_cancel inner inner' (ends_close _) (ends_close _) h
          exact ⟨by rw [hinner], List.append_cancel_left h⟩
      | differs candidates logic targets =>
          simp only [text, List.append_assoc, List.append_cancel_left_eq] at h
          obtain ⟨hinner, h⟩ :=
            text_cancel inner candidates (ends_close _) (logic.ends_rest targets) h
          exact absurd h (MatchLogic.rest_ne_close hx)
      | _ => cases hopening
  | .differs candidates logic targets =>
      cases other with
      | someAttribute inner =>
          simp only [text, List.append_assoc, List.append_cancel_left_eq] at h
          obtain ⟨hinner, h⟩ :=
            text_cancel candidates inner (logic.ends_rest targets) (ends_close _) h
          exact absurd h.symm (MatchLogic.rest_ne_close hy)
      | differs candidates' logic' targets' =>
          simp only [text, List.append_assoc, List.append_cancel_left_eq] at h
          obtain ⟨hinner, h⟩ := text_cancel candidates candidates' (logic.ends_rest targets)
            (logic'.ends_rest targets') h
          rw [hinner] at h
          obtain ⟨hlogic, htargets, h⟩ := MatchLogic.rest_cancel h
          exact ⟨by rw [hinner, hlogic, htargets], h⟩
      | _ => cases hopening

theorem textEach_cancel (connective : Connective) (parts others : List Condition)
    {x y : List Symbol} (h : textEach connective parts ++ x = textEach connective others ++ y) :
    parts = others ∧ x = y := by
  match parts, others with
  | [], [] => exact ⟨rfl, List.append_cancel_left h⟩
  | [], other :: others =>
      simp only [textEach, List.append_assoc] at h
      cases (isCode_following.cancel (k := none) (l := some connective) h).1
  | part :: parts, [] =>
      simp only [textEach, List.append_assoc] at h
      cases (isCode_following.cancel (k := some connective) (l := none) h).1
  | part :: parts, other :: others =>
      simp only [textEach, List.append_assoc, List.append_cancel_left_eq] at h
      obtain ⟨hpart, h⟩ := text_cancel part other (ends_textEach ..) (ends_textEach ..) h
      obtain ⟨hparts, h⟩ := textEach_cancel connective parts others h
      exact ⟨by rw [hpart, hparts], h⟩

end

end Condition

/-! ## The text of a predicate -/

/-- What is asked of a store: the predicate of a filter, with whatever lookups, or what a plan ends
up asking for. -/
inductive ComponentPredicate.IsCompiled : ComponentPredicate → Prop
  | predicate (pushdown : Pushdown) (filter : Option Filter) :
      ComponentPredicate.IsCompiled (pushdown.predicate filter)
  | final (config final : Config) (filter : Option Filter) (lookups : Lookups) :
      ComponentPredicate.IsCompiled ((Plan.make config filter).finalPredicate final lookups)

namespace ComponentPredicate

variable {first second : ComponentPredicate}

theorem IsCompiled.isNormal (h : first.IsCompiled) : first.IsNormal := by
  cases h with
  | predicate pushdown filter => exact pushdown.predicate_isNormal filter
  | final config final filter lookups =>
      rw [Plan.finalPredicate_make]
      exact Pushdown.predicate_isNormal _ _

/-- Predicates in normal form with one text are one condition. -/
theorem condition_eq_of_render_eq (hfirst : first.IsNormal) (hsecond : second.IsNormal)
    (h : render (sql first) = render (sql second)) : condition first = condition second := by
  have hsymbols : symbols (sql first) = symbols (sql second) := by
    have hread := congrArg readText h
    rw [readText_sql, readText_sql] at hread
    exact Option.some.inj hread
  refine (Condition.text_cancel _ _ ends_nil ends_nil ?_).1
  rw [text_condition hfirst, text_condition hsecond, hsymbols]

/-- What a condition means does not depend on the level on which it stands. -/
theorem holds_eq_of_condition_eq (h : condition first = condition second)
    (component : Component) : holds component first = holds component second := by
  -- nothing in a predicate about a component is about a layer that is not introduced in it
  let rows : Rows := {
    component, layer := { solution := "", ordinal := 0 },
    attr := { name := "", value := "", type := .string, hash := "" } }
  rw [holds_eq_eval, holds_eq_eval, ← holds_condition rows, ← holds_condition rows, h]

/-- Predicates that stores are asked for and that have one text are true of the same components. -/
theorem holds_eq_of_render_eq (hfirst : first.IsCompiled) (hsecond : second.IsCompiled)
    (h : render (sql first) = render (sql second)) (component : Component) :
    holds component first = holds component second :=
  holds_eq_of_condition_eq
    (condition_eq_of_render_eq hfirst.isNormal hsecond.isNormal h) component

/-- In the scope of a layer, a sequence is one predicate about the component, and a conjunction is
one of two such predicates. Their texts do not show it. -/
theorem holds_eq_of_render_eq_of_sequence :
    let ordered : Filter := .anyLayer (some (.sequence .flexible [.literal "A", .literal "B"]))
    let present : Filter :=
      .anyLayer (some (.all [.anyLayer (some (.has "A")), .anyLayer (some (.has "B"))]))
    let pushdown : Pushdown := { excluded := .standard }
    let first := pushdown.predicate (some ordered)
    let second := pushdown.predicate (some present)
    first.IsCompiled ∧ second.IsCompiled ∧ first ≠ second ∧
      render (sql first) = render (sql second) ∧
      ∀ component, holds component first = holds component second := by
  intro ordered present pushdown first second
  have hfirst : first.IsCompiled := .predicate pushdown (some ordered)
  have hsecond : second.IsCompiled := .predicate pushdown (some present)
  have hrender : render (sql first) = render (sql second) := congrArg render rfl
  have hne : first ≠ second := by
    intro h
    injection h with h
    injection h with h
    cases h
  exact ⟨hfirst, hsecond, hne, hrender, holds_eq_of_render_eq hfirst hsecond hrender⟩

end ComponentPredicate

end Strata
