import Strata.Predicate.Basic
import Strata.Proofs.Folding

/-!
# A pattern made of an operand asks what the operator asks

An operator becomes a pattern by escaping its operand and putting `%` where any text may stand. The
tokens of such a pattern are those of the operand, one exact character each, and at most a run on
either side. So the matcher has three questions to answer, whether a text equals, begins with or
ends with another, and the search through the ends of the text that a leading run asks for turns the
first into a search for a suffix and the second into one for an occurrence.
-/

namespace Strata.Like

/-! ## Tokens of escaped texts -/

theorem tokens_cons_of_ne {c : Char} (h : c ≠ escape) (rest : List Char) :
    tokens (c :: rest) = token c :: tokens rest := by
  cases rest with
  | nil => rfl
  | cons d rest => rw [tokens, if_neg h]

theorem tokens_percent (rest : List Char) : tokens ('%' :: rest) = .run :: tokens rest :=
  tokens_cons_of_ne (by decide) rest

theorem token_of_not_isSpecial {c : Char} (h : isSpecial c = false) : token c = .exact c := by
  have hne : ¬ (c = '%' ∨ c = '_' ∨ c = escape) := by
    rw [← isSpecial_iff, h]
    exact Bool.false_ne_true
  rw [token, if_neg fun h => hne (.inl h), if_neg fun h => hne (.inr (.inl h))]

theorem tokens_literal_append (text rest : List Char) :
    tokens (literal text ++ rest) = text.map .exact ++ tokens rest := by
  induction text with
  | nil => rfl
  | cons c text ih =>
      cases hc : isSpecial c with
      | true =>
          rw [literal_cons_of_isSpecial hc, List.cons_append, List.cons_append, tokens,
            if_pos rfl, ih]
          rfl
      | false =>
          have hne : c ≠ escape := fun h => by
            rw [isSpecial_iff.2 (.inr (.inr h))] at hc
            exact Bool.noConfusion hc
          rw [literal_cons_of_not_isSpecial hc, List.cons_append, tokens_cons_of_ne hne, ih,
            token_of_not_isSpecial hc]
          rfl

/-! ## Runs

Several runs in a row are collapsed by the matcher. That changes nothing: an end of an end of a text
is an end of the text. -/

theorem someTail_iff {test : List Char → Bool} {text : List Char} :
    someTail test text = true ↔ ∃ tail, tail <:+ text ∧ test tail = true := by
  induction text with
  | nil => simp [someTail]
  | cons c text ih =>
      rw [someTail, Bool.or_eq_true, ih]
      constructor
      · rintro (h | ⟨tail, hs, h⟩)
        · exact ⟨c :: text, List.suffix_refl _, h⟩
        · exact ⟨tail, hs.trans (List.suffix_cons c text), h⟩
      · rintro ⟨tail, hs, h⟩
        rcases List.suffix_cons_iff.1 hs with rfl | hs
        · exact .inl h
        · exact .inr ⟨tail, hs, h⟩

theorem accepts_run_iff {rest : List Token} {text : List Char} :
    accepts (.run :: rest) text = true ↔ ∃ tail, tail <:+ text ∧ accepts rest tail = true := by
  induction rest generalizing text with
  | nil => exact someTail_iff
  | cons token rest ih =>
      cases token with
      | one => exact someTail_iff
      | exact c => exact someTail_iff
      | run =>
          rw [accepts, startsWithRun, if_pos rfl, ih]
          constructor
          · rintro ⟨tail, hs, h⟩
            exact ⟨text, List.suffix_refl _, ih.2 ⟨tail, hs, h⟩⟩
          · rintro ⟨tail, hs, h⟩
            obtain ⟨shorter, hs', h'⟩ := ih.1 h
            exact ⟨shorter, hs'.trans hs, h'⟩

theorem accepts_run_nil (text : List Char) : accepts [.run] text = true :=
  accepts_run_iff.2 ⟨[], List.nil_suffix, rfl⟩

/-! ## Exact characters -/

theorem accepts_exact (operand text : List Char) :
    accepts (operand.map .exact) text = true ↔ text = operand := by
  induction operand generalizing text with
  | nil => simp [accepts]
  | cons c operand ih =>
      cases text with
      | nil => simp [accepts]
      | cons t text => simp [accepts, ih]

theorem accepts_exact_run (operand text : List Char) :
    accepts (operand.map .exact ++ [.run]) text = true ↔ operand <+: text := by
  induction operand generalizing text with
  | nil => simp [accepts_run_nil]
  | cons c operand ih =>
      cases text with
      | nil => simp [accepts]
      | cons t text =>
          rw [List.map_cons, List.cons_append, accepts, Bool.and_eq_true, beq_iff_eq, ih,
            List.cons_prefix_cons, eq_comm]

theorem occursIn_eq_someTail (needle text : List Char) :
    Text.occursIn needle text = someTail needle.isPrefixOf text := by
  induction text with
  | nil => cases needle <;> rfl
  | cons c text ih => rw [Text.occursIn, someTail, ih]

theorem occursIn_iff {needle text : List Char} :
    Text.occursIn needle text = true ↔ ∃ tail, tail <:+ text ∧ needle <+: tail := by
  simp only [occursIn_eq_someTail, someTail_iff, List.isPrefixOf_iff_prefix]

/-! ## The three patterns -/

theorem matchChars_literal_percent (operand text : List Char) :
    matchChars (literal operand ++ ['%']) text = operand.isPrefixOf text := by
  rw [Bool.eq_iff_iff, matchChars, tokens_literal_append, tokens_percent,
    List.isPrefixOf_iff_prefix]
  exact accepts_exact_run operand text

theorem matchChars_percent_literal (operand text : List Char) :
    matchChars ('%' :: literal operand) text = operand.isSuffixOf text := by
  have htokens : tokens (literal operand) = operand.map .exact := by
    simpa [tokens] using tokens_literal_append operand []
  rw [Bool.eq_iff_iff, matchChars, tokens_percent, htokens, accepts_run_iff,
    List.isSuffixOf_iff_suffix]
  simp only [accepts_exact, exists_eq_right]

theorem matchChars_percent_literal_percent (operand text : List Char) :
    matchChars ('%' :: literal operand ++ ['%']) text = Text.occursIn operand text := by
  rw [Bool.eq_iff_iff, matchChars, List.cons_append, tokens_percent, tokens_literal_append,
    tokens_percent, accepts_run_iff, occursIn_iff]
  exact exists_congr fun tail => and_congr_right fun _ => accepts_exact_run operand tail

end Strata.Like

namespace Strata.TextTest

open Like Text

/-- The test made of an operator and its operand says of every text what the operator says. -/
theorem holds_ofOperator (operator : Operator) (operand input : String) :
    (ofOperator operator operand).holds input = operator.apply input operand := by
  cases operator with
  | equals => rfl
  | notEquals => rfl
  | contains =>
      rw [ofOperator, holds, folded_append_percent, folded_percent_append, folded_escapeText]
      exact matchChars_percent_literal_percent (folded operand) (folded input)
  | beginsWith =>
      rw [ofOperator, holds, folded_append_percent, folded_escapeText]
      exact matchChars_literal_percent (folded operand) (folded input)
  | endsWith =>
      rw [ofOperator, holds, folded_percent_append, folded_escapeText]
      exact matchChars_percent_literal (folded operand) (folded input)

end Strata.TextTest

namespace Strata

/-- What an operator asks of a text and its operand once both are in lowercase. -/
def Operator.Relates (operator : Operator) (input operand : List Char) : Prop :=
  match operator with
  | .equals => input = operand
  | .notEquals => input ≠ operand
  | .contains => operand <:+: input
  | .beginsWith => operand <+: input
  | .endsWith => operand <:+ input

theorem Operator.apply_iff {operator : Operator} {input operand : String} :
    operator.apply input operand = true
      ↔ operator.Relates (Text.folded input) (Text.folded operand) := by
  cases operator with
  | equals => exact beq_iff_eq
  | notEquals => exact bne_iff_ne
  | contains =>
      rw [apply, Relates, Like.occursIn_iff, List.infix_iff_prefix_suffix]
      exact exists_congr fun tail => and_comm
  | beginsWith => exact List.isPrefixOf_iff_prefix
  | endsWith => exact List.isSuffixOf_iff_suffix

/-- A pattern made of an operand and the operator itself give one answer, and it is the one that the
lowercase texts call for. -/
theorem TextTest.ofOperator_agrees (operator : Operator) (operand input : String) :
    (ofOperator operator operand).holds input = operator.apply input operand ∧
      ((ofOperator operator operand).holds input = true
        ↔ operator.Relates (Text.folded input) (Text.folded operand)) := by
  have hagree := holds_ofOperator operator operand input
  refine ⟨hagree, ?_⟩
  rw [hagree]
  exact Operator.apply_iff

end Strata
