import Mathlib.Data.List.Forall2
import Strata.Proofs.LikeMatching

/-!
# What a pattern matches

Said without a matcher: a pattern is a row of tokens, and it matches the texts that can be cut into
as many consecutive pieces, each of which its token admits. The matcher goes through the tokens and
takes what each admits from the front of the text. Only at a run does it have a choice, and there it
tries every end of the text; the piece of the run is what lies before the end that did.

How characters make tokens is said by the relation `Reads` and not by a function. Two of its rules
begin with the escape character, but what follows tells them apart, so that every pattern is read in
one way.
-/

namespace Strata.Like

/-! ## Reading a pattern -/

/-- How a pattern is read as tokens from left to right. -/
inductive Reads : List Char → List Token → Prop where
  | nil : Reads [] []
  | run {rest : List Char} {tokens : List Token} (h : Reads rest tokens) :
      Reads ('%' :: rest) (.run :: tokens)
  | one {rest : List Char} {tokens : List Token} (h : Reads rest tokens) :
      Reads ('_' :: rest) (.one :: tokens)
  | escaped (c : Char) {rest : List Char} {tokens : List Token} (h : Reads rest tokens) :
      Reads ('\\' :: c :: rest) (.exact c :: tokens)
  | lone : Reads ['\\'] [.exact '\\']
  | plain {c : Char} {rest : List Char} {tokens : List Token} (hrun : c ≠ '%') (hone : c ≠ '_')
      (hescape : c ≠ '\\') (h : Reads rest tokens) : Reads (c :: rest) (.exact c :: tokens)

theorem token_of_ne {c : Char} (hrun : c ≠ '%') (hone : c ≠ '_') : token c = .exact c := by
  rw [token, if_neg hrun, if_neg hone]

theorem Reads.eq_tokens {pattern : List Char} {found : List Token} (h : Reads pattern found) :
    found = tokens pattern := by
  induction h with
  | nil => rfl
  | run _ ih => rw [tokens_percent, ih]
  | one _ ih =>
      rw [tokens_cons_of_ne (by decide), ih]
      rfl
  | escaped c _ ih =>
      rw [tokens, ih]
      exact (if_pos rfl).symm
  | lone => rfl
  | plain hrun hone hescape _ ih => rw [tokens_cons_of_ne hescape, token_of_ne hrun hone, ih]

theorem reads_cons_of_ne {c : Char} {rest : List Char} {found : List Token} (hescape : c ≠ '\\')
    (h : Reads rest found) : Reads (c :: rest) (token c :: found) := by
  by_cases hrun : c = '%'
  · subst hrun
    exact .run h
  · by_cases hone : c = '_'
    · subst hone
      exact .one h
    · rw [token_of_ne hrun hone]
      exact .plain hrun hone hescape h

theorem reads_tokens (pattern : List Char) : Reads pattern (tokens pattern) := by
  fun_induction tokens pattern with
  | case1 => exact .nil
  | case2 c =>
      by_cases hescape : c = '\\'
      · subst hescape
        exact .lone
      · exact reads_cons_of_ne hescape .nil
  | case3 d rest ih => exact .escaped d ih
  | case4 c d rest hescape ih => exact reads_cons_of_ne hescape ih

theorem reads_iff {pattern : List Char} {found : List Token} :
    Reads pattern found ↔ found = tokens pattern :=
  ⟨Reads.eq_tokens, fun h => h ▸ reads_tokens pattern⟩

/-! ## Cutting a text -/

/-- The pieces of a text that a token stands for. -/
def Token.Admits : Token → List Char → Prop
  | .run, _ => True
  | .one, piece => ∃ c, piece = [c]
  | .exact c, piece => piece = [c]

/-- Whether a text can be cut into a piece for each token. -/
def Splits (tokens : List Token) (text : List Char) : Prop :=
  ∃ pieces, List.Forall₂ Token.Admits tokens pieces ∧ pieces.flatten = text

theorem splits_nil_iff {text : List Char} : Splits [] text ↔ text = [] := by
  constructor
  · rintro ⟨pieces, hadmits, rfl⟩
    cases hadmits
    rfl
  · rintro rfl
    exact ⟨[], .nil, rfl⟩

theorem splits_cons_iff {token : Token} {rest : List Token} {text : List Char} :
    Splits (token :: rest) text
      ↔ ∃ piece tail, token.Admits piece ∧ Splits rest tail ∧ piece ++ tail = text := by
  constructor
  · rintro ⟨pieces, hadmits, rfl⟩
    obtain ⟨piece, more, hpiece, hmore, rfl⟩ := List.forall₂_cons_left_iff.1 hadmits
    exact ⟨piece, more.flatten, hpiece, ⟨more, hmore, rfl⟩, rfl⟩
  · rintro ⟨piece, tail, hpiece, ⟨more, hmore, rfl⟩, rfl⟩
    exact ⟨piece :: more, .cons hpiece hmore, rfl⟩

/-! ## The matcher -/

theorem accepts_one_iff {rest : List Token} {text : List Char} :
    accepts (.one :: rest) text = true
      ↔ ∃ c tail, accepts rest tail = true ∧ c :: tail = text := by
  cases text with
  | nil => simp [accepts]
  | cons d text => simp [accepts]

theorem accepts_exact_iff {c : Char} {rest : List Token} {text : List Char} :
    accepts (.exact c :: rest) text = true
      ↔ ∃ tail, accepts rest tail = true ∧ c :: tail = text := by
  cases text with
  | nil => simp [accepts]
  | cons d text =>
      rw [accepts, Bool.and_eq_true, beq_iff_eq]
      constructor
      · rintro ⟨rfl, htail⟩
        exact ⟨text, htail, rfl⟩
      · rintro ⟨tail, htail, hsplit⟩
        cases hsplit
        exact ⟨rfl, htail⟩

theorem accepts_iff_splits {tokens : List Token} {text : List Char} :
    accepts tokens text = true ↔ Splits tokens text := by
  induction tokens generalizing text with
  | nil => rw [splits_nil_iff, accepts, List.isEmpty_iff]
  | cons token rest ih =>
      rw [splits_cons_iff]
      cases token with
      | run =>
          rw [accepts_run_iff]
          constructor
          · rintro ⟨tail, ⟨piece, hsplit⟩, htail⟩
            exact ⟨piece, tail, trivial, ih.1 htail, hsplit⟩
          · rintro ⟨piece, tail, -, htail, hsplit⟩
            exact ⟨tail, ⟨piece, hsplit⟩, ih.2 htail⟩
      | one =>
          rw [accepts_one_iff]
          constructor
          · rintro ⟨c, tail, htail, hsplit⟩
            exact ⟨[c], tail, ⟨c, rfl⟩, ih.1 htail, hsplit⟩
          · rintro ⟨piece, tail, ⟨c, rfl⟩, htail, hsplit⟩
            exact ⟨c, tail, ih.2 htail, hsplit⟩
      | exact c =>
          rw [accepts_exact_iff]
          constructor
          · rintro ⟨tail, htail, hsplit⟩
            exact ⟨[c], tail, rfl, ih.1 htail, hsplit⟩
          · rintro ⟨piece, tail, rfl, htail, hsplit⟩
            exact ⟨tail, ih.2 htail, hsplit⟩

/-- A pattern is read in exactly one way, and it matches a text if and only if the text can be cut
into consecutive pieces, one for each token, that their tokens admit. -/
theorem matchChars_iff_splits (pattern text : List Char) :
    ∃ tokens, (∀ found, Reads pattern found ↔ found = tokens) ∧
      (matchChars pattern text = true
        ↔ ∃ pieces, List.Forall₂ Token.Admits tokens pieces ∧ pieces.flatten = text) :=
  ⟨tokens pattern, fun _ => reads_iff, accepts_iff_splits⟩

/-- The run gives back what it took until the escaped percent sign finds its place. -/
example : matchChars "%\\%_".toList "5%%!".toList = true := by decide +kernel

end Strata.Like
