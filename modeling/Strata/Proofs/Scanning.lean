import Strata.Json.Source

/-!
# Written words are recognised

A text is read one character at a time, and a word may end only because the next character cannot
belong to it. So what is shown of a word has to say what may follow it: every word is recognised as
soon as it is complete, except a numeral, which is recognised in front of a character that would not
prolong it. In the text of a value a numeral is followed by a comma, by a closing bracket or by
nothing.

`scan` is what a lexeme makes of the characters that are still to come. Each lemma below moves it
over the spelling of one piece of text, whatever comes after.
-/

namespace Strata

namespace Lexeme

/-- The tokens of a text, the first of which a lexeme has been read of already. -/
def scan : Lexeme → List Char → List Token
  | lexeme, [] => lexeme.finish
  | lexeme, c :: rest => (lexeme.step c).1 ++ scan (lexeme.step c).2 rest

theorem scan_of_step {lexeme next : Lexeme} {tokens : List Token} {c : Char}
    (h : lexeme.step c = (tokens, next)) (rest : List Char) :
    lexeme.scan (c :: rest) = tokens ++ next.scan rest := by
  rw [scan, h]

/-! ## Strings

A character comes back as itself, but for the controls without a letter of their own: those are
read as code units, and joined to characters when the string ends. -/

/-- What is read of a character that was written in a string. -/
def writtenPiece (c : Char) : Piece :=
  if c.val < 0x20 ∧ c ≠ '\x08' ∧ c ≠ '\x0c' ∧ c ≠ '\n' ∧ c ≠ '\r' ∧ c ≠ '\t' then .unit c.toNat
  else .char c

theorem hexDigit?_hexChar {n : Nat} (h : n < 16) : hexDigit? (hexChar n) = some n := by
  have hall : ∀ m ∈ List.range 16, hexDigit? (hexChar m) = some m := by decide
  exact hall n (List.mem_range.2 h)

theorem toNat_lt_of_val_lt {c : Char} (h : c.val < 0x20) : c.toNat < 32 :=
  UInt32.lt_iff_toNat_lt.1 h

theorem scan_hex {pieces : List Piece} {c : Char} (h : c.val < 0x20) (rest : List Char) :
    scan (.text pieces)
        (['\\', 'u', '0', '0', hexChar (c.toNat / 16), hexChar (c.toNat % 16)] ++ rest)
      = scan (.text (.unit c.toNat :: pieces)) rest := by
  have hc := toNat_lt_of_val_lt h
  have hhigh := hexDigit?_hexChar (show c.toNat / 16 < 16 by omega)
  have hlow := hexDigit?_hexChar (show c.toNat % 16 < 16 by omega)
  have hcode : c.toNat / 16 * 16 + c.toNat % 16 = c.toNat := by omega
  have hfirst : step (.hex pieces 0 2) (hexChar (c.toNat / 16))
      = ([], .hex pieces (c.toNat / 16) 1) := by
    rw [step, hhigh]
    simp
  have hlast : step (.hex pieces (c.toNat / 16) 1) (hexChar (c.toNat % 16))
      = ([], .text (.unit c.toNat :: pieces)) := by
    rw [step, hlow]
    simp [hcode]
  show scan (.hex pieces 0 2) (hexChar (c.toNat / 16) :: hexChar (c.toNat % 16) :: rest) = _
  rw [scan_of_step hfirst, scan_of_step hlast]
  rfl

theorem scan_escapeChar (pieces : List Piece) (c : Char) (rest : List Char) :
    scan (.text pieces) (escapeChar c ++ rest) = scan (.text (writtenPiece c :: pieces)) rest := by
  unfold escapeChar
  split
  · next h => subst h; rfl
  split
  · next h => subst h; rfl
  split
  · next h => subst h; rfl
  split
  · next h => subst h; rfl
  split
  · next h => subst h; rfl
  split
  · next h => subst h; rfl
  split
  · next h => subst h; rfl
  next hquote hslash hb hf hn hr ht =>
  split
  · next hlow =>
      rw [scan_hex hlow, writtenPiece, if_pos ⟨hlow, hb, hf, hn, hr, ht⟩]
  · next hhigh =>
      have hstep : step (.text pieces) c = ([], .text (.char c :: pieces)) := by
        rw [step, if_neg hquote, if_neg hslash, if_neg hhigh]
      rw [List.singleton_append, scan_of_step hstep, writtenPiece, if_neg fun h => hhigh h.1]
      rfl

theorem scan_escapeChars (pieces : List Piece) (chars rest : List Char) :
    scan (.text pieces) (chars.flatMap escapeChar ++ rest)
      = scan (.text ((chars.map writtenPiece).reverse ++ pieces)) rest := by
  induction chars generalizing pieces with
  | nil => rfl
  | cons c chars ih =>
      rw [List.flatMap_cons, List.append_assoc, scan_escapeChar, ih, List.map_cons,
        List.reverse_cons, List.append_assoc]
      rfl

theorem joinPieces_writtenPiece (chars : List Char) :
    joinPieces (chars.map writtenPiece) = some chars := by
  induction chars with
  | nil => rfl
  | cons c chars ih =>
      rw [List.map_cons, writtenPiece]
      split
      · next h =>
          have hc := toNat_lt_of_val_lt h.1
          rw [joinPieces.eq_def]
          dsimp only
          rw [if_pos (Or.inl (by omega)), ih, Char.ofNat_toNat]
          rfl
      · rw [joinPieces, ih]
        rfl

theorem scan_spellStr (s : String) (rest : List Char) :
    scan .blank (spellStr s ++ rest) = .str (some s) :: scan .blank rest := by
  show scan (.text []) (s.toList.flatMap escapeChar ++ ['\x22'] ++ rest) = _
  rw [List.append_assoc, scan_escapeChars, List.append_nil]
  show .str ((joinPieces (s.toList.map writtenPiece).reverse.reverse).map String.ofList)
    :: scan .blank rest = _
  rw [List.reverse_reverse, joinPieces_writtenPiece, Option.map_some, String.ofList_toList]

/-! ## Numerals -/

theorem digit?_eq {c : Char} (h : c.isDigit = true) : digit? c = some (c.toNat - 48) := by
  have hrange : '0' ≤ c ∧ c ≤ '9' := by
    rw [Char.isDigit, Bool.and_eq_true, decide_eq_true_eq, decide_eq_true_eq] at h
    exact h
  rw [digit?, if_pos hrange]

theorem isDigit_ne {c d : Char} (h : c.isDigit = true) (hd : d.isDigit = false) : c ≠ d := by
  rintro rfl
  rw [h] at hd
  exact Bool.noConfusion hd

/-- Characters that cannot prolong a numeral. -/
def EndsNumeral (rest : List Char) : Prop :=
  ∀ c, rest.head? = some c → digit? c = none ∧ c ≠ '.' ∧ c ≠ 'e' ∧ c ≠ 'E'

theorem endsNumeral_nil : EndsNumeral [] := by
  intro c h
  cases h

theorem endsNumeral_cons {c : Char} (rest : List Char)
    (h : digit? c = none ∧ c ≠ '.' ∧ c ≠ 'e' ∧ c ≠ 'E') : EndsNumeral (c :: rest) := by
  intro d hd
  cases hd
  exact h

/-- A numeral is complete where a character follows that ends it, or none. -/
theorem scan_of_endNumber {lexeme : Lexeme} {n : Numeral} {rest : List Char}
    (hend : EndsNumeral rest) (hfinish : lexeme.finish = [.num n])
    (hstep : ∀ c, digit? c = none → c ≠ '.' → c ≠ 'e' → c ≠ 'E' →
      lexeme.step c = endNumber n c) :
    lexeme.scan rest = .num n :: scan .blank rest := by
  cases rest with
  | nil => exact hfinish
  | cons c rest =>
      obtain ⟨hd, hp, he, hE⟩ := hend c rfl
      rw [scan, hstep c hd hp he hE]
      rfl

/-- Digits are taken in one by one by a lexeme that goes on after each. -/
theorem scan_digits {taking : Nat → Lexeme}
    (htaking : ∀ value c, c.isDigit = true →
      (taking value).step c = ([], taking (10 * value + (c.toNat - 48))))
    (value : Nat) (digits rest : List Char) (h : ∀ c ∈ digits, c.isDigit = true) :
    (taking value).scan (digits ++ rest)
      = (taking (Nat.ofDigitChars 10 digits value)).scan rest := by
  induction digits generalizing value with
  | nil => rfl
  | cons c digits ih =>
      have hc := htaking value c (h c List.mem_cons_self)
      rw [List.cons_append, scan_of_step hc, ih _ fun d hd => h d (List.mem_cons_of_mem c hd),
        Nat.ofDigitChars_cons]
      rfl

theorem isDigit_of_mem_spellNat {n : Nat} {c : Char} (h : c ∈ spellNat n) : c.isDigit = true :=
  Nat.isDigit_of_mem_toDigits (by omega) (by omega) h

theorem exists_spellNat_cons (n : Nat) : ∃ c rest, spellNat n = c :: rest :=
  List.exists_cons_of_ne_nil Nat.toDigits_ne_nil

theorem spellNat_head_ne_zero {n : Nat} {c : Char} {rest : List Char}
    (hn : n ≠ 0) (h : spellNat n = c :: rest) : c ≠ '0' := by
  induction n using Nat.strongRecOn generalizing c rest with
  | _ n ih =>
      rw [spellNat, Nat.toDigits_eq_if (by omega)] at h
      split at h
      · next hlt =>
          cases h
          rwa [ne_eq, Nat.digitChar_eq_zero]
      · next hge =>
          obtain ⟨d, ds, hds⟩ := exists_spellNat_cons (n / 10)
          have hd := ih (n / 10) (by omega) (by omega) hds
          rw [spellNat] at hds
          rw [hds] at h
          cases h
          exact hd

/-- The lexeme of a whole part that was read to its end. -/
def afterWhole (negative : Bool) (value : Nat) : Lexeme :=
  if value = 0 then .zero negative else .whole negative value

theorem step_whole (negative : Bool) (value : Nat) (c : Char) (h : c.isDigit = true) :
    step (.whole negative value) c = ([], .whole negative (10 * value + (c.toNat - 48))) := by
  rw [step, if_neg (isDigit_ne h (by decide)),
    if_neg (not_or.2 ⟨isDigit_ne h (by decide), isDigit_ne h (by decide)⟩), digit?_eq h,
    Nat.mul_comm]

/-- A whole part is read alike after a minus sign and at the start of a numeral. -/
theorem scan_spellNat (lexeme : Lexeme) {negative : Bool}
    (hzero : lexeme.step '0' = ([], .zero negative))
    (hdigit : ∀ c, c.isDigit = true → c ≠ '0' →
      lexeme.step c = ([], .whole negative (c.toNat - 48)))
    (value : Nat) (rest : List Char) :
    lexeme.scan (spellNat value ++ rest) = (afterWhole negative value).scan rest := by
  by_cases hv : value = 0
  · subst hv
    rw [spellNat, Nat.toDigits_zero, List.singleton_append, scan_of_step hzero, afterWhole,
      if_pos rfl]
    rfl
  · obtain ⟨c, ds, hds⟩ := exists_spellNat_cons value
    have hdigits : ∀ d ∈ c :: ds, d.isDigit = true := by
      intro d hd
      rw [← hds] at hd
      exact isDigit_of_mem_spellNat hd
    have hstep := hdigit c (hdigits c List.mem_cons_self) (spellNat_head_ne_zero hv hds)
    have hvalue : Nat.ofDigitChars 10 ds (c.toNat - 48) = value := by
      have h := Nat.ofDigitChars_ten_toDigits (n := value)
      rw [spellNat] at hds
      rwa [hds, Nat.ofDigitChars_cons, Nat.mul_zero, Nat.zero_add] at h
    rw [hds, List.cons_append, scan_of_step hstep, List.nil_append,
      scan_digits (step_whole negative) _ ds rest fun d hd => hdigits d (List.mem_cons_of_mem c hd),
      hvalue, afterWhole, if_neg hv]

theorem step_blank_digit (c : Char) (h : c.isDigit = true) (hc : c ≠ '0') :
    step .blank c = ([], .whole false (c.toNat - 48)) := by
  have hblank : isBlank c = false := by
    simp only [isBlank, Bool.or_eq_false_iff, decide_eq_false_iff_not]
    exact ⟨⟨⟨isDigit_ne h (by decide), isDigit_ne h (by decide)⟩, isDigit_ne h (by decide)⟩,
      isDigit_ne h (by decide)⟩
  rw [step, start, hblank, if_neg Bool.false_ne_true, if_neg (isDigit_ne h (by decide)),
    if_neg (isDigit_ne h (by decide)), if_neg (isDigit_ne h (by decide)),
    if_neg (isDigit_ne h (by decide)), if_neg (isDigit_ne h (by decide)),
    if_neg (isDigit_ne h (by decide)), if_neg (isDigit_ne h (by decide)),
    if_neg (isDigit_ne h (by decide)), if_neg (isDigit_ne h (by decide)),
    if_neg (isDigit_ne h (by decide)), if_neg (isDigit_ne h (by decide)), if_neg hc, digit?_eq h]

theorem step_minus_digit (c : Char) (h : c.isDigit = true) (hc : c ≠ '0') :
    step .minus c = ([], .whole true (c.toNat - 48)) := by
  rw [step, if_neg hc, digit?_eq h]

theorem scan_sign_whole (negative : Bool) (value : Nat) (rest : List Char) :
    scan .blank ((if negative then ['-'] else []) ++ spellNat value ++ rest)
      = (afterWhole negative value).scan rest := by
  cases negative with
  | true => exact scan_spellNat .minus rfl step_minus_digit value rest
  | false => exact scan_spellNat .blank rfl step_blank_digit value rest

theorem scan_afterWhole_point (negative : Bool) (value : Nat) (rest : List Char) :
    (afterWhole negative value).scan ('.' :: rest) = scan (.point negative value) rest := by
  rw [afterWhole]
  split
  · next h => subst h; rfl
  · rfl

theorem scan_afterWhole_mark (negative : Bool) (value : Nat) (rest : List Char) :
    (afterWhole negative value).scan ('e' :: rest)
      = scan (.mark { negative, whole := value }) rest := by
  rw [afterWhole]
  split
  · next h => subst h; rfl
  · rfl

theorem scan_afterWhole_end (negative : Bool) (value : Nat) {rest : List Char}
    (hend : EndsNumeral rest) :
    (afterWhole negative value).scan rest
      = .num { negative, whole := value } :: scan .blank rest := by
  rw [afterWhole]
  split
  · next h =>
      subst h
      refine scan_of_endNumber hend rfl fun c hd hp he hE => ?_
      rw [step, if_neg hp, if_neg (not_or.2 ⟨he, hE⟩), hd]
      rfl
  · refine scan_of_endNumber hend rfl fun c hd hp he hE => ?_
    rw [step, if_neg hp, if_neg (not_or.2 ⟨he, hE⟩), hd]

/-! ### Digits after the point -/

/-- The character of a digit after the point. -/
def placeChar (d : Nat) : Char := Char.ofNat (48 + d)

theorem placeChar_spec {d : Nat} (h : d < 10) :
    digit? (placeChar d) = some d ∧ placeChar d ≠ 'e' ∧ placeChar d ≠ 'E' := by
  have hall : ∀ m ∈ List.range 10,
      digit? (placeChar m) = some m ∧ placeChar m ≠ 'e' ∧ placeChar m ≠ 'E' := by decide
  exact hall d (List.mem_range.2 h)

theorem step_fraction_place (negative : Bool) (value : Nat) (places : List Nat) {d : Nat}
    (h : d < 10) :
    step (.fraction negative value places) (placeChar d)
      = ([], .fraction negative value (d :: places)) := by
  obtain ⟨hd, he, hE⟩ := placeChar_spec h
  rw [step, if_neg (not_or.2 ⟨he, hE⟩), hd]

theorem scan_places (negative : Bool) (value : Nat) (places digits : List Nat) (rest : List Char)
    (h : ∀ d ∈ digits, d < 10) :
    scan (.fraction negative value places) (digits.map placeChar ++ rest)
      = scan (.fraction negative value (digits.reverse ++ places)) rest := by
  induction digits generalizing places with
  | nil => rfl
  | cons d digits ih =>
      have hd := step_fraction_place negative value places (h d List.mem_cons_self)
      rw [List.map_cons, List.cons_append, scan_of_step hd, List.nil_append,
        ih _ fun e he => h e (List.mem_cons_of_mem d he), List.reverse_cons, List.append_assoc]
      rfl

theorem scan_point_places (negative : Bool) (value d : Nat) (digits : List Nat)
    (rest : List Char) (h : ∀ e ∈ d :: digits, e < 10) :
    scan (.point negative value) ((d :: digits).map placeChar ++ rest)
      = scan (.fraction negative value (d :: digits).reverse) rest := by
  have hstep : step (.point negative value) (placeChar d)
      = ([], .fraction negative value [d]) := by
    rw [step, (placeChar_spec (h d List.mem_cons_self)).1]
  rw [List.map_cons, List.cons_append, scan_of_step hstep, List.nil_append,
    scan_places _ _ _ _ _ fun e he => h e (List.mem_cons_of_mem d he), List.reverse_cons]

theorem scan_fraction_end (negative : Bool) (value : Nat) (places : List Nat) {rest : List Char}
    (hend : EndsNumeral rest) :
    scan (.fraction negative value places) rest
      = .num { negative, whole := value, fraction := places.reverse } :: scan .blank rest := by
  refine scan_of_endNumber hend rfl fun c hd _ he hE => ?_
  rw [step, if_neg (not_or.2 ⟨he, hE⟩), hd]

/-! ### Exponents -/

theorem step_exponent (n : Numeral) (negative : Bool) (value : Nat) (c : Char)
    (h : c.isDigit = true) :
    step (.exponent n negative value) c
      = ([], .exponent n negative (10 * value + (c.toNat - 48))) := by
  rw [step, digit?_eq h, Nat.mul_comm]

theorem scan_exponent_digits {lexeme : Lexeme} {n : Numeral} {negative : Bool}
    (hdigit : ∀ c, c.isDigit = true →
      lexeme.step c = ([], .exponent n negative (c.toNat - 48)))
    (value : Nat) {rest : List Char} (hend : EndsNumeral rest) :
    lexeme.scan (spellNat value ++ rest)
      = .num (withExponent n negative value) :: scan .blank rest := by
  obtain ⟨c, ds, hds⟩ := exists_spellNat_cons value
  have hdigits : ∀ d ∈ c :: ds, d.isDigit = true := by
    intro d hd
    rw [← hds] at hd
    exact isDigit_of_mem_spellNat hd
  have hvalue : Nat.ofDigitChars 10 ds (c.toNat - 48) = value := by
    have h := Nat.ofDigitChars_ten_toDigits (n := value)
    rw [spellNat] at hds
    rwa [hds, Nat.ofDigitChars_cons, Nat.mul_zero, Nat.zero_add] at h
  rw [hds, List.cons_append, scan_of_step (hdigit c (hdigits c List.mem_cons_self)),
    List.nil_append, scan_digits (step_exponent n negative) _ ds rest
      fun d hd => hdigits d (List.mem_cons_of_mem c hd), hvalue]
  refine scan_of_endNumber hend rfl fun d hd _ _ _ => ?_
  rw [step, hd]

theorem step_mark_digit (n : Numeral) (c : Char) (h : c.isDigit = true) :
    step (.mark n) c = ([], .exponent n false (c.toNat - 48)) := by
  rw [step, if_neg (isDigit_ne h (by decide)), if_neg (isDigit_ne h (by decide)), digit?_eq h]

theorem step_sign_digit (n : Numeral) (c : Char) (h : c.isDigit = true) :
    step (.sign n true) c = ([], .exponent n true (c.toNat - 48)) := by
  rw [step, digit?_eq h]

theorem scan_mark (n : Numeral) (e : Int) {rest : List Char} (hend : EndsNumeral rest) :
    scan (.mark n) (spellInt e ++ rest)
      = .num { n with exponent := some e } :: scan .blank rest := by
  by_cases he : e < 0
  · have habs : -(e.natAbs : Int) = e := by omega
    have h := scan_exponent_digits (step_sign_digit n) e.natAbs hend
    rw [withExponent, if_pos rfl, habs] at h
    rw [spellInt, if_pos he]
    exact h
  · have habs : (e.natAbs : Int) = e := by omega
    have h := scan_exponent_digits (step_mark_digit n) e.natAbs hend
    rw [withExponent, if_neg Bool.false_ne_true, habs] at h
    rw [spellInt, if_neg he]
    exact h

/-- A numeral is recognised in front of characters that end it. -/
theorem scan_spellNumeral (n : Numeral) (hdigits : ∀ d ∈ n.fraction, d < 10) {rest : List Char}
    (hend : EndsNumeral rest) :
    scan .blank (n.spell ++ rest) = .num n :: scan .blank rest := by
  obtain ⟨negative, whole, fraction, exponent⟩ := n
  rw [Numeral.spell, List.append_assoc, List.append_assoc, scan_sign_whole]
  cases fraction with
  | nil =>
      cases exponent with
      | none => exact scan_afterWhole_end negative whole hend
      | some e =>
          refine (scan_afterWhole_mark negative whole (spellInt e ++ rest)).trans ?_
          exact scan_mark _ e hend
  | cons d digits =>
      refine (scan_afterWhole_point negative whole _).trans ?_
      refine (scan_point_places negative whole d digits _ hdigits).trans ?_
      cases exponent with
      | none =>
          refine (scan_fraction_end negative whole _ hend).trans ?_
          rw [List.reverse_reverse]
      | some e =>
          have hmark : step (.fraction negative whole (d :: digits).reverse) 'e'
              = ([], .mark { negative, whole, fraction := (d :: digits).reverse.reverse }) := rfl
          refine (scan_of_step hmark (spellInt e ++ rest)).trans ?_
          rw [List.reverse_reverse]
          exact scan_mark _ e hend

end Lexeme

end Strata
