import Strata.Proofs.Clauses

/-!
# Codes

What a text begins with can be told if it is one of some words of which none begins with another
(`IsCode`). A list of names can be told although any names may be in it, as a comma or a parenthesis
follows each of them. A numeral can be told if no further numeral character follows it.
-/

namespace Strata.Sql

section

variable {first second x y : List Symbol}

/-- Texts of which none begins with the other are different whatever follows. -/
theorem append_ne (h : ¬first <+: second ∧ ¬second <+: first) : first ++ x ≠ second ++ y := by
  intro heq
  have hfirst : first <+: second ++ y := heq ▸ List.prefix_append first x
  exact (List.prefix_or_prefix_of_prefix hfirst (List.prefix_append second y)).elim h.1 h.2

theorem not_prefix_append (h : ¬first <+: second ∧ ¬second <+: first) : ¬first <+: second ++ x := by
  rintro ⟨rest, heq⟩
  exact append_ne h heq

theorem prefix_map_plain {first second : List Char} :
    first.map Symbol.plain <+: second.map .plain ↔ first <+: second :=
  List.prefix_map_iff_of_injective fun _ _ => Symbol.plain.inj

/-- Words of which none begins with the other are different whatever follows. -/
theorem word_append_ne {first second : List Char} (h : ¬first <+: second ∧ ¬second <+: first) :
    word (String.ofList first) ++ x ≠ word (String.ofList second) ++ y := by
  rw [word_ofList, word_ofList]
  exact append_ne ⟨mt prefix_map_plain.1 h.1, mt prefix_map_plain.1 h.2⟩

theorem literal_cancel {value other : String}
    (h : symbols [.literal value] ++ x = symbols [.literal other] ++ y) :
    value = other ∧ x = y := by
  injection h with hvalue hrest
  exact ⟨Symbol.literal.inj hvalue, hrest⟩

/-! ## Codes -/

variable {κ : Type} {text : κ → List Symbol}

/-- Whether no word of a vocabulary begins with another. -/
def IsCode (text : κ → List Symbol) : Prop := ∀ k l, text k <+: text l → k = l

theorem isCode_of_pairwise (all : List κ) (hall : ∀ k, k ∈ all)
    (h : (all.map text).Pairwise fun first second => ¬first <+: second ∧ ¬second <+: first) :
    IsCode text := by
  intro k l hprefix
  by_contra hne
  have hsymm : Std.Symm fun k l => ¬text k <+: text l ∧ ¬text l <+: text k := ⟨fun _ _ => And.symm⟩
  exact ((List.pairwise_map.1 h).forall (hall k) (hall l) hne).1 hprefix

/-- Of a code it can be told which word a text begins with. -/
theorem IsCode.cancel (hcode : IsCode text) {k l : κ} (h : text k ++ x = text l ++ y) :
    k = l ∧ x = y := by
  have hkl : k = l := by
    by_contra hne
    exact append_ne ⟨fun hpre => hne (hcode k l hpre), fun hpre => hne (hcode l k hpre).symm⟩ h
  subst hkl
  exact ⟨rfl, List.append_cancel_left h⟩

end

theorem isCode_flag : IsCode fun value => symbols [flag value] := by
  refine isCode_of_pairwise [true, false] (by decide) ?_
  decide +kernel

/-! ## Lists of names -/

/-- What is to be read of a list of names after the first one. -/
def furtherNames : List String → List Symbol
  | [] => word ")"
  | name :: names => word ", " ++ (symbols [.literal name] ++ furtherNames names)

/-- What is to be read of a list of names. -/
def listedNames : List String → List Symbol
  | [] => word ")"
  | name :: names => symbols [.literal name] ++ furtherNames names

theorem symbols_literals (names : List String) :
    symbols (literals names) ++ word ")" = listedNames names := by
  match names with
  | [] => rfl
  | [name] => rfl
  | name :: next :: names =>
      have hliterals : literals (name :: next :: names)
          = [.literal name] ++ .fixed ", " :: literals (next :: names) := rfl
      rw [hliterals, symbols_append, symbols_fixed, List.append_assoc, List.append_assoc,
        symbols_literals (next :: names), listedNames, listedNames, furtherNames]

section

variable {names others : List String} {x y : List Symbol}

theorem furtherNames_cancel (h : furtherNames names ++ x = furtherNames others ++ y) :
    names = others ∧ x = y := by
  induction names generalizing others with
  | nil =>
      cases others with
      | nil => exact ⟨rfl, List.append_cancel_left h⟩
      | cons other others =>
          rw [furtherNames, furtherNames, List.append_assoc] at h
          exact absurd h (word_append_ne (by decide))
  | cons name names ih =>
      rw [furtherNames, List.append_assoc, List.append_assoc] at h
      cases others with
      | nil => exact absurd h (word_append_ne (by decide))
      | cons other others =>
          rw [furtherNames, List.append_assoc, List.append_assoc] at h
          obtain ⟨rfl, hnames⟩ := literal_cancel (List.append_cancel_left h)
          obtain ⟨rfl, hrest⟩ := ih hnames
          exact ⟨rfl, hrest⟩

theorem listedNames_cancel (h : listedNames names ++ x = listedNames others ++ y) :
    names = others ∧ x = y := by
  match names, others with
  | [], [] => exact ⟨rfl, List.append_cancel_left h⟩
  | [], _ :: _ => cases (List.cons.inj h).1
  | _ :: _, [] => cases (List.cons.inj h).1
  | name :: names, other :: others =>
      rw [listedNames, listedNames, List.append_assoc, List.append_assoc] at h
      obtain ⟨rfl, hnames⟩ := literal_cancel h
      obtain ⟨rfl, hrest⟩ := furtherNames_cancel hnames
      exact ⟨rfl, hrest⟩

end

/-! ## Numerals -/

theorem spellNat_injective {m n : Nat} (h : spellNat m = spellNat n) : m = n := by
  rw [← Nat.ofDigitChars_ten_toDigits (n := m), ← Nat.ofDigitChars_ten_toDigits (n := n)]
  exact congrArg (Nat.ofDigitChars 10 · 0) h

theorem minus_notMem_spellNat (n : Nat) : '-' ∉ spellNat n := fun h =>
  absurd (Lexeme.isDigit_of_mem_spellNat h) (by decide)

theorem spellInt_injective {i j : Int} (h : spellInt i = spellInt j) : i = j := by
  have hsign : ∀ m n : Nat, '-' :: spellNat m ≠ spellNat n := fun m n heq =>
    minus_notMem_spellNat n (heq ▸ List.mem_cons_self)
  rw [spellInt, spellInt] at h
  split at h <;> split at h
  · have habs := spellNat_injective (List.cons.inj h).2
    omega
  · exact absurd h (hsign _ _)
  · exact absurd h.symm (hsign _ _)
  · have habs := spellNat_injective h
    omega

/-- Whether a symbol may stand in a numeral. -/
def Symbol.isNumeral : Symbol → Bool
  | .plain c => c = '-' || c.isDigit
  | .literal _ => false

/-- Whether a text does not go on with a numeral. -/
def EndsNumeral (x : List Symbol) : Prop := x.takeWhile Symbol.isNumeral = []

theorem symbols_ordinal (value : Ordinal) :
    symbols [ordinal value] = (spellInt value.toInt).map .plain := by
  rw [ordinal, symbols_fixed, word_ofList, symbols_nil, List.append_nil]

theorem takeWhile_ordinal (value : Ordinal) {x : List Symbol} (hx : EndsNumeral x) :
    (symbols [ordinal value] ++ x).takeWhile Symbol.isNumeral = symbols [ordinal value] := by
  rw [List.takeWhile_append_of_pos, hx, List.append_nil]
  rw [symbols_ordinal]
  refine List.forall_mem_map.2 fun c hc => ?_
  rcases of_mem_spellInt hc with rfl | hdigit
  · rfl
  · rw [Symbol.isNumeral, hdigit, Bool.or_true]

/-- What comes after a numeral tells where it ends. -/
theorem ordinal_cancel {v w : Ordinal} {x y : List Symbol} (hx : EndsNumeral x)
    (hy : EndsNumeral y) (h : symbols [ordinal v] ++ x = symbols [ordinal w] ++ y) :
    v = w ∧ x = y := by
  have hspelled : symbols [ordinal v] = symbols [ordinal w] := by
    rw [← takeWhile_ordinal v hx, h, takeWhile_ordinal w hy]
  have hvw : v = w := by
    rw [symbols_ordinal, symbols_ordinal] at hspelled
    exact Int64.toInt_inj.1 (spellInt_injective
      ((List.map_injective_iff.2 fun _ _ => Symbol.plain.inj) hspelled))
  subst hvw
  exact ⟨rfl, List.append_cancel_left h⟩

end Strata.Sql
