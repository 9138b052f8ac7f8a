import Strata.Proofs.Folding

/-!
# Lowercasing twice

The lowercase of a text is its own lowercase. Where it is compared without regard to case it may
therefore stand for the text, and a name that was stored in lowercase is found again however often
it is lowercased.

Lowercasing looks at the text around a character only for the capital sigma. A character that is
its own lowercase and is no capital sigma is *settled*: it stays as it is wherever it stands. All
that lowercasing produces is settled. For ASCII and for what is written out that is seen by going
through it. For the runs of the table it says that none leads to a character that is moved itself;
`movedBits` holds those characters, so that each is found in one step.
-/

namespace Strata.Text

/-- A character that lowercasing leaves as it is, wherever it stands. -/
structure Settled (c : Char) : Prop where
  notSigma : c ≠ 'Σ'
  lower : lowerChar c = [c]

instance (c : Char) : Decidable (Settled c) :=
  decidable_of_iff (c ≠ 'Σ' ∧ lowerChar c = [c])
    ⟨fun ⟨hsigma, hlower⟩ => ⟨hsigma, hlower⟩, fun h => ⟨h.notSigma, h.lower⟩⟩

theorem lowerFrom_eq_self {text : List Char} (h : ∀ c ∈ text, Settled c) (before : Bool) :
    lowerFrom before text = text := by
  induction text generalizing before with
  | nil => rfl
  | cons c text ih =>
      rw [List.forall_mem_cons] at h
      rw [lowerFrom, if_neg h.1.notSigma, h.1.lower, ih h.2]
      rfl

/-! ## The runs of the table -/

def CaseRun.codes (run : CaseRun) : List Nat :=
  List.range' run.first ((run.last - run.first) / run.step + 1) run.step

theorem CaseRun.mem_codes {run : CaseRun} {code : Nat} (h : run.covers code = true) :
    code ∈ run.codes := by
  simp only [covers, Bool.and_eq_true, decide_eq_true_eq, beq_iff_eq] at h
  obtain ⟨⟨hfirst, hlast⟩, hstep⟩ := h
  refine List.mem_range'.2 ⟨(code - run.first) / run.step, ?_, ?_⟩
  · exact Nat.lt_succ_of_le (Nat.div_le_div_right (Nat.sub_le_sub_right hlast run.first))
  · rw [Nat.mul_div_cancel' (Nat.dvd_of_mod_eq_zero hstep)]
    omega

/-- The characters beyond ASCII that are not their own lowercase. -/
def movedCodes : List Nat := 'İ'.toNat :: caseRuns.flatMap CaseRun.codes

/-- The same characters as the bits of a number. -/
def movedBits : Nat := movedCodes.foldl (fun bits code => bits ||| 1 <<< code) 0

theorem testBit_of_mem_movedCodes : ∀ code ∈ movedCodes, movedBits.testBit code = true := by
  decide +kernel

/-- No run of the table leads to a character that is moved itself. -/
theorem not_testBit_of_mem_codes : ∀ run ∈ caseRuns, ∀ code ∈ run.codes,
    movedBits.testBit (code + run.shift).toNat = false := by
  decide +kernel

theorem find?_eq_none_of_not_testBit {code : Nat} (h : movedBits.testBit code = false) :
    caseRuns.find? (·.covers code) = none := by
  rw [List.find?_eq_none]
  intro run hrun hcovers
  have hmoved : code ∈ movedCodes :=
    List.mem_cons_of_mem _ (List.mem_flatMap.2 ⟨run, hrun, CaseRun.mem_codes hcovers⟩)
  rw [testBit_of_mem_movedCodes code hmoved] at h
  cases h

/-! ## Lowercase characters -/

theorem settled_ascii : ∀ code < 0x80, code < 'A'.toNat ∨ 'Z'.toNat < code →
    Settled (Char.ofNat code) := by
  decide +kernel

theorem settled_toLower {c : Char} (h : c.val < 0x80) : Settled c.toLower := by
  have hascii : ∀ code < 0x80, Settled (Char.ofNat code).toLower := by decide +kernel
  have hc := hascii c.toNat (UInt32.lt_iff_toNat_lt.1 h)
  rw [Char.ofNat_toNat] at hc
  exact hc

theorem settled_of_find?_eq_none {c : Char} (hascii : ¬ c.val < 0x80) (hi : c ≠ 'İ')
    (h : caseRuns.find? (·.covers c.toNat) = none) : Settled c where
  notSigma := by
    rintro rfl
    exact absurd h (by decide)
  lower := by rw [lowerChar, if_neg hascii, if_neg hi, h]

theorem settled_of_not_testBit {code : Nat} (hcode : 'Z'.toNat < code)
    (h : movedBits.testBit code = false) : Settled (Char.ofNat code) := by
  by_cases hvalid : code.isValidChar
  · by_cases hascii : code < 0x80
    · exact settled_ascii code hascii (.inr hcode)
    · have hnat := toNat_ofNat hvalid
      refine settled_of_find?_eq_none ?_ ?_ ?_
      · rw [UInt32.lt_iff_toNat_lt]
        exact fun hlt => hascii (hnat ▸ hlt)
      · intro hi
        rw [← hnat, hi, testBit_of_mem_movedCodes _ List.mem_cons_self] at h
        cases h
      · rw [hnat]
        exact find?_eq_none_of_not_testBit h
  · -- What is no code point counts as the null character.
    rw [Char.ofNat, dif_neg hvalid]
    decide +kernel

theorem settled_of_mem_lowerChar {c d : Char} (h : d ∈ lowerChar c) : Settled d := by
  rw [lowerChar] at h
  split at h
  · next hascii =>
      rw [List.mem_singleton.1 h]
      exact settled_toLower hascii
  · next hascii =>
      split at h
      · rcases List.mem_cons.1 h with rfl | h
        · decide +kernel
        · rw [List.mem_singleton.1 h]
          decide +kernel
      · next hi =>
          split at h
          · next run hfind =>
              -- A run leads beyond the capitals of ASCII, though it may lead into ASCII (as from
              -- the Kelvin sign), and it does not lead to what is moved itself.
              have hrun := List.mem_of_find?_eq_some hfind
              have hcovers := List.find?_some hfind
              rw [List.mem_singleton.1 h]
              refine settled_of_not_testBit ?_
                (not_testBit_of_mem_codes run hrun c.toNat (CaseRun.mem_codes hcovers))
              have hbeyond := Like.caseRuns_beyond run hrun
              simp only [CaseRun.covers, Bool.and_eq_true, decide_eq_true_eq] at hcovers
              have hfirst : run.first ≤ c.toNat := hcovers.1.1
              show 90 < _
              omega
          · next hfind =>
              rw [List.mem_singleton.1 h]
              exact settled_of_find?_eq_none hascii hi hfind

/-! ## Lowercase texts -/

theorem settled_of_mem_lowerFrom {before : Bool} {text : List Char} {d : Char}
    (h : d ∈ lowerFrom before text) : Settled d := by
  induction text generalizing before with
  | nil => cases h
  | cons c text ih =>
      rw [lowerFrom, List.mem_append] at h
      rcases h with h | h
      · split at h
        · rw [List.mem_singleton.1 h]
          split <;> decide +kernel
        · exact settled_of_mem_lowerChar h
      · exact ih h

theorem folded_lowercase (text : String) : folded (lowercase text) = folded text := by
  rw [folded, lowercase, String.toList_ofList]
  exact lowerFrom_eq_self (fun _ hmem => settled_of_mem_lowerFrom hmem) false

theorem lowercase_lowercase (text : String) : lowercase (lowercase text) = lowercase text :=
  lowercase_eq_iff.2 (folded_lowercase text)

theorem same_lowercase_self (text : String) : same (lowercase text) text = true :=
  same_iff.2 (folded_lowercase text)

theorem same_lowercase (a b : String) : same (lowercase a) (lowercase b) = same a b := by
  rw [same, same, folded_lowercase, folded_lowercase]

end Strata.Text
