import Strata.Text.CaseTable

/-!
# Lowercasing

Names and values are compared without regard to case, by comparing their lowercase. Lowercasing
follows Unicode in full: a character may become two (`İ`), and a capital sigma takes its final form
at the end of a word, which depends on the text around it.

`lowerChar` is the mapping of one character out of context, `lowercase` that of a text.
-/

namespace Strata.Text

/-- The lowercase of a character that stands alone. -/
def lowerChar (c : Char) : List Char :=
  if c.val < 0x80 then [c.toLower]
  else if c = 'İ' then ['i', '\u0307']
  else match caseRuns.find? (·.covers c.toNat) with
    | some run => [Char.ofNat (c.toNat + run.shift).toNat]
    | none => [c]

/-- Whether a character is cased. -/
def isCased (c : Char) : Bool := inRanges casedRanges c.toNat

/-- Whether a character is passed over when the case of its neighbours is looked at. -/
def isCaseIgnorable (c : Char) : Bool := inRanges caseIgnorableRanges c.toNat

/-- Whether a word goes on: the first character that is not passed over is cased. -/
def goesOn : List Char → Bool
  | [] => false
  | c :: rest => if isCaseIgnorable c then goesOn rest else isCased c

/-- Whether a cased character precedes, once `c` has been read after a text where `before` told it. -/
def casedAfter (before : Bool) (c : Char) : Bool :=
  if isCaseIgnorable c then before else isCased c

/-- The lowercase of a text of which `before` tells whether a cased character precedes it. A capital
sigma is final when one precedes it and the word does not go on. -/
def lowerFrom (before : Bool) : List Char → List Char
  | [] => []
  | c :: rest =>
    (if c = 'Σ' then [if before && !goesOn rest then 'ς' else 'σ'] else lowerChar c)
      ++ lowerFrom (casedAfter before c) rest

/-- The lowercase of a text as characters. -/
def folded (text : String) : List Char := lowerFrom false text.toList

/-- The lowercase of a text. -/
def lowercase (text : String) : String := String.ofList (folded text)

/-- Whether two texts are equal without regard to case. -/
def same (a b : String) : Bool := folded a == folded b

end Strata.Text
