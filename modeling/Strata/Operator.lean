import Strata.Wire.Tag

/-!
# Operators

How a filter compares a text with one of its own. No comparison regards case.
-/

namespace Strata

/-- Whether the characters occur in a row in the others. -/
def Text.occursIn (needle : List Char) : List Char → Bool
  | [] => needle.isEmpty
  | c :: rest => needle.isPrefixOf (c :: rest) || occursIn needle rest

/-- A comparison of two texts. -/
inductive Operator where
  | equals
  | notEquals
  | contains
  | beginsWith
  | endsWith
  deriving DecidableEq, Repr

namespace Operator

instance : Inhabited Operator := ⟨.equals⟩

instance : Wire.Tag Operator where
  title := "StringOperator"
  all := [.equals, .notEquals, .contains, .beginsWith, .endsWith]
  canonical
    | .equals => "Equals"
    | .notEquals => "NotEquals"
    | .contains => "Contains"
    | .beginsWith => "BeginsWith"
    | .endsWith => "EndsWith"
  aliases
    | .equals => ["eq", "==", "equal"]
    | .notEquals => ["ne", "neq", "!=", "notequal"]
    | .contains => ["like"]
    | .beginsWith => ["startswith"]
    | .endsWith => []

/-- Whether a text compares as the operator says with the operand. -/
def apply (operator : Operator) (input operand : String) : Bool :=
  let input := Text.folded input
  let operand := Text.folded operand
  match operator with
  | .equals => input == operand
  | .notEquals => input != operand
  | .contains => Text.occursIn operand input
  | .beginsWith => operand.isPrefixOf input
  | .endsWith => operand.isSuffixOf input

end Operator

end Strata
