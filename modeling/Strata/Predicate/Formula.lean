/-!
# Formulas

Boolean expressions over tests of some kind. `Formula.all`, `any` and `negate` build them without
constants, nested connectives of one kind, connectives of fewer than two parts and double negations
where the parts have none.
-/

namespace Strata

/-- A boolean expression over tests. -/
inductive Formula (α : Type) where
  | const (value : Bool)
  | and (parts : List (Formula α))
  | or (parts : List (Formula α))
  | not (inner : Formula α)
  | atom (test : α)

namespace Formula

variable {α : Type}

/-- Whether a formula is a constant. -/
def isConst (value : Bool) : Formula α → Bool
  | .const b => b == value
  | _ => false

/-- What a part adds to a conjunction. -/
def conjuncts : Formula α → List (Formula α)
  | .const true => []
  | .and inner => inner
  | part => [part]

/-- What a part adds to a disjunction. -/
def disjuncts : Formula α → List (Formula α)
  | .const false => []
  | .or inner => inner
  | part => [part]

/-- The conjunction of formulas. -/
def all (parts : List (Formula α)) : Formula α :=
  if parts.any (isConst false) then .const false
  else match parts.flatMap conjuncts with
    | [] => .const true
    | [part] => part
    | kept => .and kept

/-- The disjunction of formulas. -/
def any (parts : List (Formula α)) : Formula α :=
  if parts.any (isConst true) then .const true
  else match parts.flatMap disjuncts with
    | [] => .const false
    | [part] => part
    | kept => .or kept

/-- The negation of a formula. -/
def negate : Formula α → Formula α
  | .const b => .const !b
  | .not inner => inner
  | formula => .not formula

mutual

/-- The value of a formula under values of its tests. -/
def eval (value : α → Bool) : Formula α → Bool
  | .const b => b
  | .and parts => evalAll value parts
  | .or parts => evalAny value parts
  | .not inner => !inner.eval value
  | .atom test => value test

/-- Whether all parts are true. -/
def evalAll (value : α → Bool) : List (Formula α) → Bool
  | [] => true
  | part :: rest => part.eval value && evalAll value rest

/-- Whether some part is true. -/
def evalAny (value : α → Bool) : List (Formula α) → Bool
  | [] => false
  | part :: rest => part.eval value || evalAny value rest

end

end Formula

end Strata
