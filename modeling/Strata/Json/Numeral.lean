/-!
# Numerals

A JSON number as it is written: sign, whole part, digits after the point, exponent. Two questions
are asked of one. `Numeral.integer?` is the integer it stands for, if it is written as an integer
that fits in 64 bits. `Numeral.readable` tells whether it can be read at all: a numeral whose value
rounds beyond the largest double cannot.
-/

namespace Strata

/-- A JSON number as written. `fraction` holds the digits after the point, and is empty when there
is no point. -/
structure Numeral where
  negative : Bool
  whole : Nat
  fraction : List Nat := []
  exponent : Option Int := none
  deriving DecidableEq, Repr

namespace Numeral

/-- The numeral of an integer. -/
def ofInt (i : Int) : Numeral := { negative := i < 0, whole := i.natAbs }

/-- The integer a numeral stands for, when it has neither point nor exponent and fits in 64 bits,
with a sign if negative. Minus zero is not one. -/
def integer? (n : Numeral) : Option Int :=
  if n.fraction.isEmpty && n.exponent.isNone then
    if n.negative then
      if 0 < n.whole ∧ n.whole ≤ 0x8000000000000000 then some (-(n.whole : Int)) else none
    else if n.whole < 0x10000000000000000 then some n.whole else none
  else none

/-! ## Which numerals are readable

A numeral is read through a significand of 64 bits and a power of ten. Digits that no longer fit in
the significand are dropped; those before the point count towards the power. -/

/-- The digits of a natural number, the most significant first. -/
def digits (n : Nat) : List Nat := (Nat.toDigits 10 n).map fun c => c.toNat - 48

/-- Takes digits into a 64-bit significand while they fit, and gives back those that are left. -/
def fill (significand : Nat) : List Nat → Nat × List Nat
  | [] => (significand, [])
  | d :: rest =>
    if significand * 10 + d < 0x10000000000000000 then fill (significand * 10 + d) rest
    else (significand, d :: rest)

/-- The significand and the power of ten through which the numeral is read. -/
def scaled (n : Numeral) : Nat × Int :=
  let (whole, dropped) := fill 0 (digits n.whole)
  let (significand, unread) := fill whole n.fraction
  let places : Int := n.fraction.length - unread.length
  (significand, dropped.length - places + n.exponent.getD 0)

/-- The nearest number of 53 significant bits, a tie going to the even one. -/
def round53 (n : Nat) : Nat :=
  let extra := n.log2 + 1 - 53
  let unit := 1 <<< extra
  let quotient := n / unit
  let twice := 2 * (n % unit)
  (if unit < twice ∨ (unit = twice ∧ quotient % 2 = 1) then quotient + 1 else quotient) * unit

/-- The least number that rounds beyond the largest double. -/
def beyondDouble : Nat := (1 <<< 1024) - (1 <<< 970)

/-- Whether the value of the numeral can be held in a double. -/
def readable (n : Numeral) : Bool :=
  let (significand, power) := n.scaled
  if power < 0 then true
  else if 308 < power then significand == 0
  else round53 significand * round53 (Nat.pow 10 power.toNat) < beyondDouble

end Numeral

end Strata
