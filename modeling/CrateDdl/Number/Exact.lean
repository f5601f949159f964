/-!
# Exact rational numbers with a scale

A rational number as a fraction times powers of two and five, in lowest terms. The powers are
kept apart so that a number such as ten to the minus thousandth stays small. A number has one
such form, so equality of forms is equality of numbers, across the ways of writing them.
-/

set_option autoImplicit false

namespace CrateDdl.Number

/-- How often `p` divides `n`, at most `limit` times, and what is left. -/
def splitFactor (p : Nat) : Nat → Nat → Nat × Nat
  | 0, n => (0, n)
  | limit + 1, n =>
    if n % p = 0 then
      let (count, rest) := splitFactor p limit (n / p)
      (count + 1, rest)
    else (0, n)

/-- The number `numerator / denominator * 2 ^ twos * 5 ^ fives`. Neither part has a factor two or
five, and they have no factor in common; zero is `0 / 1` with no powers. -/
structure Exact where
  numerator : Int
  denominator : Nat
  twos : Int
  fives : Int
deriving DecidableEq, Repr

namespace Exact

def zero : Exact := ⟨0, 1, 0, 0⟩

/-- The form of `n / d * 2 ^ twos * 5 ^ fives`. -/
def ofScaled (n : Int) (d : Nat) (twos fives : Int) : Exact :=
  if n = 0 then zero
  else
    let (n₂, restN) := splitFactor 2 (n.natAbs.log2 + 1) n.natAbs
    let (n₅, restN) := splitFactor 5 (restN.log2 + 1) restN
    let (d₂, restD) := splitFactor 2 (d.log2 + 1) d
    let (d₅, restD) := splitFactor 5 (restD.log2 + 1) restD
    let common := restN.gcd restD
    ⟨n.sign * (restN / common : Nat), restD / common, twos + n₂ - d₂, fives + n₅ - d₅⟩

def ofInt (n : Int) : Exact := ofScaled n 1 0 0

end Exact

end CrateDdl.Number
