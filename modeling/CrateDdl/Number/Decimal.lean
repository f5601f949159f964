import CrateDdl.Number.Exact
import CrateDdl.Number.Numeral

/-!
# Decimal numbers

Numbers that keep the digits and the exponent they were written with, with infinities and two
kinds of values that are no number, each with an optional payload.
-/

set_option autoImplicit false

namespace CrateDdl.Number

/-- A finite decimal is `coefficient * 10 ^ exponent` with a sign, which zero keeps as well. -/
inductive Decimal
  | finite (negative : Bool) (coefficient : Nat) (exponent : Int)
  | infinite (negative : Bool)
  | nan (negative signaling : Bool) (payload : Nat)
deriving DecidableEq, Repr

namespace Decimal

/-- What follows the sign of a value that is no number: its digits, or nothing. -/
def payload? (s : List Char) : Option Nat := if s.isEmpty then some 0 else wholeNumber? s

/-- The decimal that a numeral denotes; underscores are passed over wherever they stand. -/
def read? (text : String) : Option Decimal := do
  let (negative, body) := takeSign ((plainNumeral text).filter (· ≠ '_'))
  if body = "inf".toList || body = "infinity".toList then return .infinite negative
  match body with
  | 'n' :: 'a' :: 'n' :: rest => return .nan negative false (← payload? rest)
  | 's' :: 'n' :: 'a' :: 'n' :: rest => return .nan negative true (← payload? rest)
  | _ =>
    let (coefficient, exponent) ← scaled? body
    return .finite negative coefficient exponent

def isZero : Decimal → Bool
  | .finite _ coefficient _ => coefficient == 0
  | _ => false

/-- The greatest exponent that a leading digit may have. -/
def maxExponent : Int := 999999999999999999

/-- The least exponent that a last digit may have. -/
def minExponent : Int := -1999999999999999997

/-- The exponents of the leading and the last digit are within bounds. -/
def inRange : Decimal → Bool
  | .finite _ coefficient exponent =>
    minExponent ≤ exponent &&
      exponent + (Nat.toDigits 10 coefficient).length - 1 ≤ maxExponent
  | _ => true

/-- The number that a finite decimal is. -/
def toExact? : Decimal → Option Exact
  | .finite negative coefficient exponent =>
    some (Exact.ofScaled (if negative then -(coefficient : Int) else coefficient) 1
      exponent exponent)
  | _ => none

end Decimal

/-- The numerator and the denominator that a numeral denotes: two whole numbers with a bar
between them, or a decimal. They need not be in lowest terms, nor the denominator nonzero. -/
def readFraction? (text : String) : Option (Int × Nat) := do
  let (negative, body) := takeSign (← ungroup ' ' (plainNumeral text))
  let above := body.takeWhile (· ≠ '/')
  let (n, d) ←
    match body.dropWhile (· ≠ '/') with
    | [] => do
      let (coefficient, exponent) ← scaled? above
      pure (coefficient * Nat.pow 10 exponent.toNat, Nat.pow 10 (-exponent).toNat)
    | _ :: below => do pure (← wholeNumber? above, ← wholeNumber? below)
  return (if negative then -(n : Int) else n, d)

end CrateDdl.Number
