import CrateDdl.Number.Exact
import CrateDdl.Number.Numeral

/-!
# Binary floating point

The 64-bit binary format: 53 significant bits and exponents from -1074 to 971. Reading a numeral
rounds to the nearest value, a half to the even neighbour. Writing takes the fewest digits that
read back, positionally from a ten-thousandth up to below ten to the sixteenth.
-/

set_option autoImplicit false

namespace CrateDdl.Number

/-- A value of the 64-bit format. A finite one is `mantissa * 2 ^ exponent`, with the mantissa
below `2 ^ 53`, and below `2 ^ 52` only if the exponent is -1074. -/
inductive Binary64
  | nan
  | infinite (negative : Bool)
  | finite (negative : Bool) (mantissa : Nat) (exponent : Int)
deriving DecidableEq, Repr

/-- The nearest whole number to `n / d`, a half going to the even one. -/
def roundHalfEven (n d : Nat) : Nat :=
  let q := n / d
  let r := n % d
  if 2 * r < d then q
  else if d < 2 * r then q + 1
  else if q % 2 = 0 then q else q + 1

/-- The fraction `n / d` divided by `base ^ e`, as numerator and denominator. -/
def descale (base n d : Nat) (e : Int) : Nat × Nat :=
  (n * base.pow (-e).toNat, d * base.pow e.toNat)

namespace Binary64

/-- The least exponent, shared by zero and the smallest values. -/
def minExponent : Int := -1074

/-- The greatest exponent. -/
def maxExponent : Int := 971

def zero (negative : Bool) : Binary64 := .finite negative 0 minExponent

/-- The value nearest to `n / d`. -/
def ofRatio (negative : Bool) (n d : Nat) : Binary64 :=
  if n = 0 then zero negative
  else
    let guess : Int := n.log2 - d.log2 - 52
    let (gn, gd) := descale 2 n d guess
    let e := max (if gn / gd < Nat.pow 2 52 then guess - 1 else guess) minExponent
    let (en, ed) := descale 2 n d e
    let m := roundHalfEven en ed
    let (m, e) := if m = Nat.pow 2 53 then (Nat.pow 2 52, e + 1) else (m, e)
    if maxExponent < e then .infinite negative else .finite negative m e

/-- The value nearest to `coefficient * 10 ^ exponent`. Beyond 400 powers of ten on either side
the answer is infinite or zero. -/
def ofScaled (negative : Bool) (coefficient : Nat) (exponent : Int) : Binary64 :=
  let size : Int := (Nat.toDigits 10 coefficient).length + exponent
  if coefficient = 0 || size < -400 then zero negative
  else if 400 < size then .infinite negative
  else ofRatio negative (coefficient * Nat.pow 10 exponent.toNat) (Nat.pow 10 (-exponent).toNat)

/-- The value that a numeral denotes. Blanks around it are passed over, but not separators. -/
def read? (text : String) : Option Binary64 := do
  let (negative, body) := takeSign (← ungroup ' ' (separatedNumeral text))
  if body = "inf".toList || body = "infinity".toList then return .infinite negative
  if body = "nan".toList then return .nan
  let (coefficient, exponent) ← scaled? body
  return ofScaled negative coefficient exponent

def isZero : Binary64 → Bool
  | .finite _ m _ => m == 0
  | _ => false

/-- The sign bit; a value that is no number has none. -/
def isNegative : Binary64 → Bool
  | .nan => false
  | .infinite negative => negative
  | .finite negative _ _ => negative

/-- The number that a finite value is. -/
def toExact? : Binary64 → Option Exact
  | .finite negative m e => some (Exact.ofScaled (if negative then -(m : Int) else m) 1 e 0)
  | _ => none

/-- The exponent of the leading decimal digit of `n / d`, for values in the range of the format. -/
def leadingExponent (n d : Nat) : Int := (Nat.toDigits 10 (n * Nat.pow 10 400 / d)).length - 401

/-- The decimal of the given number of digits that reads back as the value, if there is one: of
the two neighbours of the value the nearer, else the farther. -/
def digitsAt? (m : Nat) (e : Int) (n d : Nat) (count : Nat) : Option (Nat × Int) :=
  let place := leadingExponent n d - count + 1
  let (pn, pd) := descale 10 n d place
  let nearer := roundHalfEven pn pd
  let farther := if nearer = pn / pd then nearer + 1 else nearer - 1
  [nearer, farther].findSome? fun digits =>
    if ofScaled false digits place = .finite false m e then some (digits, place) else none

/-- The shortest decimal that reads back as `m * 2 ^ e`: its digits, and the place of the last.
Seventeen digits always suffice. A neighbour may be the next power of ten, so zeros at the end
are dropped. -/
def shortest (m : Nat) (e : Int) : Nat × Int :=
  let (n, d) := descale 2 m 1 (-e)
  let (digits, place) := ((List.range 17).findSome? fun k => digitsAt? m e n d (k + 1)).getD (m, e)
  let (zeros, digits) := splitFactor 10 17 digits
  (digits, place + zeros)

end Binary64

end CrateDdl.Number
