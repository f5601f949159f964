import CrateDdl.Number.Binary64
import CrateDdl.Number.Decimal

/-!
# Written numbers

How numbers are written. A float has the digits of its shortest decimal, in positional form for
leading exponents from -4 to 15 and with an exponent of at least two digits otherwise. A decimal
keeps its digits and its exponent, and is positional as long as the exponent is not positive and
there are fewer than six zeros after the point.
-/

set_option autoImplicit false

namespace CrateDdl.Number

def decimalDigits (n : Nat) : List Char := Nat.toDigits 10 n

/-- The digits before and after the point of `digits * 10 ^ place`. -/
def splitAtPoint (digits : List Char) (place : Int) : List Char × List Char :=
  if 0 ≤ place then (digits ++ List.replicate place.toNat '0', [])
  else
    let places := (-place).toNat
    if places < digits.length then
      (digits.take (digits.length - places), digits.drop (digits.length - places))
    else (['0'], List.replicate (places - digits.length) '0' ++ digits)

/-- A point between two runs of digits, if there are digits after it. -/
def joinAtPoint : List Char × List Char → List Char
  | (whole, []) => whole
  | (whole, places) => whole ++ '.' :: places

def signChars (negative : Bool) : List Char := if negative then ['-'] else []

def plusMinus (e : Int) : Char := if e < 0 then '-' else '+'

namespace Binary64

/-- The exponent with its sign, filled up to two digits. -/
def exponentChars (e : Int) : List Char :=
  let digits := decimalDigits e.natAbs
  'e' :: plusMinus e :: (List.replicate (2 - digits.length) '0' ++ digits)

/-- The digits of a finite value without its sign. -/
def magnitudeChars (m : Nat) (e : Int) : List Char :=
  if m = 0 then ['0']
  else
    let (coefficient, place) := shortest m e
    let digits := decimalDigits coefficient
    let leading : Int := place + digits.length - 1
    if -4 ≤ leading && leading < 16 then joinAtPoint (splitAtPoint digits place)
    else joinAtPoint (digits.take 1, digits.drop 1) ++ exponentChars leading

/-- The value with as few characters as possible: a whole number has no point. -/
def briefChars : Binary64 → List Char
  | .nan => "nan".toList
  | .infinite negative => signChars negative ++ "inf".toList
  | .finite negative m e => signChars negative ++ magnitudeChars m e

/-- The value with a point or an exponent, so that it is seen not to be an integer. -/
def chars (x : Binary64) : List Char :=
  match x with
  | .finite .. =>
    let digits := briefChars x
    if digits.any fun c => c = '.' || c = 'e' then digits else digits ++ ['.', '0']
  | _ => briefChars x

end Binary64

namespace Decimal

/-- Positional if the exponent is not positive and the leading digit is at most six places after
the point; otherwise one digit before the point and an exponent. -/
def magnitudeChars (coefficient : Nat) (exponent : Int) : List Char :=
  let digits := decimalDigits coefficient
  let leading : Int := exponent + digits.length - 1
  if exponent ≤ 0 && -6 ≤ leading then joinAtPoint (splitAtPoint digits exponent)
  else
    joinAtPoint (digits.take 1, digits.drop 1) ++
      'E' :: plusMinus leading :: decimalDigits leading.natAbs

def chars : Decimal → List Char
  | .finite negative coefficient exponent =>
    signChars negative ++ magnitudeChars coefficient exponent
  | .infinite negative => signChars negative ++ "Infinity".toList
  | .nan negative signaling payload =>
    signChars negative ++ (if signaling then "sNaN".toList else "NaN".toList) ++
      (if payload = 0 then [] else decimalDigits payload)

end Decimal

/-- A complex number: the imaginary part alone if the real part is a positive zero, otherwise
both parts in parentheses. -/
def complexChars (re im : Binary64) : List Char :=
  let imaginary := im.briefChars ++ ['j']
  if re = Binary64.zero false then imaginary
  else
    '(' :: (re.briefChars ++ (if im.isNegative then imaginary else '+' :: imaginary) ++ [')'])

/-- A fraction: the numerator alone if it is whole. -/
def fractionText (q : Rat) : String :=
  if q.den = 1 then toString q.num else toString q.num ++ "/" ++ toString q.den

end CrateDdl.Number
