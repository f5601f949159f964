import CrateDdl.Text.Blank
import CrateDdl.Text.DecimalDigit

/-!
# Numerals

Reading a number off a text: a sign, digits of any script with a point and an exponent, and
underscores that group digits. The outcome is a coefficient and a power of ten.
-/

set_option autoImplicit false

namespace CrateDdl.Number

open CrateDdl.Text

/-- An ASCII digit for one of any script and a small letter for an ASCII capital. -/
def plainChar (c : Char) : Char :=
  match digitValue? c with
  | some d => Char.ofNat (48 + d)
  | none => c.toLower

/-- The text without outer blanks, in plain characters. -/
def plainNumeral (s : String) : List Char := (stripChars s.toList).map plainChar

/-- A numeral as `plainNumeral` has it, except that separators stay: some kinds of numbers do not
take them for blanks. -/
def separatedNumeral (s : String) : List Char :=
  (trimChars isGap s.toList).map plainChar

/-- Drops the underscores if each stands between two digits. -/
def ungroup (previous : Char) : List Char → Option (List Char)
  | [] => if previous = '_' then none else some []
  | c :: rest =>
    if c = '_' then if previous.isDigit then ungroup c rest else none
    else if previous = '_' && !c.isDigit then none
    else (ungroup c rest).map (c :: ·)

/-- A sign, if there is one: whether it is a minus, and what follows. -/
def takeSign : List Char → Bool × List Char
  | '-' :: rest => (true, rest)
  | '+' :: rest => (false, rest)
  | s => (false, s)

/-- The number that ASCII digits spell. -/
def digitsValue (digits : List Char) : Nat :=
  digits.foldl (fun n c => 10 * n + (c.toNat - 48)) 0

/-- Digits and nothing else. -/
def wholeNumber? (s : List Char) : Option Nat :=
  if !s.isEmpty && s.all Char.isDigit then some (digitsValue s) else none

/-- The exponent after a mantissa: nothing, or `e` and a whole number with or without a sign. -/
def exponent? : List Char → Option Int
  | [] => some 0
  | 'e' :: rest =>
    let (negative, digits) := takeSign rest
    (wholeNumber? digits).map fun n => if negative then -(n : Int) else n
  | _ => none

/-- A coefficient and a power of ten: digits with or without a point, then an exponent. -/
def scaled? (s : List Char) : Option (Nat × Int) :=
  let (whole, afterWhole) := s.span Char.isDigit
  let (places, afterPlaces) :=
    match afterWhole with
    | '.' :: rest => rest.span Char.isDigit
    | rest => ([], rest)
  if whole.isEmpty && places.isEmpty then none
  else (exponent? afterPlaces).map fun e => (digitsValue (whole ++ places), e - places.length)

end CrateDdl.Number
