import CrateDdl.Fault

/-!
# Numbers from numerals

The numbers and bytes that a host writes as texts, with the fault of a text that is no numeral of
its kind.
-/

set_option autoImplicit false

namespace CrateDdl.Value

open CrateDdl.Number

def readBinary64 (text : String) : Except Fault Binary64 :=
  match Binary64.read? text with
  | some x => .ok x
  | none => .error (.unreadableFloat text)

def readDecimal (text : String) : Except Fault Decimal :=
  match Decimal.read? text with
  | some x => if x.inRange then .ok x else .error .decimalRange
  | none => .error .unreadableDecimal

/-- The length of the first run of digits that is too long for a whole number, after a number of
digits just before. -/
def longRun? (before : Nat) : List Char → Option Nat
  | [] => if maxDigits < before then some before else none
  | c :: rest =>
    if c.isDigit then longRun? (before + 1) rest
    else if maxDigits < before then some before
    else longRun? 0 rest

def readFraction (text : String) : Except Fault Rat :=
  match readFraction? text, longRun? 0 ((plainNumeral text).filter (· ≠ '_')) with
  | none, _ => .error (.unreadableFraction text)
  | some _, some digits => .error (.longNumeral digits)
  | some (n, 0), none => .error (.zeroDenominator n)
  | some (n, d), none => .ok (mkRat n d)

/-! ## Bytes -/

def hexDigit? (c : Char) : Option Nat :=
  if c.isDigit then some (c.toNat - 48)
  else if 'a' ≤ c.toLower && c.toLower ≤ 'f' then some (c.toLower.toNat - 87)
  else none

/-- The bytes that pairs of digits spell, from a position on. Blanks may stand between pairs. -/
def bytesFrom (position : Nat) : List Char → Except Fault (List UInt8)
  | [] => .ok []
  | c :: rest =>
    if Text.isGap c then bytesFrom (position + 1) rest
    else
      match hexDigit? c, rest with
      | none, _ => .error (.unreadableByte position)
      | some _, [] => .error (.unreadableByte (position + 1))
      | some high, d :: rest =>
        match hexDigit? d with
        | none => .error (.unreadableByte (position + 1))
        | some low => (bytesFrom (position + 2) rest).map (UInt8.ofNat (16 * high + low) :: ·)

/-- A character beyond ASCII is refused before any other. -/
def readBytes (text : String) : Except Fault (List UInt8) :=
  match text.toList.findIdx? (127 < ·.toNat) with
  | some position => .error (.unreadableByte position)
  | none => bytesFrom 0 text.toList

end CrateDdl.Value
