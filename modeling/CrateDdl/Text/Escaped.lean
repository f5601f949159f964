import CrateDdl.Text.Printable

/-!
# Escaped literals

The form in which a text or a byte string is shown inside messages and collections: between
quotes, with everything that cannot be read off the page escaped.
-/

set_option autoImplicit false

namespace CrateDdl.Text

/-- A number in small hexadecimal digits, filled up with zeros to a width. -/
def hex (width n : Nat) : List Char :=
  let digits := Nat.toDigits 16 n
  List.replicate (width - digits.length) '0' ++ digits

/-- Single quotes, unless the text has a single quote and no double one. -/
def quoteFor (s : List Char) : Char :=
  if s.contains '\x27' && !s.contains '"' then '"' else '\x27'

/-- Escapes shared by texts and byte strings. -/
def escapeCommon? (q c : Char) : Option (List Char) :=
  if c = q || c = '\\' then some ['\\', c]
  else if c = '\t' then some ['\\', 't']
  else if c = '\n' then some ['\\', 'n']
  else if c = '\r' then some ['\\', 'r']
  else none

/-- A printable character stands for itself; another is written as its code point in two, four
or eight hexadecimal digits. -/
def escapeChar (q c : Char) : List Char :=
  match escapeCommon? q c with
  | some escaped => escaped
  | none =>
    if isPrintable c then [c]
    else if c.toNat < 0x100 then '\\' :: 'x' :: hex 2 c.toNat
    else if c.toNat < 0x10000 then '\\' :: 'u' :: hex 4 c.toNat
    else '\\' :: 'U' :: hex 8 c.toNat

/-- A byte of printable ASCII stands for itself; another is written in two hexadecimal digits. -/
def escapeByte (q : Char) (b : UInt8) : List Char :=
  let c := Char.ofNat b.toNat
  match escapeCommon? q c with
  | some escaped => escaped
  | none => if 32 ≤ b.toNat && b.toNat < 127 then [c] else '\\' :: 'x' :: hex 2 b.toNat

/-- A text between quotes. -/
def escaped (s : String) : String :=
  let q := quoteFor s.toList
  String.ofList (q :: (s.toList.flatMap (escapeChar q) ++ [q]))

/-- A byte string between quotes, marked as such. -/
def escapedBytes (bytes : List UInt8) : String :=
  let q := quoteFor (bytes.map fun b => Char.ofNat b.toNat)
  String.ofList ('b' :: q :: (bytes.flatMap (escapeByte q) ++ [q]))

end CrateDdl.Text
