import CrateDdl.Number.Notation
import CrateDdl.Text.Escaped
import CrateDdl.Text.Separated
import CrateDdl.Value.Basic

/-!
# Values as text

Two ways to write a value. Its literal names the kind and quotes texts; collections are written
with the literals of their items. Its display form is what is filled into SQL and messages: a
text is itself, a decimal or a fraction only its number.
-/

set_option autoImplicit false

namespace CrateDdl

open CrateDdl.Number CrateDdl.Text

namespace LogicalType

/-- The label with the name that it stands for. -/
def literal (t : LogicalType) : String :=
  "<LogicalType." ++ t.label ++ ": " ++ escaped t.name ++ ">"

/-- The label alone. -/
def display (t : LogicalType) : String := "LogicalType." ++ t.label

end LogicalType

namespace ColumnType

def literal : ColumnType → String
  | standard t => "StandardType(logical_type=" ++ t.literal ++ ")"
  | custom declaration => "CustomSQL(declaration=" ++ escaped declaration ++ ")"

end ColumnType

namespace Value

mutual

/-- The text that names a value unambiguously. -/
def literal : Value → String
  | null => "None"
  | bool b => if b then "True" else "False"
  | int n => toString n
  | float x => String.ofList x.chars
  | decimal x => "Decimal('" ++ String.ofList x.chars ++ "')"
  | fraction q => "Fraction(" ++ toString q.num ++ ", " ++ toString q.den ++ ")"
  | complex re im => String.ofList (complexChars re im)
  | text s => escaped s
  | bytes data => escapedBytes data
  | list items => "[" ++ commaSeparated (literals items) ++ "]"
  | tuple items =>
    "(" ++ commaSeparated (literals items) ++ (if items.length = 1 then ",)" else ")")
  | record fields => "\x7b" ++ commaSeparated (fieldLiterals fields) ++ "\x7d"
  | logical t => t.literal
  | columnType t => t.literal

def literals : List Value → List String
  | [] => []
  | v :: rest => v.literal :: literals rest

def fieldLiterals : List (String × Value) → List String
  | [] => []
  | (name, v) :: rest => (escaped name ++ ": " ++ v.literal) :: fieldLiterals rest

end

/-- The text that is filled into SQL and messages. -/
def display : Value → String
  | text s => s
  | decimal x => String.ofList x.chars
  | fraction q => fractionText q
  | logical t => t.display
  | v => v.literal

end Value

end CrateDdl
