import CrateDdl.LogicalType
import CrateDdl.Number.Binary64
import CrateDdl.Number.Decimal

/-!
# Values

The values that a host may pass where it is free to pass anything: a default, a key, a hook's
answer, an operand of an expression. The kinds are those that messages tell apart.
-/

set_option autoImplicit false

namespace CrateDdl

inductive Value
  | null
  | bool (b : Bool)
  | int (n : Int)
  | float (x : Number.Binary64)
  | decimal (x : Number.Decimal)
  | fraction (q : Rat)
  | complex (re im : Number.Binary64)
  | text (s : String)
  | bytes (data : List UInt8)
  | list (items : List Value)
  | tuple (items : List Value)
  /-- Named fields, in the order of their names. -/
  | record (fields : List (String × Value))
  | logical (type : LogicalType)
  | columnType (type : ColumnType)
deriving Repr, Inhabited

namespace Value

/-- The name of a value's kind in messages. -/
def kind : Value → String
  | null => "NoneType"
  | bool _ => "bool"
  | int _ => "int"
  | float _ => "float"
  | decimal _ => "decimal.Decimal"
  | fraction _ => "Fraction"
  | complex .. => "complex"
  | text _ => "str"
  | bytes _ => "bytes"
  | list _ => "list"
  | tuple _ => "tuple"
  | record _ => "dict"
  | logical _ => "LogicalType"
  | columnType (.standard _) => "StandardType"
  | columnType (.custom _) => "CustomSQL"

/-- The text that a value is: a logical type counts as its name. -/
def asText? : Value → Option String
  | text s => some s
  | logical t => some t.name
  | _ => none

/-- Booleans count as numbers. -/
def isNumber : Value → Bool
  | bool _ | int _ | float _ | decimal _ | fraction _ | complex .. => true
  | _ => false

/-- What counts as true: nonzero numbers, nonempty texts and collections, and all types. What is
no number is not zero. -/
def truthy : Value → Bool
  | null => false
  | bool b => b
  | int n => n != 0
  | float x => !x.isZero
  | decimal x => !x.isZero
  | fraction q => q != 0
  | complex re im => !(re.isZero && im.isZero)
  | text s => !s.isEmpty
  | bytes data => !data.isEmpty
  | list items => !items.isEmpty
  | tuple items => !items.isEmpty
  | record fields => !fields.isEmpty
  | logical _ => true
  | columnType _ => true

/-- The most digits that a whole number is read or written with. -/
def maxDigits : Nat := 4300

def isLong (n : Int) : Bool := Nat.pow 10 maxDigits ≤ n.natAbs

mutual

/-- The value has a whole number in it that is too long to be written. -/
def isOversized : Value → Bool
  | int n => isLong n
  | fraction q => isLong q.num || isLong q.den
  | list items | tuple items => anyOversized items
  | record fields => anyFieldOversized fields
  | _ => false

def anyOversized : List Value → Bool
  | [] => false
  | v :: rest => v.isOversized || anyOversized rest

def anyFieldOversized : List (String × Value) → Bool
  | [] => false
  | (_, v) :: rest => v.isOversized || anyFieldOversized rest

end

end Value

end CrateDdl
