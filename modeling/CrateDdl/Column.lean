import CrateDdl.Text.Quoted
import CrateDdl.Value.Collection

/-!
# Columns

A column as a host describes it. Its length and default are kept for the host; no declaration
shows them.
-/

set_option autoImplicit false

namespace CrateDdl

namespace ColumnType

/-- The column type that a value stands for: a logical type is a standard one. A text is none. -/
def ofValue? : Value → Option ColumnType
  | .logical t => some (.standard t)
  | .columnType t => some t
  | _ => none

/-- The logical type, unless the clause is the caller's own. -/
def logicalType? : ColumnType → Option LogicalType
  | standard t => some t
  | custom _ => none

end ColumnType

/-- The name as it stands in SQL. -/
def renderedName (quoted : Bool) (name : String) : String :=
  if quoted then Text.identifier name else name

structure Column where
  name : String
  type : ColumnType
  length : Value := .null
  default : Value := .null
  comment : Option String := none
  quoted : Bool := false
deriving Repr

namespace Column

/-- A column of a type given by any value. -/
def ofParts (name : String) (type length default : Value) (comment : Option String)
    (quoted : Bool) : Except Fault Column :=
  match ColumnType.ofValue? type with
  | some type => .ok ⟨name, type, length, default, comment, quoted⟩
  | none => .error (.columnType name type)

/-- The name as it stands in a declaration. -/
def renderedName (c : Column) : String := CrateDdl.renderedName c.quoted c.name

/-- The comment, if there is one and it is not empty. -/
def comment? (c : Column) : Option String := c.comment.filter fun comment => !comment.isEmpty

/-- Whether two columns are equal, with equality of values for the length and the default. Parts
behind the first difference are not compared. -/
def equal (a b : Column) : Except Fault Bool := do
  if a.name != b.name || a.type != b.type then return false
  if !(← a.length.equal b.length) then return false
  if !(← a.default.equal b.default) then return false
  return a.comment == b.comment && a.quoted == b.quoted

end Column

end CrateDdl
