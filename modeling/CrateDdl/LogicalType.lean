/-!
# Logical types

The column types that a host knows, independent of any database, and the type clause of a
column: a logical type, or SQL supplied by the caller.
-/

set_option autoImplicit false

namespace CrateDdl

inductive LogicalType
  | smallint
  | integer
  | bigint
  | boolean
  | string
  | text
  | float
  | double
  | datetime
  | datetimeTz
  | date
  | time
  | blob
deriving DecidableEq, Repr

namespace LogicalType

/-- All logical types, in the order in which they are listed to users. -/
def all : List LogicalType :=
  [smallint, integer, bigint, boolean, string, text, float, double, datetime, datetimeTz, date,
   time, blob]

/-- The name by which a host refers to the type. -/
def name : LogicalType → String
  | smallint => "smallint"
  | integer => "integer"
  | bigint => "bigint"
  | boolean => "boolean"
  | string => "string"
  | text => "text"
  | float => "float"
  | double => "double"
  | datetime => "timestamp"
  | datetimeTz => "timestamptz"
  | date => "date"
  | time => "time"
  | blob => "blob"

/-- The label by which messages refer to the type. -/
def label : LogicalType → String
  | smallint => "SMALLINT"
  | integer => "INTEGER"
  | bigint => "BIGINT"
  | boolean => "BOOLEAN"
  | string => "STRING"
  | text => "TEXT"
  | float => "FLOAT"
  | double => "DOUBLE"
  | datetime => "DATETIME"
  | datetimeTz => "DATETIMETZ"
  | date => "DATE"
  | time => "TIME"
  | blob => "BLOB"

/-- The type of a given name. -/
def ofName? (name : String) : Option LogicalType := all.find? (·.name == name)

theorem mem_all (t : LogicalType) : t ∈ all := by cases t <;> decide

@[simp] theorem ofName?_name (t : LogicalType) : ofName? t.name = some t := by
  cases t <;> rfl

theorem name_of_ofName? {s : String} {t : LogicalType} (h : ofName? s = some t) : t.name = s := by
  have := List.find?_some h
  simpa using this

end LogicalType

/-- What stands behind a column's name in a declaration. -/
inductive ColumnType
  | standard (type : LogicalType)
  /-- SQL that is rendered as it is. -/
  | custom (declaration : String)
deriving DecidableEq, Repr

end CrateDdl
