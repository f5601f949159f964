import CrateDdl.Platform.Capability
import CrateDdl.Platform.Keyword
import CrateDdl.Platform.TypeMapping
import CrateDdl.Table.Description
import CrateDdl.Value.Written

/-!
# The CrateDB platform

The SQL that the database understands: names, type clauses, declarations of columns and indexes,
comments, expressions and queries on its catalogue. What it has no way to express is a fault.
-/

set_option autoImplicit false

namespace CrateDdl

structure Platform where
  capabilities : Capabilities := .crate
deriving DecidableEq, Repr

namespace Platform

def name : String := "crate"

/-- Texts have no limit of their own; this is the largest length that can be asked for. -/
def varcharMaxLength : Nat := 9223372036854775807

def datetimeTzFormat : String := "%Y-%m-%d %H:%M:%S%z"

/-! ## Names and types -/

def quoteIdentifier (name : String) : String := Text.identifier name

/-- Columns of a result come back in lower case. -/
def resultCasing (column : String) : String := Text.lower column

def blobTypeDeclaration : Except Fault String :=
  .error (.unsupportedOperation "blob_type_declaration")

/-- The keyword of a logical type. There is one type for texts and one for points in time, and no
integer type of 64 bits; binary data cannot be stored. -/
def typeDeclaration : LogicalType → Except Fault String
  | .smallint => .ok "SHORT"
  | .integer => .ok "INT"
  | .bigint => .ok "DOUBLE"
  | .boolean => .ok "BOOLEAN"
  | .string => .ok "STRING"
  | .text => .ok "STRING"
  | .float => .ok "FLOAT"
  | .double => .ok "DOUBLE"
  | .datetime => .ok "TIMESTAMP"
  | .datetimeTz => .ok "TIMESTAMP"
  | .date => .ok "TIMESTAMP"
  | .time => .ok "TIMESTAMP"
  | .blob => blobTypeDeclaration

/-- No modifiers go with integer types. -/
def commonIntegerTypeDeclaration : String := ""

/-! ## Declarations -/

/-- The type clause of a column without its comment. -/
def typeClause : ColumnType → Except Fault String
  | .custom declaration => .ok declaration
  | .standard t => typeDeclaration t

/-- The comment behind a type clause, with its text as it is. -/
def inlineComment (p : Platform) (c : Column) : String :=
  if p.capabilities.inlineColumnComments then
    match c.comment? with
    | some comment => " COMMENT '" ++ comment ++ "'"
    | none => ""
  else ""

/-- A name, the type clause of a column, and its comment where comments stand in declarations. -/
def declareColumn (p : Platform) (name : String) (c : Column) : Except Fault String :=
  (typeClause c.type).map fun clause => name ++ " " ++ (clause ++ p.inlineComment c)

/-- The declaration of a column under its own name. -/
def declaration (p : Platform) (c : Column) : Except Fault String :=
  p.declareColumn c.renderedName c

def declareColumns (p : Platform) (columns : List Column) : Except Fault String :=
  (columns.mapM p.declaration).map Text.commaSeparated

/-- A full-text index over at least one column. -/
def declareIndex (index : Index) : Except Fault String :=
  if index.columns.isEmpty then
    .error (.invalidArgument (.text "Incomplete definition. 'columns' required."))
  else
    (Value.joined index.columns).map fun columns =>
      "INDEX " ++ index.renderedName ++ " using fulltext (" ++ columns ++ ")"

/-- The statement that sets the comment of a column. -/
def commentOnColumn (table column comment : String) : String :=
  "COMMENT ON COLUMN " ++ table ++ "." ++ column ++ " IS " ++ Text.stringLiteral comment

/-! ## Expressions -/

/-- A part of a text; without a length it goes to the end. -/
def substringExpression (value start length : Value) : Except Fault String := do
  let operands :=
    match length with
    | .null => [value, start]
    | _ => [value, start, length]
  return "SUBSTR(" ++ Text.commaSeparated (← operands.mapM Value.written) ++ ")"

/-- Only plain patterns can be matched. -/
def regexpExpression : String := "LIKE"

def dateDiffExpression (later earlier : Value) : Except Fault String := do
  return (← later.written) ++ " - " ++ (← earlier.written)

def nowExpression : Except Fault String := .error (.unsupportedOperation "now_expression")

/-- A number as a boolean literal; any other value as it is. -/
def convertBoolean (v : Value) : Value :=
  if v.isNumber then .text (if v.truthy then "true" else "false") else v

/-- Numbers as boolean literals, in a list or a tuple item by item. Lists and tuples are plain ones
here: those of a class of its own, such as tuples whose items have names, are not among the
values. -/
def convertBooleans : Value → Value
  | .list items => .list (items.map convertBoolean)
  | .tuple items => .tuple (items.map convertBoolean)
  | v => convertBoolean v

/-! ## Statements on whole tables, and the catalogue -/

def truncateTable : Except Fault String := .error (.unsupportedOperation "truncate_table_sql")

def readLock : Except Fault String := .error (.unsupportedOperation "read_lock_sql")

def listDatabases : String := "SELECT table_name FROM information_schema.tables"

def listTables : String := "SELECT table_name, schema_name FROM information_schema.tables"

/-- The columns of all tables. -/
def listTableColumns : String :=
  "SELECT column_name as field, data_type as type from information_schema.columns"

end Platform

end CrateDdl
