import CrateDdl.Platform.Basic
import CrateDdl.Table.Note

/-!
# Creating a table

One statement with the columns, the key and the indexes. Foreign keys are refused before anything
else. After that, columns with reserved names are warned about, whether or not the statement can
then be made.
-/

set_option autoImplicit false

namespace CrateDdl

namespace Platform

/-- The key clause behind the columns; an empty key has none. -/
def keyClause (options : TableOptions) : Except Fault String :=
  match options.primaryKeyColumns with
  | .error fault => .error fault
  | .ok [] => .ok ""
  | .ok columns => (Value.joined columns).map fun key => ", PRIMARY KEY(" ++ key ++ ")"

/-- The index declarations behind the columns and the key. -/
def indexClauses : List Index → Except Fault String
  | [] => .ok ""
  | index :: rest => do
    let first ← declareIndex index
    return ", " ++ first ++ (← indexClauses rest)

/-- The statement that creates a table. -/
def createStatement (p : Platform) (table : String) (columns : List Column)
    (options : TableOptions) : Except Fault String := do
  let fields ← p.declareColumns columns
  let key ← keyClause options
  let indexes ← indexClauses options.indexes
  return "CREATE TABLE " ++ table ++ " (" ++ fields ++ key ++ indexes ++ ")"

/-- Creates a table without foreign keys. -/
def createTable {σ : Type} (p : Platform) (note : Note σ) (table : String)
    (columns : List Column) (options : TableOptions) : Act σ String := do
  match options.foreignKeys with
  | .null => pure ()
  | _ => note.reject table "Create Table: foreign keys"
  note.warnReserved table columns
  let statement ← Act.ofExcept (p.createStatement table columns options)
  note Level.debug ("Generated " ++ statement)
  return statement

end Platform

end CrateDdl
