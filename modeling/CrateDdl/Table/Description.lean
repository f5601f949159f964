import CrateDdl.Column

/-!
# Tables

What a host asks for besides columns when it creates a table, and the difference between a table
and its wanted definition.
-/

set_option autoImplicit false

namespace CrateDdl

/-- A full-text index. Its columns may be any values; they have to be texts to be rendered. -/
structure Index where
  name : String
  columns : List Value := []
  quoted : Bool := false
deriving Repr

namespace Index

/-- An index over the items of a value. -/
def ofParts (name : String) (columns : Value) (quoted : Bool) : Except Fault Index :=
  columns.items.map fun columns => ⟨name, columns, quoted⟩

def renderedName (index : Index) : String := CrateDdl.renderedName index.quoted index.name

end Index

/-- A foreign key request other than null counts as one, even if it is empty. -/
structure TableOptions where
  primaryKey : Value := .null
  indexes : List Index := []
  foreignKeys : Value := .null
deriving Repr

namespace TableOptions

/-- The primary key's columns without repetitions; what is not truthy is an empty key. -/
def primaryKeyColumns (options : TableOptions) : Except Fault (List Value) :=
  if options.primaryKey.truthy then options.primaryKey.items.bind Value.distinct else .ok []

end TableOptions

structure ColumnRename where
  oldName : String
  column : Column
deriving Repr

structure TableDiff where
  name : String
  added : List Column := []
  removed : List Column := []
  changed : List Column := []
  renamed : List ColumnRename := []
  newName : Option String := none
deriving Repr

end CrateDdl
