import CrateDdl.Table.Context
import CrateDdl.Text.Placeholder

/-!
# Templates

The answer of a handler is a template: marks in its texts stand for the names of the table and the
column, and for the declaration of the column, which the context of the call supplies.
-/

set_option autoImplicit false

namespace CrateDdl

namespace Context

/-- The names of what a context holds, in alphabetical order. -/
def names (ctx : Context) : List String :=
  (if ctx.column.isSome then ["column"] else []) ++ (if ctx.diff.isSome then ["diff"] else []) ++
    ["platform"]

def tableMark : String := "\x7btable\x7d"
def columnMark : String := "\x7bcolumn\x7d"
def declarationMark : String := "\x7bdeclaration\x7d"

/-- Fills the table's name into a text. -/
def fillTable (ctx : Context) (s : String) : String :=
  match ctx.diff with
  | some diff => Text.fill tableMark diff.name s
  | none => s

/-- Fills the column's name and then its declaration into a text. The declaration is made only
if the text has a mark for it. -/
def fillColumn (ctx : Context) (s : String) : Except Fault String :=
  match ctx.column with
  | none => .ok s
  | some c =>
    let s := Text.fill columnMark c.name s
    if Text.hasMark declarationMark s then
      (ctx.platform.declaration c).map fun declaration => Text.fill declarationMark declaration s
    else .ok s

mutual

/-- Fills in the marks of a text, and of the texts in lists and tuples. A logical type is a text
without marks, and becomes it where there is something to fill in. -/
def fill (ctx : Context) : Value → Except Fault Value
  | .text s => (ctx.fillColumn (ctx.fillTable s)).map .text
  | .logical t =>
    if ctx.diff.isSome || ctx.column.isSome then .ok (.text t.name) else .ok (.logical t)
  | .list items => (ctx.fillAll items).map .list
  | .tuple items => (ctx.fillAll items).map .tuple
  | v => .ok v

def fillAll (ctx : Context) : List Value → Except Fault (List Value)
  | [] => .ok []
  | v :: rest => do
    let first ← ctx.fill v
    let later ← ctx.fillAll rest
    return first :: later

end

end Context

end CrateDdl
