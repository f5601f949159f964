import CrateDdl.Hook
import CrateDdl.Table.Context
import CrateDdl.Table.Note

/-!
# Altering a table

The statements that add columns; any other change is refused before anything else. Hooks may
take over single columns, and the alteration as a whole: they are asked about each column in
turn and about the whole in the end, and the statements are put together from what they answer
and from the declarations of the columns that they leave alone.
-/

set_option autoImplicit false

namespace CrateDdl

/-- The surroundings of an alteration: where notes go, and what becomes of an event. -/
structure Host (σ : Type) where
  note : Note σ
  dispatch : HookEvent → Context → Act σ (Option (List Value))

/-- The surroundings in which events are dispatched to the handlers of a registry. -/
def Host.ofRegistry {σ H : Type} (note : Note σ) (registry : σ → Registry H)
    (call : Context → H → Act σ Value) : Host σ where
  note := note
  dispatch event := Hook.dispatch registry call (.event event)

/-- What an alteration has come to so far: the statements that add columns and those that set
their comments, and the statements of hooks that have taken over the other columns. -/
structure Draft where
  additions : List String := []
  comments : List String := []
  hooked : List Value := []
deriving Repr

/-- The statements of an alteration: the added columns; then what hooks make of the table, or
else the comments of these columns; then what hooks make of the other columns. -/
def Draft.statements (draft : Draft) (table : Option (List Value)) : List Value :=
  draft.additions.map .text ++ table.getD (draft.comments.map .text) ++ draft.hooked

namespace Platform

/-- The first part of a difference that the database cannot carry out. -/
def unsupportedChange? (diff : TableDiff) : Option String :=
  if !diff.removed.isEmpty then some "Alter Table: drop columns"
  else if !diff.changed.isEmpty then some "Alter Table: change column options"
  else if !diff.renamed.isEmpty then some "Alter Table: rename columns"
  else if diff.newName.isSome then some "Alter Table: rename table"
  else none

/-- The statement for the comment of an added column, if it has one. It names the column as it
was given, without quotes. -/
def commentStatement? (table : String) (c : Column) : Option String :=
  c.comment?.map (commentOnColumn table c.name)

/-- Adds the statements for a column that no hook takes over. -/
def addByDefault (p : Platform) (table : String) (draft : Draft) (c : Column) :
    Except Fault Draft :=
  (p.declaration c).map fun declaration =>
    { draft with
      additions := draft.additions ++ ["ALTER TABLE " ++ table ++ " ADD " ++ declaration]
      comments := draft.comments ++ (commentStatement? table c).toList }

/-- Asks the hooks about a column, and declares it if they leave it alone. -/
def addColumn {σ : Type} (p : Platform) (host : Host σ) (diff : TableDiff) (draft : Draft)
    (c : Column) : Act σ Draft := do
  match ← host.dispatch .addColumn ⟨p, some diff, some c⟩ with
  | some statements => return { draft with hooked := draft.hooked ++ statements }
  | none => Act.ofExcept (p.addByDefault diff.name draft c)

/-- Adds columns one after the other. -/
def addColumns {σ : Type} (p : Platform) (host : Host σ) (diff : TableDiff) (draft : Draft) :
    List Column → Act σ Draft
  | [] => pure draft
  | c :: rest => do
    let draft ← p.addColumn host diff draft c
    addColumns p host diff draft rest

/-- Adds columns to a table; no other change can be carried out. -/
def alterTable {σ : Type} (p : Platform) (host : Host σ) (diff : TableDiff) :
    Act σ (List Value) := do
  match unsupportedChange? diff with
  | some operation => host.note.reject diff.name operation
  | none => pure ()
  host.note.warnReserved diff.name diff.added
  let draft ← p.addColumns host diff {} diff.added
  let table ← host.dispatch .alterTable ⟨p, some diff, none⟩
  let statements := draft.statements table
  host.note Level.debug
    ("Generated " ++ toString statements.length ++ " statement(s) for ALTER TABLE " ++ diff.name)
  return statements

end Platform

end CrateDdl
