import CrateDdl.Act
import CrateDdl.Journal.Level
import CrateDdl.Column
import CrateDdl.Platform.Keyword

/-!
# Notes on requests about tables

Where a request about a table takes its notes: that it is refused, which of its columns have
reserved names, and in the end what it has generated.
-/

set_option autoImplicit false

namespace CrateDdl

/-- Takes a note of a given level. -/
abbrev Note (σ : Type) := Int → String → Act σ Unit

namespace Note

variable {σ : Type} (note : Note σ)

/-- Notes the refusal of an operation and fails. -/
def reject {α : Type} (table operation : String) : Act σ α := do
  note Level.debug ("Rejecting '" ++ operation ++ "' on table " ++ table)
  throw (.unsupportedOperation operation)

/-- Warns of every column whose name needs quotes and has none. -/
def warnReserved (table : String) : List Column → Act σ Unit
  | [] => pure ()
  | c :: rest => do
    if !c.quoted && Platform.isReservedKeyword c.name then
      note Level.warning
        ("Column " ++ table ++ "." ++ c.name ++
          " is a reserved keyword; declare it quoted to avoid syntax errors.")
    warnReserved table rest

end Note

end CrateDdl
