import CrateDdl.Act
import CrateDdl.Column
import CrateDdl.Fault
import CrateDdl.Hook
import CrateDdl.Journal.Basic
import CrateDdl.Journal.Level
import CrateDdl.LogicalType
import CrateDdl.Number.Binary64
import CrateDdl.Number.Decimal
import CrateDdl.Number.Exact
import CrateDdl.Number.Notation
import CrateDdl.Number.Numeral
import CrateDdl.OrderedMap
import CrateDdl.Platform.Basic
import CrateDdl.Platform.Call
import CrateDdl.Platform.Capability
import CrateDdl.Platform.Keyword
import CrateDdl.Platform.Selection
import CrateDdl.Platform.TypeMapping
import CrateDdl.Proofs.Accounts
import CrateDdl.Proofs.Agreement
import CrateDdl.Proofs.Alike
import CrateDdl.Proofs.Assembly
import CrateDdl.Proofs.BooleanLiterals
import CrateDdl.Proofs.Checked
import CrateDdl.Proofs.Clauses
import CrateDdl.Proofs.CommentTarget
import CrateDdl.Proofs.CorrelationIds
import CrateDdl.Proofs.Course
import CrateDdl.Proofs.CreationFault
import CrateDdl.Proofs.Declared
import CrateDdl.Proofs.Dependence
import CrateDdl.Proofs.Diary
import CrateDdl.Proofs.Equality
import CrateDdl.Proofs.Escaping
import CrateDdl.Proofs.ExactForm
import CrateDdl.Proofs.Fields
import CrateDdl.Proofs.History
import CrateDdl.Proofs.InTurn
import CrateDdl.Proofs.Independence
import CrateDdl.Proofs.Indifference
import CrateDdl.Proofs.Invariants
import CrateDdl.Proofs.Lasting
import CrateDdl.Proofs.LevelFault
import CrateDdl.Proofs.Lines
import CrateDdl.Proofs.LowerCase
import CrateDdl.Proofs.Meaning
import CrateDdl.Proofs.NativeNames
import CrateDdl.Proofs.PlatformNames
import CrateDdl.Proofs.Refusal
import CrateDdl.Proofs.Registries
import CrateDdl.Proofs.Renaming
import CrateDdl.Proofs.Repetitions
import CrateDdl.Proofs.Requests
import CrateDdl.Proofs.SetUp
import CrateDdl.Proofs.Snapshot
import CrateDdl.Proofs.StartUp
import CrateDdl.Proofs.Unhooked
import CrateDdl.Proofs.UpperCase
import CrateDdl.Session.Context
import CrateDdl.Session.Run
import CrateDdl.Session.State
import CrateDdl.Session.Step
import CrateDdl.Table.Alteration
import CrateDdl.Table.Context
import CrateDdl.Table.Creation
import CrateDdl.Table.Description
import CrateDdl.Table.Note
import CrateDdl.Text.Blank
import CrateDdl.Text.Case
import CrateDdl.Text.Case.Context
import CrateDdl.Text.Case.LowerTable
import CrateDdl.Text.Case.Shift
import CrateDdl.Text.Case.UpperTable
import CrateDdl.Text.DecimalDigit
import CrateDdl.Text.Escaped
import CrateDdl.Text.Placeholder
import CrateDdl.Text.Printable
import CrateDdl.Text.Quoted
import CrateDdl.Text.Range
import CrateDdl.Text.Separated
import CrateDdl.Value.Basic
import CrateDdl.Value.Collection
import CrateDdl.Value.Equality
import CrateDdl.Value.Numeral
import CrateDdl.Value.Text
import CrateDdl.Value.Written
